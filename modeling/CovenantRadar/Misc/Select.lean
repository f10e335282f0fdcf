import Mathlib.Data.List.Dedup
import Mathlib.Data.List.Induction
import Mathlib.Data.List.Sort
import Mathlib.Order.Lattice
import Mathlib.Tactic.Common

/-!
# `max` with a key

Python's `max(items, key=...)`: the first of the items whose key is largest.
-/

namespace CovenantRadar

variable {α κ : Type} [LinearOrder κ]

/-- The loop of `max`: a later item replaces the best one only with a larger key. -/
def maxFrom (key : α → κ) (best : α) : List α → α
  | [] => best
  | x :: xs => maxFrom key (if key best < key x then x else best) xs

/-- `max(items, key=key, default=None)`. -/
def maxBy (key : α → κ) : List α → Option α
  | [] => none
  | x :: xs => some (maxFrom key x xs)

theorem maxFrom_mem (key : α → κ) (best : α) (xs : List α) : maxFrom key best xs ∈ best :: xs := by
  induction xs generalizing best with
  | nil => exact List.mem_singleton_self best
  | cons x xs ih =>
    rw [maxFrom]
    have chosen := ih (if key best < key x then x else best)
    rcases List.mem_cons.mp chosen with same | later
    · rw [same]
      split_ifs
      · exact List.mem_cons_of_mem _ List.mem_cons_self
      · exact List.mem_cons_self
    · exact List.mem_cons_of_mem _ (List.mem_cons_of_mem _ later)

theorem le_key_maxFrom (key : α → κ) {best x : α} {xs : List α} (member : x ∈ best :: xs) :
    key x ≤ key (maxFrom key best xs) := by
  induction xs generalizing best x with
  | nil => rw [List.mem_singleton.mp member]; exact le_refl _
  | cons y ys ih =>
    rw [maxFrom]
    have current := @ih (if key best < key y then y else best) _ List.mem_cons_self
    rcases List.mem_cons.mp member with rfl | rest
    · refine le_trans ?_ current
      split_ifs with larger
      · exact le_of_lt larger
      · exact le_refl _
    · rcases List.mem_cons.mp rest with rfl | later
      · refine le_trans ?_ current
        split_ifs with larger
        · exact le_refl _
        · exact not_lt.mp larger
      · exact ih (List.mem_cons_of_mem _ later)

theorem maxBy_eq_none {key : α → κ} {xs : List α} : maxBy key xs = none ↔ xs = [] := by
  cases xs <;> simp [maxBy]

theorem maxBy_mem {key : α → κ} {xs : List α} {x : α} (chosen : maxBy key xs = some x) :
    x ∈ xs := by
  cases xs with
  | nil => cases chosen
  | cons y ys => exact Option.some.inj chosen ▸ maxFrom_mem key y ys

theorem le_key_maxBy {key : α → κ} {xs : List α} {x y : α} (chosen : maxBy key xs = some x)
    (member : y ∈ xs) : key y ≤ key x := by
  cases xs with
  | nil => cases chosen
  | cons z zs => exact Option.some.inj chosen ▸ le_key_maxFrom key member

theorem maxFrom_of_le {key : α → κ} {best : α} {xs : List α}
    (smaller : ∀ x ∈ xs, key x ≤ key best) : maxFrom key best xs = best := by
  induction xs with
  | nil => rfl
  | cons x xs ih =>
    rw [maxFrom, if_neg (not_lt.mpr (smaller x List.mem_cons_self))]
    exact ih fun y member => smaller y (List.mem_cons_of_mem _ member)

theorem maxFrom_append (key : α → κ) (best : α) (xs ys : List α) :
    maxFrom key best (xs ++ ys) = maxFrom key (maxFrom key best xs) ys := by
  induction xs generalizing best with
  | nil => rfl
  | cons x xs ih => exact ih _

/-- Later items with keys that are not larger change nothing: the first maximum stays. -/
theorem maxBy_append_of_le {key : α → κ} {xs ys : List α} {x : α} (chosen : maxBy key xs = some x)
    (smaller : ∀ y ∈ ys, key y ≤ key x) : maxBy key (xs ++ ys) = some x := by
  cases xs with
  | nil => cases chosen
  | cons z zs =>
    have first : maxFrom key z zs = x := Option.some.inj chosen
    rw [List.cons_append, maxBy, maxFrom_append, first, maxFrom_of_le smaller]

/-- In a list with increasing keys the last item is chosen. -/
theorem maxBy_of_increasing {key : α → κ} {xs : List α}
    (increasing : xs.Pairwise (fun a b => key a < key b)) : maxBy key xs = xs.getLast? := by
  cases chosen : maxBy key xs with
  | none => rw [maxBy_eq_none.mp chosen]; rfl
  | some x =>
    obtain ⟨front, back, rfl⟩ := List.append_of_mem (maxBy_mem chosen)
    cases back with
    | nil => simp
    | cons y ys =>
      have larger := (List.pairwise_cons.mp (List.pairwise_append.mp increasing).2.1).1 y
        List.mem_cons_self
      have smaller := le_key_maxBy chosen (y := y) (by simp)
      exact absurd larger (not_lt.mpr smaller)

/-- Where the keys tell the items apart, their order does not matter. -/
theorem maxBy_perm {key : α → κ} {xs ys : List α} (apart : Set.InjOn key {x | x ∈ xs})
    (perm : xs.Perm ys) : maxBy key xs = maxBy key ys := by
  cases chosen : maxBy key xs with
  | none =>
    rw [maxBy_eq_none.mp chosen] at perm
    rw [List.nil_perm.mp perm]
    rfl
  | some x =>
    cases other : maxBy key ys with
    | none =>
      rw [maxBy_eq_none.mp other] at perm
      rw [List.perm_nil.mp perm] at chosen
      cases chosen
    | some y =>
      have listed := maxBy_mem chosen
      have listed' := perm.mem_iff.mpr (maxBy_mem other)
      have same : key x = key y := le_antisymm
        (le_key_maxBy other (perm.mem_iff.mp listed)) (le_key_maxBy chosen listed')
      rw [apart listed listed' same]

/-- Sorting by keys that tell the items apart forgets the order they came in. -/
theorem insertionSort_key_perm {key : α → κ} {xs ys : List α}
    (apart : Set.InjOn key {x | x ∈ xs}) (perm : xs.Perm ys) :
    xs.insertionSort (fun a b => key a ≤ key b) = ys.insertionSort (fun a b => key a ≤ key b) := by
  have total : Std.Total (fun a b : α => key a ≤ key b) := ⟨fun a b => le_total (key a) (key b)⟩
  have transitive : IsTrans α (fun a b => key a ≤ key b) := ⟨fun _ _ _ => le_trans⟩
  have sorted := List.pairwise_insertionSort (fun a b : α => key a ≤ key b) xs
  have sorted' := List.pairwise_insertionSort (fun a b : α => key a ≤ key b) ys
  refine List.Perm.eq_of_pairwise ?_ sorted sorted'
    ((List.perm_insertionSort _ xs).trans (perm.trans (List.perm_insertionSort _ ys).symm))
  intro a b first second below above
  exact apart (List.mem_insertionSort _ |>.mp first)
    (perm.mem_iff.mpr (List.mem_insertionSort _ |>.mp second)) (le_antisymm below above)

/-- Items related to others with the same keys are sorted alike. -/
theorem forall₂_insertionSort {β : Type} {R : α → β → Prop} {key : α → κ} {key' : β → κ}
    {xs : List α} {ys : List β} (same : ∀ x y, R x y → key x = key' y)
    (pairs : List.Forall₂ R xs ys) :
    List.Forall₂ R (xs.insertionSort fun a b => key a ≤ key b)
      (ys.insertionSort fun a b => key' a ≤ key' b) := by
  have insert : ∀ {x y} {xs : List α} {ys : List β}, R x y → List.Forall₂ R xs ys →
      List.Forall₂ R (xs.orderedInsert (fun a b => key a ≤ key b) x)
        (ys.orderedInsert (fun a b => key' a ≤ key' b) y) := by
    intro x y xs ys head pairs
    induction pairs with
    | nil => exact .cons head .nil
    | @cons x' y' xs ys first rest ih =>
      rw [List.orderedInsert, List.orderedInsert, same x y head, same x' y' first]
      split_ifs
      · exact .cons head (.cons first rest)
      · exact .cons first ih
  induction pairs with
  | nil => exact .nil
  | cons head _ ih => exact insert head ih

/-- An item goes to the front of a list of greater ones. -/
private theorem orderedInsert_of_le {r : α → α → Prop} [DecidableRel r] {x : α} {xs : List α}
    (least : ∀ y ∈ xs, r x y) : xs.orderedInsert r x = x :: xs := by
  cases xs with
  | nil => rfl
  | cons y ys => rw [List.orderedInsert, if_pos (least y List.mem_cons_self)]

private theorem filter_orderedInsert {r : α → α → Prop} [DecidableRel r] [IsTrans α r]
    {p : α → Bool} {x : α} {xs : List α} (sorted : xs.Pairwise r) :
    (xs.orderedInsert r x).filter p =
      if p x then (xs.filter p).orderedInsert r x else xs.filter p := by
  induction xs with
  | nil => cases holds : p x <;> simp [holds]
  | cons y ys ih =>
    rw [List.pairwise_cons] at sorted
    rw [List.orderedInsert]
    by_cases below : r x y
    · have least : ∀ z ∈ (y :: ys).filter p, r x z := by
        intro z member
        rcases List.mem_cons.mp (List.mem_of_mem_filter member) with rfl | later
        · exact below
        · exact IsTrans.trans x y z below (sorted.1 z later)
      rw [if_pos below, orderedInsert_of_le least, List.filter_cons]
    · rw [if_neg below, List.filter_cons, ih sorted.2]
      cases kept : p y with
      | true =>
        cases holds : p x with
        | true => simp [kept, below]
        | false => simp [kept]
      | false => cases holds : p x <;> simp [kept]

/-- A stable sort may drop items before or after it sorts. -/
theorem filter_insertionSort {r : α → α → Prop} [DecidableRel r] [IsTrans α r] [Std.Total r]
    (p : α → Bool) (xs : List α) : (xs.insertionSort r).filter p = (xs.filter p).insertionSort r := by
  induction xs with
  | nil => rfl
  | cons x xs ih =>
    rw [List.insertionSort_cons, filter_orderedInsert (List.pairwise_insertionSort r xs), ih]
    cases holds : p x <;> simp [holds]

/-- A property that items lose once and for all splits a list in two. -/
theorem filter_append_filter_not {p : α → Bool} {xs : List α}
    (lost : xs.Pairwise (fun a b => p b = true → p a = true)) :
    xs.filter p ++ xs.filter (fun x => !p x) = xs := by
  induction xs with
  | nil => rfl
  | cons x xs ih =>
    rw [List.pairwise_cons] at lost
    cases holds : p x with
    | true => simp [holds, ih lost.2]
    | false =>
      have none : xs.filter p = [] := by
        rw [List.filter_eq_nil_iff]
        intro y member kept
        have := lost.1 y member kept
        simp [holds] at this
      have all : xs.filter (fun y => !p y) = xs := by
        simpa [none] using ih lost.2
      simp [holds, none, all]

/-! ## Dictionaries and sorted sets -/

/-- `dict.get`, on a dictionary written as its entries. -/
def dictGet {α β : Type} [DecidableEq α] (entries : List (α × β)) (key : α) : Option β :=
  (entries.find? (fun entry => entry.1 = key)).map Prod.snd

theorem mem_of_dictGet {α β : Type} [DecidableEq α] {entries : List (α × β)} {key : α} {value : β}
    (found : dictGet entries key = some value) : (key, value) ∈ entries := by
  obtain ⟨entry, located, rfl⟩ := Option.map_eq_some_iff.mp found
  have same : entry.1 = key := by simpa using List.find?_some located
  rw [← same]
  exact List.mem_of_find?_eq_some located

theorem dictGet_of_mem {α β : Type} [DecidableEq α] {entries : List (α × β)} {key : α} {value : β}
    (distinct : (entries.map Prod.fst).Nodup) (member : (key, value) ∈ entries) :
    dictGet entries key = some value := by
  induction entries with
  | nil => cases member
  | cons entry entries ih =>
    rw [List.map_cons, List.nodup_cons] at distinct
    rcases List.mem_cons.mp member with rfl | later
    · simp [dictGet]
    · have other : entry.1 ≠ key := fun same =>
        distinct.1 (List.mem_map.mpr ⟨_, later, same.symm⟩)
      rw [dictGet, List.find?_cons_of_neg (by simpa using other)]
      exact ih distinct.2 later

/-- `entries[key] = value`: a key that is there keeps its place. -/
def dictSet {α β : Type} [DecidableEq α] (entries : List (α × β)) (key : α) (value : β) :
    List (α × β) :=
  if key ∈ entries.map Prod.fst then
    entries.map fun entry => if entry.1 = key then (key, value) else entry
  else entries ++ [(key, value)]

theorem keys_dictSet {α β : Type} [DecidableEq α] (entries : List (α × β)) (key : α) (value : β) :
    (dictSet entries key value).map Prod.fst =
      if key ∈ entries.map Prod.fst then entries.map Prod.fst
      else entries.map Prod.fst ++ [key] := by
  unfold dictSet
  split_ifs with listed
  · rw [List.map_map]
    apply List.map_congr_left
    intro entry _
    rw [Function.comp_apply]
    by_cases same : entry.1 = key <;> simp [same]
  · rw [List.map_append]
    rfl

theorem dictSet_of_not_mem {α β : Type} [DecidableEq α] {entries : List (α × β)} {key : α}
    (value : β) (fresh : key ∉ entries.map Prod.fst) :
    dictSet entries key value = entries ++ [(key, value)] := if_neg fresh

/-- `groups.setdefault(key, []).append(value)`. -/
def appendToKey {α β : Type} [DecidableEq α] (key : α) (value : β) :
    List (α × List β) → List (α × List β)
  | [] => [(key, [value])]
  | entry :: groups =>
    if entry.1 = key then (entry.1, entry.2 ++ [value]) :: groups
    else entry :: appendToKey key value groups

/-- A loop that appends every pair's value to the group of its key. -/
def groupPairs {α β : Type} [DecidableEq α] (pairs : List (α × β)) : List (α × List β) :=
  pairs.foldl (fun groups pair => appendToKey pair.1 pair.2 groups) []

theorem keys_appendToKey {α β : Type} [DecidableEq α] (key : α) (value : β)
    (groups : List (α × List β)) : (appendToKey key value groups).map Prod.fst =
      if key ∈ groups.map Prod.fst then groups.map Prod.fst else groups.map Prod.fst ++ [key] := by
  induction groups with
  | nil => rfl
  | cons entry groups ih =>
    by_cases same : entry.1 = key
    · simp [appendToKey, same]
    · rw [appendToKey, if_neg same, List.map_cons, ih]
      by_cases listed : key ∈ groups.map Prod.fst
      · simp [listed]
      · simp [listed, Ne.symm same]

theorem dictGet_appendToKey {α β : Type} [DecidableEq α] (key other : α) (value : β)
    (groups : List (α × List β)) : dictGet (appendToKey key value groups) other =
      if other = key then some ((dictGet groups key).getD [] ++ [value])
      else dictGet groups other := by
  induction groups with
  | nil =>
    by_cases same : other = key
    · simp [appendToKey, dictGet, same]
    · simp [appendToKey, dictGet, same, Ne.symm same]
  | cons entry groups ih =>
    unfold dictGet at ih ⊢
    by_cases first : entry.1 = key
    · by_cases same : other = key
      · simp [appendToKey, first, same]
      · simp [appendToKey, first, same, Ne.symm same]
    · by_cases found : entry.1 = other
      · have apart : other ≠ key := fun same => first (found.trans same)
        simp [appendToKey, found, apart]
      · simp [appendToKey, first, found, ih]

theorem nodup_keys_groupPairs {α β : Type} [DecidableEq α] (pairs : List (α × β)) :
    ((groupPairs pairs).map Prod.fst).Nodup := by
  induction pairs using List.reverseRecOn with
  | nil => exact List.nodup_nil
  | append_singleton pairs pair ih =>
    have step : groupPairs (pairs ++ [pair]) = appendToKey pair.1 pair.2 (groupPairs pairs) := by
      rw [groupPairs, List.foldl_append]
      rfl
    rw [step, keys_appendToKey]
    split_ifs with listed
    · exact ih
    · exact List.nodup_append.mpr ⟨ih, List.nodup_singleton _, fun a member b last same =>
        listed (List.mem_singleton.mp last ▸ same ▸ member)⟩

/-- Each group holds the values of its key, in the order of the pairs. -/
theorem mem_groupPairs {α β : Type} [DecidableEq α] {pairs : List (α × β)} {key : α}
    {values : List β} : (key, values) ∈ groupPairs pairs ↔
      values ≠ [] ∧ values = (pairs.filter (fun pair => pair.1 = key)).map Prod.snd := by
  have whole : ((groupPairs pairs).map Prod.fst).Nodup ∧ ∀ key, dictGet (groupPairs pairs) key =
      let values := (pairs.filter (fun pair => pair.1 = key)).map Prod.snd
      if values = [] then none else some values := by
    induction pairs using List.reverseRecOn with
    | nil => exact ⟨List.nodup_nil, fun _ => rfl⟩
    | append_singleton pairs pair ih =>
      obtain ⟨distinct, lookup⟩ := ih
      have step : groupPairs (pairs ++ [pair]) = appendToKey pair.1 pair.2 (groupPairs pairs) := by
        rw [groupPairs, List.foldl_append]
        rfl
      rw [step]
      constructor
      · rw [keys_appendToKey]
        split_ifs with listed
        · exact distinct
        · exact List.nodup_append.mpr ⟨distinct, List.nodup_singleton _, fun a member b last same =>
            listed (List.mem_singleton.mp last ▸ same ▸ member)⟩
      · intro key
        rw [dictGet_appendToKey, lookup, lookup, List.filter_append]
        by_cases same : key = pair.1
        · subst same
          by_cases empty : pairs.filter (fun other => other.1 = pair.1) = []
          · simp [empty]
          · simp [empty]
        · have other : [pair].filter (fun other => other.1 = key) = [] :=
            List.filter_cons_of_neg (by simpa using Ne.symm same)
          rw [if_neg same, other, List.append_nil]
  constructor
  · intro member
    have found := (whole.2 key).symm.trans (dictGet_of_mem whole.1 member)
    simp only at found
    split_ifs at found with empty
    rw [← Option.some.inj found]
    exact ⟨empty, rfl⟩
  · intro ⟨nonempty, same⟩
    apply mem_of_dictGet
    rw [whole.2 key]
    simp only
    rw [← same, if_neg nonempty]

/-- `sorted(set(items))`. -/
def sortedSet {α : Type} [LinearOrder α] (xs : List α) : List α := xs.dedup.insertionSort (· ≤ ·)

theorem mem_sortedSet {α : Type} [LinearOrder α] {xs : List α} {x : α} :
    x ∈ sortedSet xs ↔ x ∈ xs := by
  rw [sortedSet, List.mem_insertionSort, List.mem_dedup]

theorem sortedSet_pairwise {α : Type} [LinearOrder α] (xs : List α) :
    (sortedSet xs).Pairwise (· < ·) := by
  have sorted := List.pairwise_insertionSort (fun a b : α => a ≤ b) xs.dedup
  have distinct : (sortedSet xs).Nodup :=
    (List.perm_insertionSort _ _).nodup_iff.mpr xs.nodup_dedup
  exact sorted.and distinct |>.imp fun both => lt_of_le_of_ne both.1 both.2

/-- The item of a key, when no two items have the same key. -/
theorem find?_key_eq_some_iff {α κ : Type} [DecidableEq κ] {key : α → κ} {xs : List α}
    (distinct : (xs.map key).Nodup) {k : κ} {x : α} :
    xs.find? (fun x => key x = k) = some x ↔ x ∈ xs ∧ key x = k := by
  constructor
  · intro found
    exact ⟨List.mem_of_find?_eq_some found, by simpa using List.find?_some found⟩
  · intro known
    cases found : xs.find? (fun x => key x = k) with
    | none => simpa [known.2] using List.find?_eq_none.mp found x known.1
    | some other =>
      have listed := List.mem_of_find?_eq_some found
      have equal : key other = k := by simpa using List.find?_some found
      rw [List.inj_on_of_nodup_map distinct listed known.1 (equal.trans known.2.symm)]

end CovenantRadar
