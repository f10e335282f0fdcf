import CovenantRadar.Misc.Select
import Mathlib

/-!
# Lists sorted by a key

A sort by a key is determined by the items under each key, in the order they came in. How many items
of one key the first `n` items of a sorted list hold is a count that does not depend on how ties were
broken.
-/

namespace CovenantRadar

/-! ## Stable sorting -/

section

variable {α κ : Type} [LinearOrder κ] {key : α → κ} {xs ys : List α}

/-- Sorted lists with the same items under every key are the same list. -/
theorem eq_of_pairwise_key (sorted : xs.Pairwise fun a b => key a ≤ key b)
    (sorted' : ys.Pairwise fun a b => key a ≤ key b)
    (same : ∀ k, xs.filter (fun x => key x = k) = ys.filter (fun y => key y = k)) : xs = ys := by
  induction xs generalizing ys with
  | nil =>
    cases ys with
    | nil => rfl
    | cons y ys => simpa using same (key y)
  | cons x xs ih =>
    have listed : x ∈ ys := by
      have kept : x ∈ ys.filter (fun y => key y = key x) := by simp [← same]
      exact (List.mem_filter.mp kept).1
    cases ys with
    | nil => cases listed
    | cons y ys =>
      have listed' : y ∈ x :: xs := by
        have kept : y ∈ (x :: xs).filter (fun x => key x = key y) := by simp [same]
        exact (List.mem_filter.mp kept).1
      have least : ∀ {a b : α} {as : List α}, (a :: as).Pairwise (fun a b => key a ≤ key b) →
          b ∈ a :: as → key a ≤ key b := by
        intro a b as ordered member
        rcases List.mem_cons.mp member with rfl | later
        · exact le_rfl
        · exact List.rel_of_pairwise_cons ordered later
      have keys : key x = key y := le_antisymm (least sorted listed') (least sorted' listed)
      have heads := same (key x)
      simp only [List.filter_cons, keys, decide_true, if_true, List.cons.injEq] at heads
      obtain ⟨rfl, _⟩ := heads
      congr 1
      apply ih sorted.of_cons sorted'.of_cons
      intro k
      have tails := same k
      by_cases first : key x = k
      · simpa [first] using tails
      · simpa [first] using tails

/-- Sorting keeps the items under one key in the order they came in. -/
theorem filter_key_insertionSort (xs : List α) (k : κ) :
    (xs.insertionSort fun a b => key a ≤ key b).filter (fun x => key x = k) =
      xs.filter (fun x => key x = k) := by
  have total : Std.Total (fun a b : α => key a ≤ key b) := ⟨fun a b => le_total (key a) (key b)⟩
  have transitive : IsTrans α (fun a b => key a ≤ key b) := ⟨fun _ _ _ => le_trans⟩
  rw [filter_insertionSort]
  apply List.Pairwise.insertionSort_eq
  rw [List.pairwise_filter]
  apply List.pairwise_of_forall
  intro a b first second
  rw [of_decide_eq_true first, of_decide_eq_true second]

/-- Lists with the same items under every key are sorted to the same list. -/
theorem insertionSort_eq_of_filter_key
    (same : ∀ k, xs.filter (fun x => key x = k) = ys.filter (fun y => key y = k)) :
    xs.insertionSort (fun a b => key a ≤ key b) = ys.insertionSort (fun a b => key a ≤ key b) := by
  have total : Std.Total (fun a b : α => key a ≤ key b) := ⟨fun a b => le_total (key a) (key b)⟩
  have transitive : IsTrans α (fun a b => key a ≤ key b) := ⟨fun _ _ _ => le_trans⟩
  refine eq_of_pairwise_key (List.pairwise_insertionSort (fun a b : α => key a ≤ key b) xs)
    (List.pairwise_insertionSort (fun a b : α => key a ≤ key b) ys) fun k => ?_
  rw [filter_key_insertionSort, filter_key_insertionSort, same]

end

/-! ## Prefixes -/

section

variable {α κ : Type} [LinearOrder κ]

/-- `p` picks the items of key `k` and `q` those of a smaller key. -/
theorem countP_take_key {key : α → κ} {xs : List α} {k : κ} {p q : α → Bool}
    (sorted : xs.Pairwise fun a b => key a ≤ key b) (equal : ∀ x, p x = true ↔ key x = k)
    (less : ∀ x, q x = true ↔ key x < k) (n : ℕ) :
    (xs.take n).countP p = min (xs.countP p) (n - xs.countP q) := by
  induction xs generalizing n with
  | nil => simp
  | cons x xs ih =>
    obtain ⟨above, rest⟩ := List.pairwise_cons.mp sorted
    have ih := ih rest
    have noneLess (bound : k ≤ key x) : xs.countP q = 0 :=
      List.countP_eq_zero.mpr fun y member => by
        rw [less]
        exact (bound.trans (above y member)).not_gt
    cases n with
    | zero => simp
    | succ n =>
      have notEqual (differs : key x ≠ k) : p x = false :=
        Bool.eq_false_iff.mpr fun picked => differs ((equal x).mp picked)
      have notLess (bound : k ≤ key x) : q x = false :=
        Bool.eq_false_iff.mpr fun picked => bound.not_gt ((less x).mp picked)
      rw [List.take_succ_cons, List.countP_cons, List.countP_cons, List.countP_cons, ih]
      rcases lt_trichotomy (key x) k with below | same | over'
      · simp [(less x).mpr below, notEqual below.ne]
      · have := noneLess same.ge
        simp [(equal x).mpr same, notLess same.ge, this]
      · have := noneLess over'.le
        have absent : xs.countP p = 0 := List.countP_eq_zero.mpr fun y member => by
          rw [equal]
          exact (lt_of_lt_of_le over' (above y member)).ne'
        simp [notEqual over'.ne', notLess over'.le, this, absent]

/-- The items of one key, split by a test. -/
theorem countP_split (xs : List α) (p q : α → Bool) :
    xs.countP p = xs.countP (fun x => p x && q x) + xs.countP (fun x => p x && !q x) := by
  induction xs with
  | nil => rfl
  | cons x xs ih =>
    rw [List.countP_cons, List.countP_cons, List.countP_cons, ih]
    cases p x <;> cases q x <;> simp <;> omega

/-- A sorted list of keys is the increasing list of a set when it counts each member of
    the set once. -/
theorem eq_iff_count [BEq κ] [LawfulBEq κ] {ks ls : List κ} (sortedKs : ks.Pairwise (· ≤ ·))
    (sortedLs : ls.Pairwise (· < ·)) :
    ks = ls ↔ ∀ k, (k ∈ ls → ks.count k = 1) ∧ (k ∉ ls → ks.count k = 0) := by
  have once : ∀ k ∈ ls, ls.count k = 1 := fun k member =>
    List.count_eq_one_of_mem (sortedLs.imp ne_of_lt) member
  constructor
  · rintro rfl k
    exact ⟨once k, List.count_eq_zero_of_not_mem⟩
  · intro counts
    have perm : ks.Perm ls := List.perm_iff_count.mpr fun k => by
      by_cases member : k ∈ ls
      · rw [(counts k).1 member, once k member]
      · rw [(counts k).2 member, List.count_eq_zero_of_not_mem member]
    exact perm.eq_of_pairwise (fun _ _ _ _ => le_antisymm) sortedKs (sortedLs.imp le_of_lt)

end

/-! ## Splitting by a key -/

/-- The items under each of some distinct keys are the items whose key is one of them. -/
theorem flatMap_filter_key_perm {α κ : Type} [DecidableEq κ] {key : α → κ} {ks : List κ}
    (distinct : ks.Nodup) {xs : List α} {p : α → Bool}
    (chosen : ∀ x ∈ xs, p x = true ↔ key x ∈ ks) :
    (ks.flatMap fun k => xs.filter fun x => key x = k).Perm (xs.filter p) := by
  induction ks generalizing p with
  | nil =>
    have none : xs.filter p = [] := by
      rw [List.filter_eq_nil_iff]
      intro x listed passed
      exact List.not_mem_nil ((chosen x listed).mp passed)
    rw [none]
    rfl
  | cons k ks ih =>
    obtain ⟨fresh, distinct⟩ := List.nodup_cons.mp distinct
    have first : ((xs.filter p).filter fun x => key x = k) = xs.filter fun x => key x = k := by
      rw [List.filter_filter]
      apply List.filter_congr
      intro x listed
      by_cases same : key x = k
      · simp [same, (chosen x listed).mpr (same ▸ List.mem_cons_self)]
      · simp [same]
    have others : ∀ x ∈ xs, (!decide (key x = k) && p x) = true ↔ key x ∈ ks := by
      intro x listed
      by_cases same : key x = k
      · simp [same, fresh]
      · simp [same, chosen x listed]
    have split := List.filter_append_perm (fun x => decide (key x = k)) (xs.filter p)
    rw [first, List.filter_filter] at split
    rw [List.flatMap_cons]
    exact ((ih distinct others).append_left _).trans split

end CovenantRadar
