import CovenantRadar.Misc.Select
import Mathlib

/-!
# A bounded dictionary in order of use

Entries from the least to the most recently used key. Using a key moves it to the end, and a new key
takes the place of the least recently used one when the dictionary is full: a key stays until as
many other keys were used as the dictionary holds.
-/

namespace CovenantRadar

/-- Entries in order of use, at most `capacity` of them. -/
structure LruDict (κ α : Type) (capacity : Nat) where
  entries : List (κ × α)
  distinct : (entries.map Prod.fst).Nodup
  bounded : entries.length ≤ capacity
  positive : 0 < capacity

namespace LruDict

variable {κ α : Type} {capacity : Nat}

/-- The dictionary without entries. -/
def empty (positive : 0 < capacity) : LruDict κ α capacity :=
  ⟨[], List.nodup_nil, Nat.zero_le capacity, positive⟩

/-- The keys, the most recently used one last. -/
def keys (dict : LruDict κ α capacity) : List κ := dict.entries.map Prod.fst

variable [DecidableEq κ]

/-- The value of a key. -/
def get (dict : LruDict κ α capacity) (key : κ) : Option α := dictGet dict.entries key

/-- The entries that stay in front of a key that is used. -/
def others (dict : LruDict κ α capacity) (key : κ) : List (κ × α) :=
  match dict.get key with
  | some _ => dict.entries.filter fun entry => decide (entry.1 ≠ key)
  | none => if capacity ≤ dict.entries.length then dict.entries.tail else dict.entries

theorem get_eq_none_iff {dict : LruDict κ α capacity} {key : κ} :
    dict.get key = none ↔ key ∉ dict.keys := by
  simp only [get, dictGet, keys, Option.map_eq_none_iff, List.find?_eq_none, decide_eq_true_eq]
  constructor
  · intro other listed
    obtain ⟨entry, present, same⟩ := List.mem_map.mp listed
    exact other entry present same
  · intro absent entry present same
    exact absent (List.mem_map.mpr ⟨entry, present, same⟩)

theorem others_sublist (dict : LruDict κ α capacity) (key : κ) :
    (dict.others key).Sublist dict.entries := by
  unfold others
  split
  · exact List.filter_sublist
  · split_ifs
    · exact List.tail_sublist _
    · exact List.Sublist.refl _

theorem notMem_others (dict : LruDict κ α capacity) (key : κ) :
    key ∉ (dict.others key).map Prod.fst := by
  cases found : dict.get key with
  | some value =>
    simp [others, found]
  | none =>
    intro listed
    exact get_eq_none_iff.mp found ((dict.others_sublist key).map Prod.fst |>.subset listed)

theorem length_others_lt (dict : LruDict κ α capacity) (key : κ) :
    (dict.others key).length < capacity := by
  have bounded := dict.bounded
  have positive := dict.positive
  cases found : dict.get key with
  | some value =>
    have present : (key, value) ∈ dict.entries := mem_of_dictGet found
    have fewer : (dict.others key).length < dict.entries.length := by
      rw [others, found]
      exact List.length_filter_lt_length_iff_exists.mpr ⟨_, present, by simp⟩
    omega
  | none =>
    simp only [others, found]
    split_ifs with full
    · rw [List.length_tail]
      omega
    · omega

theorem use_distinct (dict : LruDict κ α capacity) (key : κ) (value : α) :
    ((dict.others key ++ [(key, value)]).map Prod.fst).Nodup := by
  rw [List.map_append, List.nodup_append]
  refine ⟨dict.distinct.sublist ((dict.others_sublist key).map _), List.nodup_singleton _, ?_⟩
  intro other listed last isLast same
  rw [List.map_singleton, List.mem_singleton] at isLast
  rw [same, isLast] at listed
  exact dict.notMem_others key listed

theorem use_bounded (dict : LruDict κ α capacity) (key : κ) (value : α) :
    (dict.others key ++ [(key, value)]).length ≤ capacity := by
  rw [List.length_append, List.length_singleton]
  exact dict.length_others_lt key

/-- Uses a key, and gives it a value. -/
def use (dict : LruDict κ α capacity) (key : κ) (value : α) : LruDict κ α capacity where
  entries := dict.others key ++ [(key, value)]
  distinct := use_distinct dict key value
  bounded := use_bounded dict key value
  positive := dict.positive

theorem keys_use (dict : LruDict κ α capacity) (key : κ) (value : α) :
    (dict.use key value).keys = (dict.others key).map Prod.fst ++ [key] :=
  List.map_append ..

/-! ## How long a key stays -/

/-- A key has a value, and the keys used after it are among these. -/
def UsedBefore (dict : LruDict κ α capacity) (key : κ) (value : α) (since : List κ) : Prop :=
  ∃ front back, dict.entries = front ++ (key, value) :: back ∧
    ∀ later ∈ back.map Prod.fst, later ∈ since

/-- A key is gone, and as many different keys were used since as the dictionary holds. -/
structure Evicted (dict : LruDict κ α capacity) (key : κ) (since : List κ) : Prop where
  absent : key ∉ dict.keys
  crowded : capacity ≤ since.dedup.length

omit [DecidableEq κ] in
theorem UsedBefore.mem {dict : LruDict κ α capacity} {key : κ} {value : α} {since : List κ}
    (used : dict.UsedBefore key value since) : (key, value) ∈ dict.entries := by
  obtain ⟨front, back, shape, _⟩ := used
  rw [shape]
  exact List.mem_append_right _ List.mem_cons_self

theorem UsedBefore.get_eq {dict : LruDict κ α capacity} {key : κ} {value : α} {since : List κ}
    (used : dict.UsedBefore key value since) : dict.get key = some value :=
  dictGet_of_mem dict.distinct used.mem

/-- A key that is used is the last one. -/
theorem usedBefore_use (dict : LruDict κ α capacity) (key : κ) (value : α) :
    (dict.use key value).UsedBefore key value [] :=
  ⟨dict.others key, [], rfl, fun _ impossible => impossible⟩

omit [DecidableEq κ] in
theorem UsedBefore.mono {dict : LruDict κ α capacity} {key : κ} {value : α}
    {since more : List κ} (used : dict.UsedBefore key value since) (more' : since ⊆ more) :
    dict.UsedBefore key value more := by
  obtain ⟨front, back, shape, after⟩ := used
  exact ⟨front, back, shape, fun later listed => more' (after later listed)⟩

/-- A key that is not there does not come by the use of another. -/
theorem notMem_use {dict : LruDict κ α capacity} {key other : κ} {value : α}
    (absent : key ∉ dict.keys) (apart : other ≠ key) : key ∉ (dict.use other value).keys := by
  intro listed
  rw [keys_use, List.mem_append] at listed
  rcases listed with stayed | last
  · exact absent ((dict.others_sublist other).map Prod.fst |>.subset stayed)
  · exact apart (List.mem_singleton.mp last).symm

theorem length_dedup_le {since more : List κ} (subset : since ⊆ more) :
    since.dedup.length ≤ more.dedup.length := by
  apply List.Subperm.length_le
  apply List.Nodup.subperm since.nodup_dedup
  intro key listed
  exact List.mem_dedup.mpr (subset (List.mem_dedup.mp listed))

/-- The use of another key leaves a key in place, or evicts it for want of room. -/
theorem UsedBefore.use {dict : LruDict κ α capacity} {key other : κ} {value : α} {since : List κ}
    (used : dict.UsedBefore key value since) (apart : other ≠ key) (newer : α) :
    (dict.use other newer).UsedBefore key value (since ++ [other]) ∨
      (dict.use other newer).Evicted key (since ++ [other]) := by
  have distinct := dict.distinct
  obtain ⟨front, back, shape, after⟩ := used
  have later : ∀ kept : List (κ × α), kept.Sublist back →
      ∀ key ∈ (kept ++ [(other, newer)]).map Prod.fst, key ∈ since ++ [other] := by
    intro kept sub key listed
    rw [List.map_append, List.mem_append] at listed
    rcases listed with old | last
    · exact List.mem_append_left _ (after key ((sub.map Prod.fst).subset old))
    · exact List.mem_append_right _ last
  cases found : dict.get other with
  | some present =>
    left
    refine ⟨front.filter fun entry => decide (entry.1 ≠ other),
      (back.filter fun entry => decide (entry.1 ≠ other)) ++ [(other, newer)], ?_,
      later _ List.filter_sublist⟩
    simp [LruDict.use, others, found, shape, Ne.symm apart]
  | none =>
    by_cases full : capacity ≤ dict.entries.length
    · cases front with
      | cons first front =>
        left
        refine ⟨front, back ++ [(other, newer)], ?_, later back (List.Sublist.refl _)⟩
        simp only [LruDict.use, others, found, if_pos full]
        simp [shape]
      | nil =>
        right
        rw [shape, List.nil_append, List.map_cons, List.nodup_cons] at distinct
        have absent : other ∉ back.map Prod.fst := by
          intro listed
          apply get_eq_none_iff.mp found
          rw [keys, shape, List.nil_append, List.map_cons]
          exact List.mem_cons_of_mem _ listed
        refine ⟨?_, ?_⟩
        · intro listed
          have stays : dict.others other = back := by
            simp only [others, found, if_pos full]
            rw [shape, List.nil_append, List.tail_cons]
          rw [keys_use, stays, List.mem_append] at listed
          rcases listed with old | last
          · exact distinct.1 old
          · exact apart (List.mem_singleton.mp last).symm
        · -- the keys behind it and the new one are different, and all were used since
          have different : (back.map Prod.fst ++ [other]).Nodup := by
            rw [List.nodup_append]
            refine ⟨distinct.2, List.nodup_singleton _, ?_⟩
            rintro key listed last isLast rfl
            rw [List.mem_singleton] at isLast
            exact absent (isLast ▸ listed)
          have among : back.map Prod.fst ++ [other] ⊆ (since ++ [other]).dedup := by
            intro key listed
            rw [List.mem_dedup]
            rcases List.mem_append.mp listed with old | last
            · exact List.mem_append_left _ (after key old)
            · exact List.mem_append_right _ last
          have counted := (different.subperm among).length_le
          rw [shape] at full
          simp only [List.nil_append, List.length_cons, List.length_append, List.length_map,
            List.length_nil] at full counted
          omega
    · left
      refine ⟨front, back ++ [(other, newer)], ?_, later back (List.Sublist.refl _)⟩
      simp only [LruDict.use, others, found, if_neg full]
      simp [shape]

/-- A key that is gone stays gone until it is used. -/
theorem Evicted.use {dict : LruDict κ α capacity} {key other : κ} {since : List κ}
    (evicted : dict.Evicted key since) (apart : other ≠ key) (newer : α) :
    (dict.use other newer).Evicted key (since ++ [other]) :=
  ⟨notMem_use evicted.absent apart,
    evicted.crowded.trans (length_dedup_le (List.subset_append_left since [other]))⟩

end LruDict

end CovenantRadar
