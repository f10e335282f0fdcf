import Mathlib.Order.Bounds.Basic
import Mathlib.Order.Lattice
import Mathlib.Tactic.Common

/-!
# Running maxima

The greatest value seen so far, where there may be none: what one more value makes of it, and
that it never falls.
-/

namespace CovenantRadar

variable {α : Type} [LinearOrder α]

/-- The greatest value after one more: a smaller or equal one changes nothing. -/
def raiseTo (current : Option α) (x : α) : Option α :=
  match current with
  | none => some x
  | some largest => if largest < x then some x else some largest

/-- The greatest of the values in a set, if there are any. -/
inductive Tracks : Option α → Set α → Prop where
  | empty : Tracks none ∅
  | greatest {s : Set α} {x : α} (best : IsGreatest s x) : Tracks (some x) s

theorem Tracks.raiseTo {current : Option α} {s : Set α} (tracks : Tracks current s) (x : α) :
    Tracks (raiseTo current x) (insert x s) := by
  cases tracks with
  | empty =>
    refine .greatest ⟨Set.mem_insert x ∅, ?_⟩
    rintro y (rfl | none)
    · exact le_refl y
    · exact none.elim
  | @greatest _ largest best =>
    unfold CovenantRadar.raiseTo
    simp only
    split_ifs with smaller
    · refine .greatest ⟨Set.mem_insert x s, ?_⟩
      rintro y (rfl | member)
      · exact le_refl y
      · exact le_trans (best.2 member) (le_of_lt smaller)
    · refine .greatest ⟨Set.mem_insert_of_mem x best.1, ?_⟩
      rintro y (rfl | member)
      · exact not_lt.mp smaller
      · exact best.2 member

theorem Tracks.eq_some_iff {current : Option α} {s : Set α} (tracks : Tracks current s) {x : α} :
    current = some x ↔ IsGreatest s x := by
  cases tracks with
  | empty => simp [IsGreatest]
  | @greatest _ largest best =>
    rw [Option.some.injEq]
    constructor
    · rintro rfl
      exact best
    · intro other
      exact best.unique other

theorem Tracks.eq_none_iff {current : Option α} {s : Set α} (tracks : Tracks current s) :
    current = none ↔ s = ∅ := by
  cases tracks with
  | empty => simp
  | greatest best =>
    simp only [reduceCtorEq, false_iff]
    rintro rfl
    exact best.1

/-- The greatest of a second set raises the greatest of a first one to that of both. -/
theorem Tracks.union {current : Option α} {s t : Set α} {x : α} (tracks : Tracks current s)
    (best : IsGreatest t x) : Tracks (CovenantRadar.raiseTo current x) (s ∪ t) := by
  have inserted := tracks.raiseTo x
  cases result : CovenantRadar.raiseTo current x with
  | none =>
    rw [inserted.eq_none_iff] at result
    exact absurd result (Set.insert_nonempty x s).ne_empty
  | some y =>
    obtain ⟨member, upper⟩ := inserted.eq_some_iff.mp result
    refine .greatest ⟨?_, ?_⟩
    · rcases member with rfl | member
      · exact Or.inr best.1
      · exact Or.inl member
    · rintro z (first | second)
      · exact upper (Set.mem_insert_of_mem x first)
      · exact le_trans (best.2 second) (upper (Set.mem_insert x s))

/-- A running maximum does not fall. -/
theorem le_of_raiseTo {current : Option α} {x largest : α} (held : current = some largest) :
    ∃ larger, raiseTo current x = some larger ∧ largest ≤ larger := by
  subst held
  unfold raiseTo
  simp only
  split_ifs with smaller
  · exact ⟨x, rfl, le_of_lt smaller⟩
  · exact ⟨largest, rfl, le_refl largest⟩

/-- A value that is not above the maximum leaves it. -/
theorem raiseTo_of_le {x largest : α} (covered : x ≤ largest) :
    raiseTo (some largest) x = some largest :=
  if_neg (not_lt.mpr covered)

end CovenantRadar
