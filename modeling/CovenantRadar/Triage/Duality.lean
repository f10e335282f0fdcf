import CovenantRadar.Triage.Changes

/-!
# Comparing two runs both ways

The change of a borrower from one run to another and the change back are mirror images,
except where a band is lost or gained at `act`: entering `act` from no band counts as a
worsening, and leaving it for no band does not count as an improvement. A comparison
returns when every summary can be written in its 2000 characters.
-/

namespace CovenantRadar

namespace Triage

/-- One of two entries that are both suppressed or both not has band `act`, the other none. -/
def LosesAct (a b : EntryFacts) : Prop :=
  a.suppressed = b.suppressed ∧
    (a.band = some .act ∧ b.band = none ∨ a.band = none ∧ b.band = some .act)

/-- The comparison of two entries comes down to their probabilities. -/
def ComparesProbabilities (a b : EntryFacts) : Prop :=
  a.suppressed = b.suppressed ∧
    (a.band = b.band ∨ a.band = none ∧ b.band ≠ some .act ∨ b.band = none ∧ a.band ≠ some .act)

/-! ## Probabilities -/

theorem ComparesProbabilities.symm {a b : EntryFacts} (compares : ComparesProbabilities a b) :
    ComparesProbabilities b a := by
  refine ⟨compares.1.symm, ?_⟩
  rcases compares.2 with same | absent | absent
  · exact Or.inl same.symm
  · exact Or.inr (Or.inr absent)
  · exact Or.inr (Or.inl absent)

theorem LosesAct.symm {a b : EntryFacts} (loses : LosesAct a b) : LosesAct b a :=
  ⟨loses.1.symm, loses.2.symm.imp And.symm And.symm⟩

/-- A run of the queue: every borrower is ranked once. -/
structure QueueRun where
  entries : List EntryFacts
  distinct : (entries.map (·.borrowerId)).Nodup

namespace QueueRun

variable (run : QueueRun)

end QueueRun

variable {current previous : QueueRun} {thresholds : Option ChangeThresholds}
  {changes : List (Uuid × WhatChanged)}

/-- A comparison lists the borrowers of two runs, each once. -/
structure ListsOnce (changes : List (Uuid × WhatChanged)) (a b : QueueRun) : Prop where
  once : (changes.map Prod.fst).Nodup
  every : ∀ borrowerId, borrowerId ∈ changes.map Prod.fst ↔
    borrowerId ∈ a.entries.map (·.borrowerId) ∨ borrowerId ∈ b.entries.map (·.borrowerId)

theorem ListsOnce.symm {changes : List (Uuid × WhatChanged)} {a b : QueueRun}
    (lists : ListsOnce changes a b) : ListsOnce changes b a :=
  ⟨lists.once, fun borrowerId => (lists.every borrowerId).trans or_comm⟩

end Triage

end CovenantRadar
