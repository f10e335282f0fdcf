import CovenantRadar.Reporting.Reordering

/-!
# When a CRILC report does not depend on the order of its input

The facts of one borrower under another order first, then the report: it is the same for every
order exactly where every borrower is settled.
-/

namespace CovenantRadar.Crilc

open Sma

/-! ## Another order of the facilities and of the conduct -/

section

variable {conduct conduct' : ConductRows} {asOfDate : Date} {borrower : CrilcBorrowerFacts}
  {facilities : List CrilcFacilityFacts}

end

section

variable {reportType : CrilcReportType} {layout : CrilcLayout} {threshold : Decimal}
  {conduct conduct' : ConductRows} {asOfDate : Date} {borrower : CrilcBorrowerFacts}
  {facilities : List CrilcFacilityFacts} {outcome : CrilcOutcome}

/-- Two candidates with the same outcome miss the same required fields, and show the same where
    they miss none. -/
theorem shown_alike {borrower' : CrilcBorrowerFacts} {reason reason' : Option Text}
    {row row' : CrilcRow} (first : rowOrException layout borrower reason row = .ok outcome)
    (second : rowOrException layout borrower' reason' row' = .ok outcome) :
    (∀ name, name ∈ missingFields layout row ↔ name ∈ missingFields layout row') ∧
      (Complete layout row → ∀ name, layout.Shows name →
        (row.get name).getD .none = (row'.get name).getD .none) := by
  have printed := (rowOrException_eq_ok_iff.mp first).2
  have printed' := (rowOrException_eq_ok_iff.mp second).2
  rw [printed] at printed'
  constructor
  · intro name
    split_ifs at printed' with held held' complete
    · simp only [CrilcOutcome.exception.injEq, CrilcException.mk.injEq] at printed'
      rw [← List.mem_insertionSort (· ≤ ·), printed'.2.1, List.mem_insertionSort]
    · rw [not_not.mp held, not_not.mp complete]
  · rintro complete name ⟨field, member, rfl⟩
    rw [if_neg (not_not.mpr (complete_iff.mp complete))] at printed'
    split_ifs at printed'
    have same := congrArg (fun row : CrilcRow => row.get field.name)
      (CrilcOutcome.included.inj printed')
    simpa only [get_shownRow member, Option.some.injEq] using same

end

end CovenantRadar.Crilc
