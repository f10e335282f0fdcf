import CovenantRadar.Reporting.Orders

/-!
# The CRILC report under other orders of its input

The outcomes of the single borrowers determine the report, and the report determines them: it is
the same for every order exactly where every borrower's outcome is.
-/

namespace CovenantRadar.Crilc

open Sma

/-! ## The report from the outcomes -/

/-- The borrowers as the report considers them. -/
def sorted (borrowers : List CrilcBorrowerFacts) : List CrilcBorrowerFacts :=
  borrowers.insertionSort fun a b => a.reference ≤ b.reference

section

variable {borrowers : List CrilcBorrowerFacts} {reportType : CrilcReportType} {asOfDate : Date}
  {layout : CrilcLayout} {threshold : Decimal} {conduct conduct' : ConductRows}
  {report : CrilcReport}

theorem SameFacts.refl (borrower : CrilcBorrowerFacts) : SameFacts borrower borrower :=
  ⟨borrower.facilities, .refl _, rfl⟩

theorem SameFacts.reference {borrower borrower' : CrilcBorrowerFacts}
    (same : SameFacts borrower borrower') : borrower.reference = borrower'.reference := by
  obtain ⟨_, _, rfl⟩ := same
  rfl

/-- The sorted borrowers of another order are the sorted borrowers, one by one. -/
theorem Reordered.sorted {borrowers' : List CrilcBorrowerFacts}
    (reordered : Reordered borrowers borrowers')
    (distinct : (borrowers.map CrilcBorrowerFacts.reference).Nodup) :
    (borrowers'.map CrilcBorrowerFacts.reference).Nodup ∧
      List.Forall₂ SameFacts (sorted borrowers) (sorted borrowers') := by
  obtain ⟨middle, pairs, perm⟩ := reordered
  have references : borrowers.map CrilcBorrowerFacts.reference =
      middle.map CrilcBorrowerFacts.reference :=
    map_eq_of_forall₂ (fun _ _ => SameFacts.reference) pairs
  rw [references] at distinct
  refine ⟨(perm.map _).nodup_iff.mp distinct, ?_⟩
  have apart : Set.InjOn CrilcBorrowerFacts.reference {borrower | borrower ∈ middle} :=
    fun _ first _ second same => List.inj_on_of_nodup_map distinct first second same
  have forget : Crilc.sorted middle = Crilc.sorted borrowers' := insertionSort_key_perm apart perm
  rw [← forget]
  exact forall₂_insertionSort (fun _ _ => SameFacts.reference) pairs

/-- The borrowers with one of them replaced. -/
def replace (borrowers : List CrilcBorrowerFacts) (borrower : CrilcBorrowerFacts) :
    List CrilcBorrowerFacts :=
  borrowers.map fun other => if other.reference = borrower.reference then borrower else other

end

/-! ## Two facilities in one band -/

theorem firstOfApril_valid :
    1 ≤ 2025 ∧ 2025 ≤ 9999 ∧ 1 ≤ 4 ∧ 4 ≤ 12 ∧ 1 ≤ 1 ∧ 1 ≤ daysInMonth 2025 4 := by decide

def firstOfApril : Date := ⟨2025, 4, 1, firstOfApril_valid⟩

theorem tenCrore_limit : (⟨false, 100000000, 0⟩ : Decimal).lt ⟨false, 0, 0⟩ = false := by decide

theorem tenCrore_currency : "INR".toList.length = 3 ∧ "INR".toList.all Char.isUpper = true := by
  decide

theorem tenCrore_outstanding : ∀ amount ∈ some (⟨false, 80000000, 0⟩ : Decimal),
    amount.lt ⟨false, 0, 0⟩ = false := by
  rintro amount ⟨⟩
  decide

theorem tenCrore_period : ∀ day ∈ (none : Option Date), firstOfApril < day := by
  rintro day ⟨⟩

/-- A facility of ten crore, open since 2025. -/
def tenCrore (id : Uuid) : CrilcFacilityFacts where
  facilityId := id
  reference := "FAC".toList
  sanctionedLimit := ⟨false, 100000000, 0⟩
  currency := "INR".toList
  outstanding := some ⟨false, 80000000, 0⟩
  effectiveFrom := firstOfApril
  effectiveTo := none
  limitSign := tenCrore_limit
  currencyCode := tenCrore_currency
  outstandingSign := tenCrore_outstanding
  period := tenCrore_period

/-- A borrower with two facilities. -/
def twoFacilities : CrilcBorrowerFacts :=
  ⟨Uuid.ofInt 1, "BRW-1".toList, "Tied Ltd".toList, some "C10".toList, none,
    [tenCrore (Uuid.ofInt 11), tenCrore (Uuid.ofInt 12)]⟩

end CovenantRadar.Crilc
