import CovenantRadar.Covenants.EngineTest

/-!
# The covenant tests of the nightly pipeline

Source `services/nightly.py`, `_run_test`: every live version is tested on the bare date of the
night, where a manual test names the financial period.
-/

namespace CovenantRadar

namespace Nightly

open Covenants

variable {ν : Type}

/-- The test `_run_test` makes of one version. -/
def nightlyTest (arithmetic : Arithmetic ν) (covenant : CovenantRows)
    (computeRatio : Date → Bool → Except DomainError RatioResult) (asOfDate : Date) :
    Except DomainError (CovenantTestRow ν) :=
  testCovenant arithmetic covenant computeRatio
    { period := .date asOfDate, asOfDate := some asOfDate }

variable {arithmetic : Arithmetic ν} {covenant : CovenantRows}
  {computeRatio : Date → Bool → Except DomainError RatioResult} {asOfDate : Date}

/-- A night looks no exception up. -/
theorem nightlyTest_thresholdUsed {row : CovenantTestRow ν}
    (tested : nightlyTest arithmetic covenant computeRatio asOfDate = .ok row) :
    row.thresholdUsed = covenant.version.threshold := by
  obtain ⟨period, exception, coerced, found, used⟩ := testCovenant_eq_ok tested
  have nothing : exception = none := by
    unfold CovenantRows.activeException at found
    rw [coercePeriod_date coerced] at found
    exact (Except.ok.inj found).symm
  rw [nothing, thresholdUnder_none, or_self] at used
  exact used

/-- A manual test in a period that an accepted exception covers applies that exception. -/
theorem manual_activeException {exception : ExceptionValue} {facts : ExceptionFacts}
    {label : Text} {requested : PeriodKey} {arguments : TestArguments} {period : PeriodFacts}
    {active : Option ExceptionFacts} (accepted : Accepted covenant.exceptions)
    (listed : exception ∈ covenant.exceptions) (read : toExceptionFacts exception = .ok facts)
    (owned : facts.appliesTo (some covenant.version.id) = true)
    (known : periodKey label = .ok requested) (within : requested ∈ facts.periods)
    (labelled : arguments.period.periodLabel = some label) (own : arguments.exception = none)
    (coerced : coercePeriod arguments.period arguments.asOfDate arguments.periodId = .ok period)
    (found : covenant.activeException arguments.exception period = .ok active) :
    active = some facts := by
  obtain ⟨kept, carried, same⟩ := coercePeriod_labelled coerced labelled known
  have resolved := ((resolveException_accepted accepted (some covenant.version.id) same).2.2
    facts).mpr ⟨exception, listed, read, within, owned⟩
  unfold CovenantRows.activeException at found
  rw [own, carried] at found
  exact (Except.ok.inj (resolved.symm.trans found)).symm

/-- In a period that an accepted exception of the version covers, the nightly test uses the
    threshold that the exception puts in force, and the manual test of the period the same one,
    exactly when the exception puts no other number in force than the version's own threshold. -/
theorem nightly_uses_relaxed_iff {exception : ExceptionValue} {facts : ExceptionFacts}
    {label : Text} {requested : PeriodKey} {arguments : TestArguments}
    {nightly manual : CovenantTestRow ν} (accepted : Accepted covenant.exceptions)
    (listed : exception ∈ covenant.exceptions) (read : toExceptionFacts exception = .ok facts)
    (owned : facts.appliesTo (some covenant.version.id) = true)
    (known : periodKey label = .ok requested) (within : requested ∈ facts.periods)
    (labelled : arguments.period.periodLabel = some label) (own : arguments.exception = none)
    (tested : nightlyTest arithmetic covenant computeRatio asOfDate = .ok nightly)
    (byHand : testCovenant arithmetic covenant computeRatio arguments = .ok manual) :
    (nightly.thresholdUsed.value =
          (thresholdUnder covenant.version.threshold (some facts)).value ∧
        manual.thresholdUsed.value = nightly.thresholdUsed.value) ↔
      ∀ relaxed ∈ facts.relaxedThreshold,
        relaxed.coefficient = 0 ∨ relaxed.value = covenant.version.threshold.value := by
  obtain ⟨period, active, coerced, found, used⟩ := testCovenant_eq_ok byHand
  rw [manual_activeException accepted listed read owned known within labelled own coerced found]
    at used
  rw [nightlyTest_thresholdUsed tested, ← thresholdUnder_value_iff]
  constructor
  · intro both
    exact both.1.symm
  · intro same
    refine ⟨same.symm, ?_⟩
    rcases used with relaxed | base
    · rw [relaxed, same]
    · rw [base]

/-! ## A relaxed covenant -/

/-- An exception for the first half of a financial year. -/
def relaxedFields : ExceptionFields where
  fromPeriod := "FY27Q1".toList
  toPeriod := "FY27Q2".toList
  relaxedThreshold := some ⟨false, 100, -2⟩
  id := some (Uuid.ofInt 1)
  covenantVersionId := some (Uuid.ofInt 7)
  approvedById := some (Uuid.ofInt 40)

theorem relaxedFields_window :
    validateExceptionWindow relaxedFields.fromPeriod relaxedFields.toPeriod =
      .ok (relaxedFields.fromPeriod, relaxedFields.toPeriod) := by decide

def relaxedFacts : ExceptionFacts := ⟨relaxedFields, relaxedFields_window⟩

theorem toExceptionFacts_relaxedFields :
    toExceptionFacts (.row relaxedFields) = .ok relaxedFacts := by decide

/-- A covenant with a least ratio of 1.25, and of 1.00 under the exception. -/
def relaxedCovenant : CovenantRows where
  covenantId := Uuid.ofInt 3
  version := ⟨Uuid.ofInt 7, ⟨false, 125, -2⟩, .min, none, none⟩
  exceptions := [.row relaxedFields]
  waivers := []

/-- The borrower's ratio is 1.10. -/
def sampleRatio (_ : Date) (_ : Bool) : Except DomainError RatioResult :=
  .ok (.computable ⟨false, 110, -2⟩ none)

theorem midMay_valid : 1 ≤ 2026 ∧ 2026 ≤ 9999 ∧ 1 ≤ 5 ∧ 5 ≤ 12 ∧ 1 ≤ 15 ∧
    15 ≤ daysInMonth 2026 5 := by decide

def midMay : Date := ⟨2026, 5, 15, midMay_valid⟩

def manualArguments : TestArguments :=
  { period := .label "FY27Q1".toList, asOfDate := some midMay }

theorem relaxedCovenant_accepted : Accepted relaxedCovenant.exceptions :=
  Accepted.empty.next (by decide : validateNoOverlappingExceptions
    relaxedFields.fromPeriod relaxedFields.toPeriod [] = .ok ())

theorem nightlyTest_relaxedCovenant :
    (nightlyTest Arithmetic.exact relaxedCovenant sampleRatio midMay).map
      (fun row => (row.thresholdUsed, row.exceptionId, row.verdict)) =
        .ok (⟨false, 125, -2⟩, none, .breach) := by decide +kernel

theorem testCovenant_manualArguments :
    (testCovenant Arithmetic.exact relaxedCovenant sampleRatio manualArguments).map
      (fun row => (row.thresholdUsed, row.exceptionId, row.verdict)) =
        .ok (⟨false, 100, -2⟩, some (Uuid.ofInt 1), .pass) := by decide +kernel

theorem relaxedFacts_periods : labelKey "FY27Q1".toList ∈ relaxedFacts.periods :=
  (by decide : labelKey "FY27Q1".toList ≤ labelKey "FY27Q1".toList ∧
    labelKey "FY27Q1".toList ≤ labelKey "FY27Q2".toList)

/-- In a period that an accepted exception covers, the manual test passes under the relaxed
    threshold, and the nightly test records a breach of the version's own. -/
theorem nightly_ignores_exception :
    Accepted relaxedCovenant.exceptions ∧
      toExceptionFacts (.row relaxedFields) = .ok relaxedFacts ∧
      labelKey "FY27Q1".toList ∈ relaxedFacts.periods ∧
      relaxedFacts.relaxedThreshold = some ⟨false, 100, -2⟩ ∧
      (∃ manual, testCovenant Arithmetic.exact relaxedCovenant sampleRatio manualArguments =
        .ok manual ∧ manual.thresholdUsed = ⟨false, 100, -2⟩ ∧ manual.verdict = .pass) ∧
      ∃ nightly, nightlyTest Arithmetic.exact relaxedCovenant sampleRatio midMay = .ok nightly ∧
        nightly.thresholdUsed = ⟨false, 125, -2⟩ ∧ nightly.verdict = .breach := by
  refine ⟨relaxedCovenant_accepted, toExceptionFacts_relaxedFields, relaxedFacts_periods, rfl,
    ?_, ?_⟩
  · obtain ⟨row, tested, fields⟩ := Except.map_eq_ok_iff.mp testCovenant_manualArguments
    simp only [Prod.mk.injEq] at fields
    exact ⟨row, tested, fields.1, fields.2.2⟩
  · obtain ⟨row, tested, fields⟩ := Except.map_eq_ok_iff.mp nightlyTest_relaxedCovenant
    simp only [Prod.mk.injEq] at fields
    exact ⟨row, tested, fields.1, fields.2.2⟩

theorem nightly_uses_relaxed_iff_sample :
    ∃ nightly manual,
      nightlyTest Arithmetic.exact relaxedCovenant sampleRatio midMay = .ok nightly ∧
      testCovenant Arithmetic.exact relaxedCovenant sampleRatio manualArguments = .ok manual ∧
      ((nightly.thresholdUsed.value =
            (thresholdUnder relaxedCovenant.version.threshold (some relaxedFacts)).value ∧
          manual.thresholdUsed.value = nightly.thresholdUsed.value) ↔
        ∀ relaxed ∈ relaxedFacts.relaxedThreshold,
          relaxed.coefficient = 0 ∨ relaxed.value = relaxedCovenant.version.threshold.value) := by
  obtain ⟨nightly, tested, _⟩ := Except.map_eq_ok_iff.mp nightlyTest_relaxedCovenant
  obtain ⟨manual, byHand, _⟩ := Except.map_eq_ok_iff.mp testCovenant_manualArguments
  have known : periodKey "FY27Q1".toList = .ok (labelKey "FY27Q1".toList) := by decide
  exact ⟨nightly, manual, tested, byHand,
    nightly_uses_relaxed_iff relaxedCovenant_accepted List.mem_cons_self
      toExceptionFacts_relaxedFields (by decide) known relaxedFacts_periods rfl rfl
      tested byHand⟩

end Nightly

end CovenantRadar
