import CovenantRadar.Core.DomainErrors
import CovenantRadar.Covenants.Evaluate

/-!
# Testing a covenant

Source `services/engine.py`, `EngineService.test`: the period a caller gives is read into period
facts, the exception and the waiver in force are looked up, and the evaluation becomes a row. The
statement lines, the facility and the ratio library are one function of the test date.
-/

namespace CovenantRadar.Covenants

/-- An exception of the pure code that the service lets through. -/
def raisedBy : PyError → DomainError
  | .valueError message => ⟨.raised, message.toList, none⟩
  | .typeError message => ⟨.raised, message.toList, none⟩
  | .overflowError message => ⟨.raised, message.toList, none⟩
  | .keyError key => ⟨.raised, key.toList, none⟩
  | .arithmeticError message => ⟨.raised, message.toList, none⟩

/-- The `period` argument: a date, a label or period facts. -/
inductive PeriodArgument where
  | date (day : Date)
  | label (text : Text)
  | facts (given : PeriodFacts)

/-- The label the argument carries. -/
def PeriodArgument.periodLabel : PeriodArgument → Option Text
  | .date _ => none
  | .label text => some text
  | .facts given => given.periodLabel

/-- Source `_coerce_period`. -/
def coercePeriod (period : PeriodArgument) (asOfDate : Option Date) (periodId : Option Uuid) :
    Except PyError PeriodFacts :=
  match period with
  | .date day => PeriodFacts.make { periodId, asOfDate := some (asOfDate.getD day) }
  | .label label => PeriodFacts.make { periodLabel := some label, periodId, asOfDate }
  | .facts facts =>
    if asOfDate = none ∧ periodId = none then .ok facts
    else PeriodFacts.make { facts with
      periodId := periodId.orElse fun _ => facts.periodId
      asOfDate := asOfDate.orElse fun _ => facts.asOfDate }

/-- The rows of one covenant that a test reads. -/
structure CovenantRows where
  covenantId : Uuid
  version : CovenantVersionTerms
  exceptions : List ExceptionValue
  waivers : List WaiverFields

/-- The other arguments of a test. -/
structure TestArguments where
  period : PeriodArgument
  asOfDate : Option Date := none
  periodId : Option Uuid := none
  exception : Option ExceptionFacts := none
  waiver : Option WaiverFacts := none

/-- Source `CovenantTest`, the stored row. -/
structure CovenantTestRow (ν : Type) where
  covenantVersionId : Uuid
  periodId : Option Uuid
  asOfDate : Date
  value : Option Decimal
  thresholdUsed : Decimal
  headroomPct : Option ν
  verdict : CovenantVerdict
  exceptionId : Option Uuid
  waiverId : Option Uuid
  cureEndsOn : Option Date
  notComputableReason : Option NotComputableReason

/-- The exception a test applies: the one it is given, or else the one that the label of the
    period finds. -/
def CovenantRows.activeException (covenant : CovenantRows) (given : Option ExceptionFacts)
    (period : PeriodFacts) : Except PyError (Option ExceptionFacts) :=
  match given, period.periodLabel with
  | some exception, _ => .ok (some exception)
  | none, none => .ok none
  | none, some label => resolveException ⟨some covenant.version.id, covenant.exceptions⟩ label

/-- The waiver a test applies: the one it is given, or else the one in force on the date. -/
def CovenantRows.activeWaiver (covenant : CovenantRows) (given : Option WaiverFacts)
    (testDate : Date) : Except PyError (Option WaiverFacts) :=
  match given with
  | some waiver => .ok (some waiver)
  | none => resolveWaiver (some covenant.covenantId) covenant.waivers testDate

section

variable {ν : Type} (arithmetic : Arithmetic ν)

/-- The row of an evaluation. -/
def testRow (covenant : CovenantRows) (period : PeriodFacts) (testDate : Date)
    (evaluation : CovenantEvaluation ν) : CovenantTestRow ν where
  covenantVersionId := covenant.version.id
  periodId := period.periodId
  asOfDate := testDate
  value := evaluation.value
  thresholdUsed := evaluation.thresholdUsed
  headroomPct := evaluation.headroomPct
  verdict := evaluation.verdict
  exceptionId := evaluation.exceptionApplied.bind fun facts => facts.id
  waiverId := evaluation.waiverApplied.bind fun facts => facts.id
  cureEndsOn := evaluation.cureEndsOn
  notComputableReason := evaluation.reason

/-- Source `EngineService.test`, for the version that was loaded. -/
def testCovenant (covenant : CovenantRows)
    (computeRatio : Date → Bool → Except DomainError RatioResult) (arguments : TestArguments) :
    Except DomainError (CovenantTestRow ν) := do
  let coerced := coercePeriod arguments.period arguments.asOfDate arguments.periodId
  let period ← coerced.mapError raisedBy
  match period.date with
  | none => .error (.validationError
      "period.as_of_date or period.period_end is required to persist a covenant test."
      "period.as_of_date")
  | some testDate =>
    let ratio ← computeRatio testDate period.isComplete
    let exception ← (covenant.activeException arguments.exception period).mapError raisedBy
    let waiver ← (covenant.activeWaiver arguments.waiver testDate).mapError raisedBy
    let version ← (CovenantVersionFacts.make covenant.version).mapError raisedBy
    .ok (testRow covenant period testDate
      (evaluateCovenant arithmetic version ratio period exception waiver))

end

/-! ## What a test reads -/

theorem CovenantVersionFacts.make_eq_ok {terms : CovenantVersionTerms}
    {version : CovenantVersionFacts} (made : CovenantVersionFacts.make terms = .ok version) :
    version.toCovenantVersionTerms = terms := by
  unfold CovenantVersionFacts.make at made
  split_ifs at made
  cases made
  rfl

/-- A financial period is read from its canonical spelling as well. -/
theorem periodKey_upper_strip {label : Text} {key : PeriodKey} (known : periodKey label = .ok key) :
    periodKey (Text.upper (Text.strip label)) = .ok key := by
  obtain ⟨period, normalised, _⟩ := Except.bind_eq_ok_iff.mp known
  obtain ⟨spelled, _, _⟩ := normalisePeriod_eq_ok_iff.mp normalised
  rw [← spelled, periodKey_eq_ok (normalisePeriod_self normalised), ← known,
    periodKey_eq_ok normalised]

theorem canonicalLabel_of_known {name : String} {label : Text} {key : PeriodKey}
    (known : periodKey label = .ok key) :
    canonicalLabel name (some label) = .ok (some (Text.upper (Text.strip label))) := by
  have visible : Text.strip label ≠ [] := by
    intro blank
    obtain ⟨period, normalised, _⟩ := Except.bind_eq_ok_iff.mp known
    obtain ⟨rfl, _, shaped⟩ := normalisePeriod_eq_ok_iff.mp normalised
    rw [blank] at shaped
    exact shaped rfl
  cases label with
  | nil => exact absurd rfl visible
  | cons first rest => exact if_neg visible

theorem PeriodFacts.make_eq_ok {given period : PeriodFacts}
    (made : PeriodFacts.make given = .ok period) :
    canonicalLabel "period_label" given.periodLabel = .ok period.periodLabel ∧
      period.asOfDate = given.asOfDate := by
  obtain ⟨label, labelled, made⟩ := Except.bind_eq_ok_iff.mp made
  obtain ⟨last, _, made⟩ := Except.bind_eq_ok_iff.mp made
  cases made
  exact ⟨labelled, rfl⟩

/-- A period that carries a financial period keeps it. -/
theorem coercePeriod_labelled {argument : PeriodArgument} {asOfDate : Option Date}
    {periodId : Option Uuid} {period : PeriodFacts} {label : Text} {key : PeriodKey}
    (coerced : coercePeriod argument asOfDate periodId = .ok period)
    (labelled : argument.periodLabel = some label) (known : periodKey label = .ok key) :
    ∃ kept, period.periodLabel = some kept ∧ periodKey kept = .ok key := by
  have made : ∀ given : PeriodFacts, given.periodLabel = some label →
      PeriodFacts.make given = .ok period →
      ∃ kept, period.periodLabel = some kept ∧ periodKey kept = .ok key := by
    intro given carried made
    have canonical := (PeriodFacts.make_eq_ok made).1
    rw [carried, canonicalLabel_of_known known] at canonical
    exact ⟨_, (Except.ok.inj canonical).symm, periodKey_upper_strip known⟩
  cases argument with
  | date day => cases labelled
  | label text => exact made _ labelled coerced
  | facts facts =>
    unfold coercePeriod at coerced
    simp only at coerced
    split_ifs at coerced with plain
    · cases coerced
      exact ⟨label, labelled, known⟩
    · have carried : facts.periodLabel = some label := labelled
      exact made { facts with
        periodId := periodId.orElse fun _ => facts.periodId
        asOfDate := asOfDate.orElse fun _ => facts.asOfDate } carried coerced

/-- A bare date carries no financial period. -/
theorem coercePeriod_date {day : Date} {asOfDate : Option Date} {periodId : Option Uuid}
    {period : PeriodFacts} (coerced : coercePeriod (.date day) asOfDate periodId = .ok period) :
    period.periodLabel = none :=
  (Except.ok.inj (PeriodFacts.make_eq_ok coerced).1).symm

/-- The threshold of a test is the one under the exception that is found, or the version's own
    where the evaluation raised. -/
theorem testCovenant_eq_ok {ν : Type} {arithmetic : Arithmetic ν} {covenant : CovenantRows}
    {computeRatio : Date → Bool → Except DomainError RatioResult} {arguments : TestArguments}
    {row : CovenantTestRow ν}
    (tested : testCovenant arithmetic covenant computeRatio arguments = .ok row) :
    ∃ period exception,
      coercePeriod arguments.period arguments.asOfDate arguments.periodId = .ok period ∧
      covenant.activeException arguments.exception period = .ok exception ∧
      (row.thresholdUsed = thresholdUnder covenant.version.threshold exception ∨
        row.thresholdUsed = covenant.version.threshold) := by
  obtain ⟨period, coerced, tested⟩ := Except.bind_eq_ok_iff.mp tested
  cases dated : period.date with
  | none =>
    rw [dated] at tested
    cases tested
  | some testDate =>
    rw [dated] at tested
    obtain ⟨ratio, _, tested⟩ := Except.bind_eq_ok_iff.mp tested
    obtain ⟨exception, found, tested⟩ := Except.bind_eq_ok_iff.mp tested
    obtain ⟨waiver, _, tested⟩ := Except.bind_eq_ok_iff.mp tested
    obtain ⟨version, made, tested⟩ := Except.bind_eq_ok_iff.mp tested
    cases tested
    have terms := CovenantVersionFacts.make_eq_ok (Except.mapError_eq_ok_iff.mp made)
    refine ⟨period, exception, Except.mapError_eq_ok_iff.mp coerced,
      Except.mapError_eq_ok_iff.mp found, ?_⟩
    rw [← terms]
    exact evaluateCovenant_thresholdUsed version ratio period exception waiver

end CovenantRadar.Covenants
