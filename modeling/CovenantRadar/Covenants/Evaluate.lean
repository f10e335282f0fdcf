import CovenantRadar.Covenants.Exceptions
import CovenantRadar.Forecast.Trend
import CovenantRadar.Python.DecimalContext

/-!
# Evaluating a covenant

Source `domain/covenants/evaluate.py` and `domain/covenants/headroom.py`: one ratio result against
the threshold of a covenant version, with the exception and the waiver in force. The arithmetic is
a parameter: `decimal` rounds and may raise, the exact one does neither.
-/

namespace CovenantRadar.Covenants

open Forecast (Direction)

/-! ## Arithmetic -/

/-- The operations on the numbers the evaluator computes with. -/
structure Arithmetic (ν : Type) where
  ofDecimal : Decimal → ν
  add : ν → ν → Except PyError ν
  sub : ν → ν → Except PyError ν
  mul : ν → ν → Except PyError ν
  div : ν → ν → Except PyError ν
  abs : ν → Except PyError ν
  lt : ν → ν → Bool

namespace Arithmetic

variable {ν : Type}

/-- `a <= b`. -/
def le (arithmetic : Arithmetic ν) (a b : ν) : Bool := !arithmetic.lt b a

/-- `a == b`. -/
def eq (arithmetic : Arithmetic ν) (a b : ν) : Bool := arithmetic.le a b && arithmetic.le b a

/-- Nothing is rounded and nothing raises. -/
def exact : Arithmetic ℚ where
  ofDecimal := Decimal.value
  add a b := .ok (a + b)
  sub a b := .ok (a - b)
  mul a b := .ok (a * b)
  div a b := .ok (a / b)
  abs a := .ok |a|
  lt a b := decide (a < b)

end Arithmetic

/-! ## The facts -/

/-- Source `CovenantVerdict`. -/
inductive CovenantVerdict where
  | pass
  | warning
  | breach
  | breachCureOpen
  | stale
  | notComputable
  deriving DecidableEq, Repr

/-- Source `ThresholdSide`. -/
inductive ThresholdSide where
  | above
  | below
  | at'
  deriving DecidableEq, Repr

/-- Source `NotComputableReason`. -/
inductive NotComputableReason where
  | missingLine
  | zeroDenominator
  | signMeaninglessDenominator
  | periodIncomplete
  | facilityFactsAbsent
  | formulaNotComputable
  deriving DecidableEq, Repr

/-- The terms of a covenant version, as its row carries them. -/
structure CovenantVersionTerms where
  id : Uuid
  threshold : Decimal
  direction : Direction
  warningHeadroomPct : Option Decimal
  cureDays : Option Int
  deriving DecidableEq

/-- Source `CovenantVersionFacts`. -/
structure CovenantVersionFacts extends CovenantVersionTerms where
  nonzero : threshold.coefficient ≠ 0
  warningNonneg : ∀ pct ∈ warningHeadroomPct, pct.lt (Decimal.ofInt 0) = false
  cureNonneg : ∀ days ∈ cureDays, 0 ≤ days

/-- Source `CovenantVersionFacts.__post_init__`. -/
def CovenantVersionFacts.make (terms : CovenantVersionTerms) :
    Except PyError CovenantVersionFacts :=
  if nonzero : terms.threshold.coefficient ≠ 0 then
    if warningNonneg : ∀ pct ∈ terms.warningHeadroomPct, pct.lt (Decimal.ofInt 0) = false then
      if cureNonneg : ∀ days ∈ terms.cureDays, 0 ≤ days then
        .ok { terms with nonzero, warningNonneg, cureNonneg }
      else .error (.valueError "cure_days must be a non-negative integer or None.")
    else .error (.valueError "warning_headroom_pct must not be negative.")
  else .error (.valueError "threshold must not be zero.")

/-- Source `PeriodFacts`. -/
structure PeriodFacts where
  periodLabel : Option Text := none
  isComplete : Bool := true
  lastCompletePeriod : Option Text := none
  periodId : Option Uuid := none
  asOfDate : Option Date := none
  periodEnd : Option Date := none
  deriving DecidableEq

/-- A label of `PeriodFacts`: an empty one counts as absent, a blank one is refused. -/
def canonicalLabel (name : String) (label : Option Text) : Except PyError (Option Text) :=
  match label with
  | none => .ok none
  | some [] => .ok none
  | some (first :: rest) =>
    if Text.strip (first :: rest) = [] then
      .error (.valueError (name ++ " must be non-empty text or None."))
    else .ok (some (Text.upper (Text.strip (first :: rest))))

/-- Source `PeriodFacts.__post_init__`. -/
def PeriodFacts.make (given : PeriodFacts) : Except PyError PeriodFacts := do
  let label ← canonicalLabel "period_label" given.periodLabel
  let last ← canonicalLabel "last_complete_period" given.lastCompletePeriod
  .ok { given with periodLabel := label, lastCompletePeriod := last }

/-- Source `_period_date`. -/
def PeriodFacts.date (period : PeriodFacts) : Option Date :=
  period.asOfDate.orElse fun _ => period.periodEnd

/-- Source `RatioResult`: a value, or the reason why there is none. -/
inductive RatioResult where
  | computable (value : Decimal) (outcome : Option Bool)
  | notComputable (reason : NotComputableReason) (context : List (Text × Text))
  deriving DecidableEq

/-- Source `_ratio_reason`. -/
def RatioResult.reason : RatioResult → NotComputableReason
  | computable _ _ => .formulaNotComputable
  | notComputable reason _ => reason

/-- A comparison of `thresholds_compared`. -/
structure ThresholdComparison (ν : Type) where
  name : Text
  value : ν
  observed : Decimal
  side : ThresholdSide

/-- Source `CovenantEvaluation`. -/
structure CovenantEvaluation (ν : Type) where
  value : Option Decimal
  thresholdUsed : Decimal
  headroomPct : Option ν
  verdict : CovenantVerdict
  exceptionApplied : Option ExceptionFacts := none
  waiverApplied : Option WaiverFacts := none
  cureEndsOn : Option Date := none
  thresholdsCompared : List (ThresholdComparison ν) := []
  reason : Option NotComputableReason := none
  reasonContext : List (Text × Text) := []
  staleReason : Option Text := none

/-- Source `CovenantEvaluation.__post_init__`: what an evaluation is checked for. -/
structure CovenantEvaluation.Valid {ν : Type} (evaluation : CovenantEvaluation ν) : Prop where
  reasoned : evaluation.verdict = .notComputable ↔ evaluation.reason.isSome
  measured : evaluation.value = none → evaluation.headroomPct = none

/-! ## The evaluator -/

section

variable {ν : Type} (arithmetic : Arithmetic ν)

/-- Source `signed_headroom`. -/
def signedHeadroom (value threshold : ν) (direction : Direction) : Except PyError ν :=
  if arithmetic.eq threshold (arithmetic.ofDecimal (Decimal.ofInt 0)) then
    .error (.valueError "headroom is undefined for a zero threshold.")
  else do
    let distance ← match direction with
      | .min => arithmetic.sub value threshold
      | .max => arithmetic.sub threshold value
    let magnitude ← arithmetic.abs threshold
    let fraction ← arithmetic.div distance magnitude
    arithmetic.mul fraction (arithmetic.ofDecimal (Decimal.ofInt 100))

/-- Source `_at_or_beyond_boundary`. -/
def atOrBeyondBoundary (value threshold : ν) : Direction → Bool
  | .min => arithmetic.le value threshold
  | .max => arithmetic.le threshold value

/-- Source `_warning_threshold`, with a headroom. -/
def warningThreshold (threshold : ν) (direction : Direction) (pct : ν) : Except PyError ν := do
  let fraction ← arithmetic.div pct (arithmetic.ofDecimal (Decimal.ofInt 100))
  let magnitude ← arithmetic.abs threshold
  let margin ← arithmetic.mul magnitude fraction
  match direction with
  | .min => arithmetic.add threshold margin
  | .max => arithmetic.sub threshold margin

/-- Source `_comparison`. -/
def comparison (name : String) (threshold : ν) (observed : Decimal) : ThresholdComparison ν where
  name := name.toList
  value := threshold
  observed := observed
  side :=
    if arithmetic.eq (arithmetic.ofDecimal observed) threshold then .at'
    else if arithmetic.lt threshold (arithmetic.ofDecimal observed) then .above
    else .below

/-- Source `_breach_verdict`. -/
def breachVerdict (cureDays : Option Int) (testDate : Option Date) : CovenantVerdict :=
  if cureDays.any (0 < ·) && testDate.isSome then .breachCureOpen else .breach

/-- Source `_verdict_for_condition`. -/
def verdictForCondition (outcome : Bool) (cureDays : Option Int) (testDate : Option Date) :
    CovenantVerdict :=
  if outcome then .pass else breachVerdict cureDays testDate

/-- Source `_cure_end`. -/
def cureWindowEnd (cureDays : Option Int) (testDate : Option Date) : Except PyError (Option Date) :=
  match cureDays, testDate with
  | some days, some date =>
    if days ≤ 0 then .ok none
    else match date.addDays days.toNat with
      | none => .error (.overflowError "date value out of range")
      | some ends => .ok (some ends)
  | _, _ => .ok none

/-- The threshold under an exception: its own, unless it is absent or zero. -/
def thresholdUnder (base : Decimal) (exception : Option ExceptionFacts) : Decimal :=
  match exception.bind fun facts => facts.relaxedThreshold with
  | none => base
  | some relaxed => if relaxed.coefficient = 0 then base else relaxed

/-- Source `_approved_waiver`. -/
def approvedWaiver (waiver : Option WaiverFacts) : Option WaiverFacts :=
  waiver.filter WaiverFacts.isApproved

/-- Source `_stale_reason`, after its first words. -/
def lastCompletePeriod (period : PeriodFacts) : Text :=
  match period.lastCompletePeriod with
  | none => "none available".toList
  | some last =>
    if Text.strip last = [] then "none available".toList else Text.upper (Text.strip last)

/-- Source `_invalid_evaluation`. -/
def invalidEvaluation (threshold : Decimal) : CovenantEvaluation ν where
  value := none
  thresholdUsed := threshold
  headroomPct := none
  verdict := .notComputable
  reason := some .formulaNotComputable
  reasonContext := [("reason".toList, "invalid covenant evaluation facts".toList)]

/-- The verdict on a value, before any waiver. -/
def valueVerdict (version : CovenantVersionFacts) (value threshold : Decimal) (headroom : ν)
    (outcome : Option Bool) (testDate : Option Date) : CovenantVerdict :=
  match outcome with
  | some outcome => verdictForCondition outcome version.cureDays testDate
  | none =>
    if atOrBeyondBoundary arithmetic (arithmetic.ofDecimal value) (arithmetic.ofDecimal threshold)
        version.direction then
      breachVerdict version.cureDays testDate
    else if version.warningHeadroomPct.any fun warning =>
        arithmetic.le headroom (arithmetic.ofDecimal warning) then .warning
    else .pass

/-- The evaluation of a value. -/
def evaluateValue (version : CovenantVersionFacts) (value : Decimal) (outcome : Option Bool)
    (period : PeriodFacts) (exception : Option ExceptionFacts) (waiver : Option WaiverFacts) :
    Except PyError (CovenantEvaluation ν) := do
  let threshold := thresholdUnder version.threshold exception
  let used := arithmetic.ofDecimal threshold
  let headroom ← signedHeadroom arithmetic (arithmetic.ofDecimal value) used version.direction
  let warning ← version.warningHeadroomPct.toList.mapM fun pct =>
    warningThreshold arithmetic used version.direction (arithmetic.ofDecimal pct)
  let verdict :=
    if (approvedWaiver waiver).isSome then .pass
    else valueVerdict arithmetic version value threshold headroom outcome period.date
  let ends ← cureWindowEnd (if verdict = .breachCureOpen then version.cureDays else none)
    period.date
  .ok {
    value := some value
    thresholdUsed := threshold
    headroomPct := some headroom
    verdict := verdict
    exceptionApplied := exception
    waiverApplied := approvedWaiver waiver
    cureEndsOn := ends
    thresholdsCompared := comparison arithmetic "covenant_threshold" used value ::
      warning.map fun line => comparison arithmetic "warning_threshold" line value }

/-- The body of `evaluate_covenant`, before anything that raises is caught. -/
def evaluateFacts (version : CovenantVersionFacts) (ratio : RatioResult) (period : PeriodFacts)
    (exception : Option ExceptionFacts) (waiver : Option WaiverFacts) :
    Except PyError (CovenantEvaluation ν) :=
  if period.isComplete = false ∨ ratio.reason = .periodIncomplete then
    .ok {
      value := none
      thresholdUsed := thresholdUnder version.threshold exception
      headroomPct := none
      verdict := .stale
      exceptionApplied := exception
      waiverApplied := approvedWaiver waiver
      reasonContext := [("last_complete_period".toList, lastCompletePeriod period)]
      staleReason := some ("last complete period: ".toList ++ lastCompletePeriod period) }
  else
    match ratio with
    | .notComputable reason context =>
      .ok {
        value := none
        thresholdUsed := thresholdUnder version.threshold exception
        headroomPct := none
        verdict := .notComputable
        exceptionApplied := exception
        waiverApplied := approvedWaiver waiver
        reason := some reason
        reasonContext := context }
    | .computable value outcome =>
      evaluateValue arithmetic version value outcome period exception waiver

/-- Source `evaluate_covenant`. -/
def evaluateCovenant (version : CovenantVersionFacts) (ratio : RatioResult)
    (period : PeriodFacts) (exception : Option ExceptionFacts) (waiver : Option WaiverFacts) :
    CovenantEvaluation ν :=
  match evaluateFacts arithmetic version ratio period exception waiver with
  | .ok evaluation => evaluation
  | .error _ => invalidEvaluation version.threshold

end

/-! ## What an evaluation carries -/

section

variable {ν : Type} {arithmetic : Arithmetic ν}

theorem thresholdUnder_none (base : Decimal) : thresholdUnder base none = base := rfl

/-- An exception changes the threshold exactly when its own is there, is not zero and is another
    number. -/
theorem thresholdUnder_value_iff {base : Decimal} {facts : ExceptionFacts} :
    (thresholdUnder base (some facts)).value = base.value ↔
      ∀ relaxed ∈ facts.relaxedThreshold,
        relaxed.coefficient = 0 ∨ relaxed.value = base.value := by
  unfold thresholdUnder
  rw [Option.bind_some]
  cases facts.relaxedThreshold with
  | none => simp
  | some relaxed =>
    simp only [Option.mem_def, Option.some.injEq, forall_eq']
    by_cases zero : relaxed.coefficient = 0
    · simp [zero]
    · simp [zero]

theorem evaluateValue_eq_ok {version : CovenantVersionFacts} {value : Decimal}
    {outcome : Option Bool} {period : PeriodFacts} {exception : Option ExceptionFacts}
    {waiver : Option WaiverFacts} {evaluation : CovenantEvaluation ν}
    (evaluated : evaluateValue arithmetic version value outcome period exception waiver =
      .ok evaluation) :
    evaluation.thresholdUsed = thresholdUnder version.threshold exception ∧
      evaluation.exceptionApplied = exception ∧ evaluation.value = some value ∧
      evaluation.verdict ≠ .notComputable ∧ evaluation.reason = none := by
  unfold evaluateValue at evaluated
  obtain ⟨headroom, _, evaluated⟩ := Except.bind_eq_ok_iff.mp evaluated
  obtain ⟨warning, _, evaluated⟩ := Except.bind_eq_ok_iff.mp evaluated
  obtain ⟨ends, _, evaluated⟩ := Except.bind_eq_ok_iff.mp evaluated
  cases evaluated
  refine ⟨rfl, rfl, rfl, ?_, rfl⟩
  simp only
  split_ifs
  · simp
  · unfold valueVerdict verdictForCondition breachVerdict
    split <;> split_ifs <;> simp

/-- The threshold that is recorded is the one in force, or the version's own where the evaluation
    raised. -/
theorem evaluateCovenant_thresholdUsed (version : CovenantVersionFacts) (ratio : RatioResult)
    (period : PeriodFacts) (exception : Option ExceptionFacts) (waiver : Option WaiverFacts) :
    (evaluateCovenant arithmetic version ratio period exception waiver).thresholdUsed =
        thresholdUnder version.threshold exception ∨
      (evaluateCovenant arithmetic version ratio period exception waiver).thresholdUsed =
        version.threshold := by
  unfold evaluateCovenant
  cases evaluated : evaluateFacts arithmetic version ratio period exception waiver with
  | error error => exact Or.inr rfl
  | ok evaluation =>
    left
    unfold evaluateFacts at evaluated
    split_ifs at evaluated
    · cases evaluated
      rfl
    · cases ratio with
      | notComputable reason context =>
        cases evaluated
        rfl
      | computable value outcome => exact (evaluateValue_eq_ok evaluated).1

/-- Every evaluation passes its own check. -/
theorem evaluateCovenant_valid (version : CovenantVersionFacts) (ratio : RatioResult)
    (period : PeriodFacts) (exception : Option ExceptionFacts) (waiver : Option WaiverFacts) :
    (evaluateCovenant arithmetic version ratio period exception waiver).Valid := by
  unfold evaluateCovenant
  cases evaluated : evaluateFacts arithmetic version ratio period exception waiver with
  | error error => exact ⟨by simp [invalidEvaluation], fun _ => rfl⟩
  | ok evaluation =>
    unfold evaluateFacts at evaluated
    split_ifs at evaluated
    · cases evaluated
      exact ⟨by simp, fun _ => rfl⟩
    · cases ratio with
      | notComputable reason context =>
        cases evaluated
        exact ⟨by simp, fun _ => rfl⟩
      | computable value outcome =>
        obtain ⟨_, _, measured, verdict, reason⟩ := evaluateValue_eq_ok evaluated
        refine ⟨by simp [verdict, reason], fun missing => ?_⟩
        rw [measured] at missing
        cases missing

end

end CovenantRadar.Covenants
