import CovenantRadar.Interventions.Effects
import CovenantRadar.Forecast.Probability

/-!
# Counterfactual simulation

Source `domain/interventions/simulate.py`: the stored inputs of a projection are changed by
one effect and projected again, and the result is compared with the baseline. The content
hash and the persisted copy of the parameters are left out.
-/

namespace CovenantRadar

namespace Interventions

open Forecast

/-- Source `_stored_inputs`, which the check of `ProjectionInputs` can refuse. -/
def storedInputs (projection : Projection) : Except PyError ProjectionInputs :=
  if negative : projection.requestedPressure < 0 then
    .error (.valueError "pressure must be non-negative.")
  else
    .ok
      { currentValue := projection.currentValue
        threshold := projection.threshold
        direction := projection.direction
        perDayDrift := projection.perDayDrift
        pressure := projection.requestedPressure
        pressure_nonneg := not_lt.mp negative }

/-- Source `_calendar_gap`. -/
def calendarGap (first last : Date) : Except PyError ℚ :=
  if last.toOrdinal ≤ first.toOrdinal then
    .error (.valueError "stored observations must span at least one calendar day.")
  else .ok ((last.toOrdinal - first.toOrdinal : Nat) : ℚ)

/-- The pressure argument of the second projection: the stored result when it still holds. -/
def recomputedPressure (source : Projection) (inputs : ProjectionInputs) : Pressure :=
  if inputs.pressure = source.requestedPressure ∧ inputs.direction = source.direction then
    match source.pressureResult with
    | some result => .result result
    | none => .scalar inputs.pressure
  else .scalar inputs.pressure

/-- The period length of the second projection. -/
def recomputedPeriod (source : Projection) (first last : Observation) : Except PyError ℚ :=
  match source.trend.periodLengthDays with
  | none => calendarGap first.observedOn last.observedOn
  | some period =>
    if period ≤ 0 then calendarGap first.observedOn last.observedOn else .ok period

/-- The two observations that give back the current value and the drift. -/
def recomputedSeries (inputs : ProjectionInputs) (period : ℚ) (first last : Observation) :
    List Observation :=
  match inputs.currentValue with
  | none => []
  | some current =>
    [Observation.dated first.observedOn (some (current - inputs.perDayDrift * period))
        first.sourceId,
      Observation.dated last.observedOn (some current) last.sourceId]

/-- Source `_recompute_projection`. -/
def recomputeProjection (source : Projection) (inputs : ProjectionInputs) (horizonDays : Nat) :
    Except PyError Projection :=
  match source.trend.usableObservations.reverse with
  | last :: first :: _ => do
    let period ← recomputedPeriod source first last
    project (recomputedSeries inputs period first last) (recomputedPressure source inputs)
      horizonDays inputs.threshold inputs.direction none (some period)
  | [observation] =>
    project [Observation.dated observation.observedOn inputs.currentValue observation.sourceId]
      (recomputedPressure source inputs) horizonDays inputs.threshold inputs.direction none none
  | [] =>
    project [] (recomputedPressure source inputs) horizonDays inputs.threshold inputs.direction
      none none

/-- Source `_distance_to_boundary`. -/
def distanceToBoundary (value threshold : ℚ) : Direction → ℚ
  | .max => max 0 (threshold - value)
  | .min => max 0 (value - threshold)

/-- The velocity towards the boundary. -/
def boundaryVelocity (projection : Projection) : ℚ :=
  match projection.direction with
  | .max => projection.netPerDayDrift
  | .min => -projection.netPerDayDrift

/-- Source `_probability`. -/
def simulatorProbability (projection : Projection) (crossing : CrossingResult)
    (weights : Weights) : Except PyError (Option ProbabilityResult) :=
  match projection.path.getLast?.bind (·.value) with
  | none => .ok none
  | some endpoint =>
    let threshold := (crossing.thresholdPath.getLast?.map (·.threshold)).getD projection.threshold
    (probability (distanceToBoundary endpoint threshold projection.direction)
      (boundaryVelocity projection) projection.pressure weights
      (decide (crossing.crossingDay = some 0)) projection.horizonDays).map some

/-- Source `delta_days_qualifier`. -/
inductive Qualifier where
  | exact
  | atLeast
  | atMost
  deriving DecidableEq, Repr

/-- Source `_crossing_delta`. -/
def crossingDelta (baselineDay counterfactualDay : Option Nat) (horizonDays : Nat) :
    Int × Qualifier :=
  match baselineDay, counterfactualDay with
  | some baseline, some counterfactual => (counterfactual - baseline, .exact)
  | some baseline, none => (horizonDays + 1 - baseline, .atLeast)
  | none, some counterfactual => (counterfactual - (horizonDays + 1), .atMost)
  | none, none => (0, .exact)

/-- Source `BaselineResult`. -/
structure BaselineResult where
  projection : Projection
  crossing : CrossingResult
  probabilityResult : Option ProbabilityResult

/-- Source `BaselineResult.probability` and `SimulationResult.probability`. -/
def probabilityValue (result : Option ProbabilityResult) : Option ℚ :=
  result.map (·.probability)

/-- Source `_probability_delta`. -/
def probabilityDelta (baseline : Option ℚ) (counterfactual : Option ProbabilityResult) :
    Option ℚ :=
  match baseline, counterfactual with
  | some baseline, some counterfactual => some (counterfactual.probability - baseline)
  | _, _ => none

/-- What `_observable_signature` compares. -/
structure ObservableSignature where
  threshold : ℚ
  direction : Direction
  values : List (Option ℚ)
  crossingDay : Option Nat
  crossingDate : Option Date
  thresholdUsed : Option ℚ
  probability : Option ℚ
  deriving DecidableEq

/-- Source `_observable_signature`. -/
def observableSignature (projection : Projection) (crossing : CrossingResult)
    (probabilityResult : Option ProbabilityResult) : ObservableSignature :=
  { threshold := projection.threshold
    direction := projection.direction
    values := projection.path.map (·.value)
    crossingDay := crossing.crossingDay
    crossingDate := crossing.crossing.bind (·.date)
    thresholdUsed := crossing.crossing.map (·.thresholdUsed)
    probability := probabilityValue probabilityResult }

/-- Source `effect_status`. -/
inductive EffectStatus where
  | applied
  | noEffect
  deriving DecidableEq, Repr

/-- The simulation parameters as a caller gives them. -/
structure Parameters where
  covenantClass : Option Text
  weights : Option Weights
  horizonDays : Option Int
  asOfDate : Option Date
  thresholdChanges : List ThresholdChange

/-- Source `_SimulationParameters`. -/
structure SimulationParameters where
  covenantClass : Text
  weights : Weights
  horizonDays : Nat
  asOfDate : Option Date
  thresholdChanges : List ThresholdChange

/-- Source `_parameters`; a projection made by `project` stores neither class nor weights. -/
def readParameters (projection : Projection) (raw : Parameters) :
    Except PyError SimulationParameters :=
  match raw.covenantClass with
  | none => .error (.valueError "simulation parameters require covenant_class.")
  | some covenantClass =>
    match raw.weights with
    | none => .error (.valueError "simulation parameters require probability weights.")
    | some weights =>
      let horizon := raw.horizonDays.getD projection.horizonDays
      let stored := projection.horizonDays
      if horizon < 0 then
        .error (.valueError "horizon_days must be a non-negative integer.")
      else if (stored : Int) < horizon then
        .error (.valueError
          s!"horizon_days cannot exceed the stored projection horizon {stored}.")
      else .ok ⟨covenantClass, weights, horizon.toNat, raw.asOfDate, raw.thresholdChanges⟩

/-- Source `_SimulationContext`. -/
structure SimulationContext where
  sourceProjection : Projection
  baseline : BaselineResult
  options : SimulationParameters

/-- The crossing and probability of a projection under the options. -/
def assess (projection : Projection) (options : SimulationParameters) :
    Except PyError BaselineResult := do
  let crossing ← firstCrossing projection options.asOfDate options.thresholdChanges
  let probabilityResult ← simulatorProbability projection crossing options.weights
  return ⟨projection, crossing, probabilityResult⟩

/-- The projection a baseline is taken from: the stored one, or a shorter one. -/
def baselineProjection (projection : Projection) (horizonDays : Nat) :
    Except PyError Projection :=
  if horizonDays = projection.horizonDays then .ok projection
  else do
    let inputs ← storedInputs projection
    recomputeProjection projection inputs horizonDays

/-- Source `_context`. -/
def context (projection : Projection) (raw : Parameters) : Except PyError SimulationContext := do
  let options ← readParameters projection raw
  let baseline ← baselineProjection projection options.horizonDays
  let assessed ← assess baseline options
  return ⟨projection, assessed, options⟩

/-- Source `SimulationResult`. -/
structure SimulationResult where
  intervention : InterventionFacts
  projection : Projection
  crossing : CrossingResult
  probabilityResult : Option ProbabilityResult
  baseline : BaselineResult
  transformedInputs : ProjectionInputs
  assumptions : List Text
  deltaDays : Int
  deltaDaysQualifier : Qualifier
  deltaProbability : Option ℚ
  effectStatus : EffectStatus

/-- The assumptions shown with a result; a covenant in breach adds its own. -/
def shownAssumptions (intervention : InterventionFacts) (baselineDay : Option Nat) : List Text :=
  if baselineDay = some 0 then
    (intervention.effect.assumptions ++
      ["the already breached covenant is simulated on its cure path".toList]).eraseDups
  else intervention.effect.assumptions

/-- The comparison at the end of `_simulate_with_context`. -/
def compareWithBaseline (context : SimulationContext) (intervention : InterventionFacts)
    (transformedInputs : ProjectionInputs) (counterfactual : BaselineResult) : SimulationResult :=
  let delta := crossingDelta context.baseline.crossing.crossingDay
    counterfactual.crossing.crossingDay context.options.horizonDays
  { intervention := intervention
    projection := counterfactual.projection
    crossing := counterfactual.crossing
    probabilityResult := counterfactual.probabilityResult
    baseline := context.baseline
    transformedInputs := transformedInputs
    assumptions := shownAssumptions intervention context.baseline.crossing.crossingDay
    deltaDays := delta.1
    deltaDaysQualifier := delta.2
    deltaProbability := probabilityDelta (probabilityValue context.baseline.probabilityResult)
      counterfactual.probabilityResult
    effectStatus :=
      if observableSignature counterfactual.projection counterfactual.crossing
          counterfactual.probabilityResult =
        observableSignature context.baseline.projection context.baseline.crossing
          context.baseline.probabilityResult then .noEffect
      else .applied }

/-- Source `_simulate_with_context`. -/
def simulateWithContext (context : SimulationContext) (intervention : InterventionFacts) :
    Except SimulationError SimulationResult := do
  let inputs ← (storedInputs context.sourceProjection).mapError SimulationError.raised
  let transformed ← intervention.apply inputs context.options.covenantClass
  let counterfactual ← (recomputeProjection context.sourceProjection transformed
    context.options.horizonDays).mapError SimulationError.raised
  let assessed ← (assess counterfactual context.options).mapError SimulationError.raised
  return compareWithBaseline context intervention transformed assessed

/-- Source `simulate`. -/
def simulate (projection : Projection) (intervention : InterventionFacts) (raw : Parameters) :
    Except SimulationError SimulationResult := do
  let context ← (context projection raw).mapError SimulationError.raised
  simulateWithContext context intervention

end Interventions

end CovenantRadar
