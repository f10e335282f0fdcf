import CovenantRadar.Forecast.Mirror
import CovenantRadar.Interventions.Counterfactual

/-!
# Directions and the boundary

The probability of a path is the probability of its mirror image, both where a scoring run
(`services/scoring.py`) and where the simulator asks for it. The simulator cuts a negative distance at
zero before it asks, so a flat path that a scheduled change puts in breach looks like the zero-signal
sentinel.
-/

namespace CovenantRadar

namespace Interventions

open Forecast

/-- Source `_forecast_rows`: the probability of one horizon, measured against the threshold
    of the covenant itself. -/
def forecastProbability (projection : Projection) (crossing : CrossingResult) (weights : Weights)
    (alreadyBreached : Bool) : Except PyError (Option ProbabilityResult) :=
  match projection.path.getLast?.bind (·.value) with
  | none => .ok none
  | some endpoint =>
    (probability (distanceToBoundary endpoint projection.threshold projection.direction)
      (boundaryVelocity projection) projection.pressure weights
      (alreadyBreached || decide (crossing.crossingDay = some 0)) projection.horizonDays).map some

theorem distanceToBoundary_neg (value threshold : ℚ) (direction : Direction) :
    distanceToBoundary (-value) (-threshold) direction.swap =
      distanceToBoundary value threshold direction := by
  cases direction with
  | min => exact congrArg (max 0) (neg_sub_neg threshold value)
  | max => exact congrArg (max 0) (neg_sub_neg value threshold)

theorem boundaryVelocity_mirror (projection : Projection) :
    boundaryVelocity projection.mirror = boundaryVelocity projection := by
  unfold boundaryVelocity Projection.mirror
  cases projection.direction with
  | min => rfl
  | max => exact neg_neg _

theorem crossing_mirror (result : CrossingResult) :
    result.mirror.crossing = result.crossing.map Crossing.mirror := by
  unfold CrossingResult.crossing CrossingResult.mirror
  cases result.outcome with
  | inl reason => rfl
  | inr crossing => rfl

theorem crossingDay_mirror (result : CrossingResult) :
    result.mirror.crossingDay = result.crossingDay := by
  unfold CrossingResult.crossingDay
  rw [crossing_mirror, Option.map_map]
  rfl

theorem endpoint_mirror (projection : Projection) :
    projection.mirror.path.getLast?.bind (·.value) =
      (projection.path.getLast?.bind (·.value)).map Neg.neg := by
  show (projection.path.map PathPoint.mirror).getLast?.bind (·.value) = _
  rw [List.getLast?_map]
  cases projection.path.getLast? with
  | none => rfl
  | some point => rfl

theorem forecastProbability_mirror (projection : Projection) (crossing : CrossingResult)
    (weights : Weights) (alreadyBreached : Bool) :
    forecastProbability projection.mirror crossing.mirror weights alreadyBreached =
      forecastProbability projection crossing weights alreadyBreached := by
  unfold forecastProbability
  rw [endpoint_mirror, boundaryVelocity_mirror, crossingDay_mirror]
  cases projection.path.getLast?.bind (·.value) with
  | none => rfl
  | some endpoint =>
    have distance := distanceToBoundary_neg endpoint projection.threshold projection.direction
    simp only [Option.map_some, Projection.mirror, distance]

theorem simulatorProbability_mirror (projection : Projection) (crossing : CrossingResult)
    (weights : Weights) :
    simulatorProbability projection.mirror crossing.mirror weights =
      simulatorProbability projection crossing weights := by
  have bound : (crossing.mirror.thresholdPath.getLast?.map (·.threshold)).getD
      projection.mirror.threshold =
      -((crossing.thresholdPath.getLast?.map (·.threshold)).getD projection.threshold) := by
    show ((crossing.thresholdPath.map ThresholdPoint.mirror).getLast?.map (·.threshold)).getD _ = _
    rw [List.getLast?_map]
    cases crossing.thresholdPath.getLast? with
    | none => rfl
    | some point => rfl
  unfold simulatorProbability
  rw [endpoint_mirror, boundaryVelocity_mirror, crossingDay_mirror, bound]
  cases projection.path.getLast?.bind (·.value) with
  | none => rfl
  | some endpoint =>
    simp only [Option.map_some, Projection.mirror, distanceToBoundary_neg]

/-- Negating the observed values and the thresholds and swapping the direction negates the
    fitted line and the path, and keeps the crossing day, the margin and the probability. -/
theorem forecast_mirror (series : List Observation) (pressure : Pressure) (horizonDays : Int)
    (threshold : ℚ) (direction : Direction) (recentPeriods : Option Int) (periodDays : Option ℚ) :
    project (series.map Observation.mirror) pressure horizonDays (-threshold) direction.swap
        recentPeriods periodDays =
      (project series pressure horizonDays threshold direction recentPeriods periodDays).map
        Projection.mirror ∧
    ∀ (projection : Projection) (asOf : Option Date) (changes : List ThresholdChange),
      (projection.mirror.trend.slope = -projection.trend.slope ∧
        projection.mirror.trend.perDayDrift = -projection.trend.perDayDrift ∧
        projection.mirror.trend.intercept = projection.trend.intercept.map Neg.neg ∧
        projection.mirror.path.map (·.value) =
          projection.path.map fun point => point.value.map Neg.neg) ∧
      firstCrossing projection.mirror asOf (changes.map ThresholdChange.mirror) =
        (firstCrossing projection asOf changes).map CrossingResult.mirror ∧
      ∀ (crossing : CrossingResult) (weights : Weights) (alreadyBreached : Bool),
        crossing.mirror.crossingDay = crossing.crossingDay ∧
        crossing.mirror.crossing.map (·.margin) = crossing.crossing.map (·.margin) ∧
        simulatorProbability projection.mirror crossing.mirror weights =
          simulatorProbability projection crossing weights ∧
        forecastProbability projection.mirror crossing.mirror weights alreadyBreached =
          forecastProbability projection crossing weights alreadyBreached := by
  refine ⟨project_mirror series pressure horizonDays threshold direction recentPeriods periodDays,
    ?_⟩
  intro projection asOf changes
  refine ⟨⟨rfl, rfl, rfl, List.map_map⟩, firstCrossing_mirror projection asOf changes, ?_⟩
  intro crossing weights alreadyBreached
  have margin : crossing.mirror.crossing.map (·.margin) = crossing.crossing.map (·.margin) := by
    rw [crossing_mirror, Option.map_map]
    rfl
  exact ⟨crossingDay_mirror crossing, margin, simulatorProbability_mirror projection crossing weights,
    forecastProbability_mirror projection crossing weights alreadyBreached⟩

/-! ## Paths at the boundary -/

/-- On the day the path is at or beyond the threshold in force. -/
def ReachedOn (projection : Projection) (crossing : CrossingResult) (day : Nat) : Prop :=
  ∃ point ∈ projection.path, ∃ bound ∈ crossing.thresholdPath, point.day = day ∧ bound.day = day ∧
    ∃ value ∈ point.value, breaches value bound.threshold projection.direction = true

instance (projection : Projection) (crossing : CrossingResult) (day : Nat) :
    Decidable (ReachedOn projection crossing day) := by
  unfold ReachedOn
  infer_instance

section

variable {projection : Projection} {crossing : CrossingResult} {current : ℚ}
variable {points : List ThresholdPoint}

/-- On a straight path the day is looked up by its number. -/
theorem reachedOn_iff (straight : projection.Straight)
    (known : projection.currentValue = some current)
    (bounds : crossing.thresholdPath = (List.range (projection.horizonDays + 1)).map fun day =>
      ⟨day, inForce points projection.threshold day⟩) {day : Nat}
    (inside : day ≤ projection.horizonDays) :
    ReachedOn projection crossing day ↔ reaches projection points current day = true := by
  unfold ReachedOn
  rw [straight.path, known, bounds, dailyPath]
  simp only [List.mem_map, List.mem_range, Nat.lt_succ_iff, exists_exists_and_eq_and,
    Option.map_some, Option.mem_def, Option.some.injEq, exists_eq_left', ← straight.net]
  constructor
  · intro reached
    obtain ⟨first, _, second, _, same, same', reached⟩ := reached
    subst same same'
    exact reached
  · intro reached
    exact ⟨day, inside, day, inside, rfl, rfl, reached⟩

/-- The sentinel, in terms of the path. -/
theorem isNeutral_iff (straight : projection.Straight)
    (known : projection.currentValue = some current)
    (bounds : crossing.thresholdPath = (List.range (projection.horizonDays + 1)).map fun day =>
      ⟨day, inForce points projection.threshold day⟩) :
    IsNeutral (distanceToBoundary (current + projection.netPerDayDrift * projection.horizonDays)
        (inForce points projection.threshold projection.horizonDays) projection.direction)
      (boundaryVelocity projection) projection.pressure (reaches projection points current 0) ↔
      projection.netPerDayDrift = 0 ∧ projection.pressure = 0 ∧
        ReachedOn projection crossing projection.horizonDays ∧ ¬ ReachedOn projection crossing 0 := by
  have slow : boundaryVelocity projection = 0 ↔ projection.netPerDayDrift = 0 := by
    unfold boundaryVelocity
    cases projection.direction with
    | max => exact Iff.rfl
    | min => exact neg_eq_zero
  have touching : reaches projection points current projection.horizonDays = true ↔
      distanceToBoundary (current + projection.netPerDayDrift * projection.horizonDays)
        (inForce points projection.threshold projection.horizonDays) projection.direction = 0 :=
    distanceToBoundary_eq_zero_iff.symm
  unfold IsNeutral
  rw [slow, reachedOn_iff straight known bounds (le_refl _),
    reachedOn_iff straight known bounds (Nat.zero_le _), touching, Bool.not_eq_true]
  tauto

end

/-- The reported probability of a sufficient projection is the maximum wherever the path
    ends at or beyond the threshold, and never the neutral zero where it crosses, exactly
    unless the path is flat, without pressure, and reaches the threshold only later on. -/
theorem simulatorProbability_maximum_iff {series : List Observation} {pressure : Pressure}
    {horizonDays : Int} {threshold : ℚ} {direction : Direction} {recentPeriods : Option Int}
    {periodDays : Option ℚ} {projection : Projection} {asOf : Option Date}
    {changes : List ThresholdChange} {crossing : CrossingResult} (weights : Weights)
    (projected : project series pressure horizonDays threshold direction recentPeriods periodDays =
      .ok projection)
    (sufficient : projection.trend.hasSufficientObservations)
    (crossed : firstCrossing projection asOf changes = .ok crossing) :
    ∃ result, simulatorProbability projection crossing weights = .ok (some result) ∧
      (((ReachedOn projection crossing projection.horizonDays →
            result.probability = weights.maxProbability) ∧
          (crossing.crossing ≠ none → result.reason ≠ some .neutral)) ↔
        ¬ (projection.netPerDayDrift = 0 ∧ projection.pressure = 0 ∧
          ReachedOn projection crossing projection.horizonDays ∧
          ¬ ReachedOn projection crossing 0)) := by
  have produced := project_produced projected
  obtain ⟨current, known⟩ := currentValue_of_sufficient produced sufficient
  obtain ⟨points, _, bounds, described⟩ := firstCrossing_eq_ok produced.toStraight known crossed
  have day := crossingDay_of_first described
  obtain ⟨reported, scored⟩ := simulatorProbability_returns produced crossing weights
  obtain ⟨nonneg, rfl⟩ := simulatorProbability_eq_ok produced.toStraight known bounds day scored
  refine ⟨_, scored, ?_⟩
  rw [← isNeutral_iff produced.toStraight known bounds]
  constructor
  · intro both neutral
    obtain ⟨_, _, last, _⟩ := (isNeutral_iff produced.toStraight known bounds).mp neutral
    have maximum := both.1 last
    rw [score_neutral neutral] at maximum
    exact absurd maximum (ne_of_lt weights.maximum.1)
  · intro signal
    refine ⟨?_, fun _ neutral => signal (score_reason_neutral_iff.mp neutral)⟩
    intro last
    have reached := (reachedOn_iff produced.toStraight known bounds (le_refl _)).mp last
    exact score_at_boundary (le_of_eq (distanceToBoundary_eq_zero_iff.mpr reached)) signal

/-- The minimum tightened past a flat ratio in the middle of the horizon. -/
def tightened : List ThresholdChange := [⟨12, .day 5⟩]

/-- Two equal observations on different dates. -/
def flatSeries : List Observation :=
  [Observation.dated januaryEnd (some 10) none, Observation.dated marchEnd (some 10) none]

/-- `simulatorProbability_maximum_iff` on a falling ratio that ends below the minimum. -/
theorem simulatorProbability_maximum_falling : ∃ projection crossing weights result,
    project fallingSeries (.scalar 0) 90 9 .min none none = .ok projection ∧
      firstCrossing projection none tightened = .ok crossing ∧
      Weights.make 1 1 1 defaultMaxProbability = .ok weights ∧
      simulatorProbability projection crossing weights = .ok (some result) ∧
      result.probability = weights.maxProbability := by
  obtain ⟨projection, projected, passed⟩ := @Except.exists_of_any _ _
    (project fallingSeries (.scalar 0) 90 9 .min none none)
    (fun (projection : Projection) => decide projection.trend.hasSufficientObservations &&
      (firstCrossing projection none tightened).toOption.any fun (crossing : CrossingResult) =>
        decide (projection.netPerDayDrift ≠ 0) &&
          decide (ReachedOn projection crossing projection.horizonDays))
    (by decide +kernel)
  obtain ⟨weights, weighted, _⟩ := @Except.exists_of_any _ _
    (Weights.make 1 1 1 defaultMaxProbability) (fun _ => true) (by decide +kernel)
  simp only [Bool.and_eq_true, decide_eq_true_eq] at passed
  obtain ⟨sufficient, running⟩ := passed
  obtain ⟨crossing, crossed, shown⟩ := Except.exists_of_any running
  simp only [Bool.and_eq_true, decide_eq_true_eq] at shown
  obtain ⟨result, scored, exact⟩ :=
    simulatorProbability_maximum_iff weights projected sufficient crossed
  have maximum := (exact.mpr fun flat => shown.1 flat.1).1 shown.2
  exact ⟨projection, crossing, weights, result, projected, crossed, weighted, scored, maximum⟩

/-- A flat ratio without pressure that a scheduled change puts in breach crosses on the day
    of the change, and its probability is the neutral zero. -/
theorem simulatorProbability_neutral_crossing : ∃ projection,
    project flatSeries (.scalar 0) 10 5 .min none none = .ok projection ∧ ∃ crossing,
      firstCrossing projection none tightened = .ok crossing ∧
        (projection.trend.hasSufficientObservations ∧ crossing.crossingDay = some 5 ∧
          ReachedOn projection crossing projection.horizonDays) ∧
        ∃ weights, Weights.make 1 1 1 defaultMaxProbability = .ok weights ∧
          ∃ result, simulatorProbability projection crossing weights = .ok (some result) ∧
            result.probability = 0 ∧ weights.maxProbability = 99 / 100 ∧
              result.reason = some .neutral := by
  obtain ⟨projection, projected, passed⟩ := @Except.exists_of_any _ _
    (project flatSeries (.scalar 0) 10 5 .min none none)
    (fun (projection : Projection) =>
      (firstCrossing projection none tightened).toOption.any fun (crossing : CrossingResult) =>
        decide (projection.trend.hasSufficientObservations ∧ crossing.crossingDay = some 5 ∧
          ReachedOn projection crossing projection.horizonDays) &&
        (Weights.make 1 1 1 defaultMaxProbability).toOption.any fun (weights : Weights) =>
          (simulatorProbability projection crossing weights).toOption.any
            fun (scored : Option ProbabilityResult) =>
              scored.any fun (result : ProbabilityResult) =>
                decide (result.probability = 0 ∧ weights.maxProbability = 99 / 100 ∧
                  result.reason = some .neutral))
    (by decide +kernel)
  obtain ⟨crossing, crossed, shown⟩ := Except.exists_of_any passed
  obtain ⟨crossesLater, weighed⟩ := (Bool.and_eq_true _ _).mp shown
  obtain ⟨weights, weighted, scoring⟩ := Except.exists_of_any weighed
  obtain ⟨reported, scored, told⟩ := Except.exists_of_any scoring
  obtain ⟨result, rfl, neutral⟩ := (Option.any_eq_true _ _).mp told
  exact ⟨projection, projected, crossing, crossed, of_decide_eq_true crossesLater, weights,
    weighted, result, scored, of_decide_eq_true neutral⟩

end Interventions

end CovenantRadar
