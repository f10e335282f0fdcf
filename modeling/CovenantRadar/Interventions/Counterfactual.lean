import CovenantRadar.Interventions.Recompute

/-!
# The counterfactual path

The crossing and the probability of a straight projection in terms of its current value
and net drift, and when the simulated path is the forward projection of the inputs.
-/

namespace CovenantRadar

namespace Interventions

open Forecast

/-! ## Distance to the boundary -/

/-- The distance is positive exactly short of the threshold. -/
theorem distanceToBoundary_pos_iff {value threshold : ℚ} {direction : Direction} :
    0 < distanceToBoundary value threshold direction ↔
      breaches value threshold direction = false := by
  cases direction with
  | max => simp [distanceToBoundary, breaches]
  | min => simp [distanceToBoundary, breaches]

/-- The distance is zero exactly at or beyond the threshold. -/
theorem distanceToBoundary_eq_zero_iff {value threshold : ℚ} {direction : Direction} :
    distanceToBoundary value threshold direction = 0 ↔
      breaches value threshold direction = true := by
  cases direction with
  | max => simp [distanceToBoundary, breaches]
  | min => simp [distanceToBoundary, breaches]

/-- Over no days the velocity does not enter the score. -/
theorem score_velocity_irrelevant {distance velocity velocity' pressure pressure' : ℚ}
    {weights : Weights} {told : Bool} {nonneg : 0 ≤ pressure} {nonneg' : 0 ≤ pressure'}
    (same : pressure' = pressure) (decided : told = true ∨ 0 < distance) :
    (score distance velocity' pressure' 0 weights told nonneg').probability =
      (score distance velocity pressure 0 weights told nonneg).probability := by
  subst same
  cases told with
  | true => rw [score_told rfl, score_told rfl]
  | false =>
    have far : 0 < distance := decided.resolve_left Bool.false_ne_true
    rw [score_open far rfl, score_open far rfl]
    simp [horizonFactor]

/-! ## Assessing a straight projection -/

/-- What `assess` says of a straight projection with a current value. -/
structure Assessed (projection : Projection) (options : SimulationParameters) (current : ℚ)
    (points : List ThresholdPoint) (result : BaselineResult) : Prop where
  projection_eq : result.projection = projection
  read : normaliseChanges options.thresholdChanges (resolveAsOf options.asOfDate projection)
    projection.horizonDays = .ok points
  crossing : match firstDay (reaches projection points current) projection.horizonDays with
    | none => result.crossing.crossing = none
    | some day => ∃ date,
        crossingDate (resolveAsOf options.asOfDate projection) day = .ok date ∧
        result.crossing.crossing = some ⟨day, date, current + projection.netPerDayDrift * day,
          inForce points projection.threshold day,
          breachMargin (current + projection.netPerDayDrift * day)
            (inForce points projection.threshold day) projection.direction⟩
  probability : ∃ nonneg, result.probabilityResult = some
    (score (distanceToBoundary (current + projection.netPerDayDrift * projection.horizonDays)
        (inForce points projection.threshold projection.horizonDays) projection.direction)
      (boundaryVelocity projection) projection.pressure projection.horizonDays options.weights
      (reaches projection points current 0) nonneg)

section

variable {projection : Projection} {options : SimulationParameters} {current : ℚ}
variable {points : List ThresholdPoint} {result : BaselineResult}

/-- The day of a crossing that is described by its first day. -/
theorem crossingDay_of_first {asOf : Option Date} {crossing : CrossingResult}
    (described : match firstDay (reaches projection points current) projection.horizonDays with
      | none => crossing.crossing = none
      | some day => ∃ date, crossingDate asOf day = .ok date ∧
          crossing.crossing = some ⟨day, date, current + projection.netPerDayDrift * day,
            inForce points projection.threshold day,
            breachMargin (current + projection.netPerDayDrift * day)
              (inForce points projection.threshold day) projection.direction⟩) :
    crossing.crossingDay = firstDay (reaches projection points current) projection.horizonDays := by
  unfold CrossingResult.crossingDay
  cases found : firstDay (reaches projection points current) projection.horizonDays with
  | none =>
    rw [found] at described
    simp only at described
    rw [described]
    rfl
  | some day =>
    rw [found] at described
    obtain ⟨date, _, shown⟩ := described
    rw [shown]
    rfl

theorem Assessed.day (assessed : Assessed projection options current points result) :
    result.crossing.crossingDay =
      firstDay (reaches projection points current) projection.horizonDays :=
  crossingDay_of_first assessed.crossing

/-- The last entry of a list with one entry a day. -/
theorem getLast?_map_range {α : Type} (f : Nat → α) (horizon : Nat) :
    ((List.range (horizon + 1)).map f).getLast? = some (f horizon) := by
  rw [List.range_succ, List.map_append, List.map_singleton, List.getLast?_concat]

/-- The probability the simulator reports for a straight path with a crossing. -/
theorem simulatorProbability_eq_ok {crossing : CrossingResult} {weights : Weights}
    {reported : Option ProbabilityResult} (straight : projection.Straight)
    (known : projection.currentValue = some current)
    (bounds : crossing.thresholdPath = (List.range (projection.horizonDays + 1)).map fun day =>
      ⟨day, inForce points projection.threshold day⟩)
    (day : crossing.crossingDay =
      firstDay (reaches projection points current) projection.horizonDays)
    (returned : simulatorProbability projection crossing weights = .ok reported) :
    ∃ nonneg, reported = some
      (score (distanceToBoundary (current + projection.netPerDayDrift * projection.horizonDays)
          (inForce points projection.threshold projection.horizonDays) projection.direction)
        (boundaryVelocity projection) projection.pressure projection.horizonDays weights
        (reaches projection points current 0) nonneg) := by
  have endpoint : projection.path.getLast?.bind (·.value) =
      some (current + projection.netPerDayDrift * projection.horizonDays) := by
    rw [straight.path, known, dailyPath, getLast?_map_range, straight.net]
    rfl
  have bound : (crossing.thresholdPath.getLast?.map (·.threshold)).getD projection.threshold =
      inForce points projection.threshold projection.horizonDays := by
    rw [bounds, getLast?_map_range]
    rfl
  have told : decide (crossing.crossingDay = some 0) = reaches projection points current 0 := by
    rw [day, Bool.eq_iff_iff, decide_eq_true_iff, firstDay_zero_iff]
  unfold simulatorProbability at returned
  rw [endpoint] at returned
  simp only [bound, told] at returned
  cases scored : probability (distanceToBoundary
      (current + projection.netPerDayDrift * projection.horizonDays)
      (inForce points projection.threshold projection.horizonDays) projection.direction)
      (boundaryVelocity projection) projection.pressure weights
      (reaches projection points current 0) projection.horizonDays with
  | error error =>
    rw [scored] at returned
    cases returned
  | ok result =>
    rw [scored] at returned
    cases returned
    obtain ⟨nonneg, made⟩ := probability_eq_ok scored
    exact ⟨nonneg, congrArg some made⟩

/-- A produced projection has a probability for every crossing. -/
theorem simulatorProbability_returns {series : List Observation}
    (produced : projection.Produced series) (crossing : CrossingResult) (weights : Weights) :
    ∃ reported, simulatorProbability projection crossing weights = .ok reported := by
  unfold simulatorProbability
  cases projection.path.getLast?.bind (·.value) with
  | none => exact ⟨none, rfl⟩
  | some endpoint =>
    have horizon : ¬ (projection.horizonDays : Int) < 0 := by omega
    simp only [probability, if_neg horizon, dif_neg (not_lt.mpr produced.nonneg)]
    exact ⟨_, rfl⟩

theorem assess_eq_ok (straight : projection.Straight)
    (known : projection.currentValue = some current)
    (returned : assess projection options = .ok result) :
    ∃ points, Assessed projection options current points result := by
  obtain ⟨crossing, crossed, rest⟩ := Except.bind_eq_ok_iff.mp returned
  obtain ⟨reported, scored, last⟩ := Except.bind_eq_ok_iff.mp rest
  cases last
  obtain ⟨points, read, bounds, described⟩ := firstCrossing_eq_ok straight known crossed
  exact ⟨points, rfl, read, described, simulatorProbability_eq_ok straight known bounds
    (crossingDay_of_first described) scored⟩

/-- Without a current value nothing is crossed and no probability is reported. -/
theorem assess_unavailable (straight : projection.Straight)
    (unknown : projection.currentValue = none)
    (returned : assess projection options = .ok result) :
    result.crossing.crossingDay = none ∧ result.probabilityResult = none := by
  obtain ⟨crossing, crossed, rest⟩ := Except.bind_eq_ok_iff.mp returned
  obtain ⟨reported, scored, last⟩ := Except.bind_eq_ok_iff.mp rest
  cases last
  have uncrossed := firstCrossing_unavailable straight unknown crossed
  have endpoint : projection.path.getLast?.bind (·.value) = none := by
    rw [straight.path, unknown, dailyPath, getLast?_map_range]
    rfl
  unfold simulatorProbability at scored
  rw [endpoint] at scored
  cases scored
  exact ⟨congrArg (Option.map Crossing.day) uncrossed, rfl⟩

end

/-! ## The simulation -/

section

variable {projection : Projection} {intervention : InterventionFacts} {raw : Parameters}
variable {result : SimulationResult} {series : List Observation}

/-- The inputs stored with a produced projection. -/
theorem storedInputs_eq_ok (produced : projection.Produced series) {inputs : ProjectionInputs}
    (stored : storedInputs projection = .ok inputs) :
    inputs.currentValue = projection.currentValue ∧ inputs.threshold = projection.threshold ∧
      inputs.direction = projection.direction ∧ inputs.perDayDrift = projection.perDayDrift ∧
      inputs.pressure = projection.pressure := by
  unfold storedInputs at stored
  split_ifs at stored
  cases stored
  exact ⟨rfl, rfl, rfl, rfl, produced.requested⟩

/-- Wherever the last two observations are apart, the stored inputs have the drift of the
    projection they come from. -/
theorem storedInputs_drift (produced : projection.Produced series) {inputs : ProjectionInputs}
    (stored : storedInputs projection = .ok inputs)
    (sufficient : projection.trend.hasSufficientObservations) :
    inputs.netPerDayDrift = projection.netPerDayDrift := by
  obtain ⟨_, _, direction, drift, pressure⟩ := storedInputs_eq_ok produced stored
  rw [produced.net, produced.term, if_pos sufficient, ProjectionInputs.netPerDayDrift, direction,
    drift, pressure]

/-- The parts a simulation is made of. -/
theorem simulate_eq_ok (simulated : simulate projection intervention raw = .ok result) :
    ∃ options inputs baseline assessed counterfactual reassessed,
      readParameters projection raw = .ok options ∧
      storedInputs projection = .ok inputs ∧
      intervention.apply inputs options.covenantClass = .ok result.transformedInputs ∧
      baselineProjection projection options.horizonDays = .ok baseline ∧
      assess baseline options = .ok assessed ∧
      recomputeProjection projection result.transformedInputs options.horizonDays =
        .ok counterfactual ∧
      assess counterfactual options = .ok reassessed ∧
      result = compareWithBaseline ⟨projection, assessed, options⟩ intervention
        result.transformedInputs reassessed := by
  obtain ⟨made, contextual, rest⟩ := Except.bind_eq_ok_iff.mp simulated
  obtain ⟨options, read, building⟩ :=
    Except.bind_eq_ok_iff.mp (Except.mapError_eq_ok_iff.mp contextual)
  obtain ⟨baseline, based, assessing⟩ := Except.bind_eq_ok_iff.mp building
  obtain ⟨assessed, judged, last⟩ := Except.bind_eq_ok_iff.mp assessing
  cases last
  obtain ⟨inputs, stored, applying⟩ := Except.bind_eq_ok_iff.mp rest
  obtain ⟨transformed, applied, recomputing⟩ := Except.bind_eq_ok_iff.mp applying
  obtain ⟨counterfactual, recomputed, reassessing⟩ := Except.bind_eq_ok_iff.mp recomputing
  obtain ⟨reassessed, rejudged, last⟩ := Except.bind_eq_ok_iff.mp reassessing
  cases last
  exact ⟨options, inputs, baseline, assessed, counterfactual, reassessed, read,
    Except.mapError_eq_ok_iff.mp stored, applied, based, judged,
    Except.mapError_eq_ok_iff.mp recomputed, Except.mapError_eq_ok_iff.mp rejudged, rfl⟩

/-- The options read from the parameters. -/
theorem readParameters_eq_ok {options : SimulationParameters}
    (read : readParameters projection raw = .ok options) :
    raw.covenantClass = some options.covenantClass ∧
      (options.horizonDays : Int) = raw.horizonDays.getD projection.horizonDays ∧
      options.horizonDays ≤ projection.horizonDays := by
  unfold readParameters at read
  cases named : raw.covenantClass with
  | none =>
    rw [named] at read
    cases read
  | some covenantClass =>
    rw [named] at read
    cases weighted : raw.weights with
    | none =>
      rw [weighted] at read
      cases read
    | some weights =>
      rw [weighted] at read
      simp only at read
      split_ifs at read with negative beyond
      cases read
      refine ⟨rfl, Int.toNat_of_nonneg (not_lt.mp negative), ?_⟩
      show (raw.horizonDays.getD projection.horizonDays).toNat ≤ projection.horizonDays
      omega

end

/-! ## Following the inputs -/

/-- Day by day the path is the current value of the inputs moved by their net drift. -/
def FollowsInputs (path : List PathPoint) (inputs : ProjectionInputs) : Prop :=
  ∀ point ∈ path, point.value = inputs.currentValue.map (· + inputs.netPerDayDrift * point.day)

instance (path : List PathPoint) (inputs : ProjectionInputs) :
    Decidable (FollowsInputs path inputs) := by
  unfold FollowsInputs
  infer_instance

/-- Nothing a simulation reports differs from the baseline. -/
structure NoDelta (result : SimulationResult) : Prop where
  status : result.effectStatus = .noEffect
  days : result.deltaDays = 0
  qualifier : result.deltaDaysQualifier = .exact
  probability : result.deltaProbability = some 0

/-- A straight path follows inputs with its current value when the drifts agree on its days. -/
theorem followsInputs_iff {projection : Projection} {inputs : ProjectionInputs} {current : ℚ}
    (straight : projection.Straight) (known : projection.currentValue = some current)
    (same : inputs.currentValue = some current) :
    FollowsInputs projection.path inputs ↔
      projection.horizonDays = 0 ∨ projection.netPerDayDrift = inputs.netPerDayDrift := by
  unfold FollowsInputs
  rw [straight.path, known, same, dailyPath, List.forall_mem_map, ← straight.net]
  simp only [Option.map_some, Option.some.injEq, add_right_inj, List.mem_range]
  constructor
  · intro follows
    by_cases short : projection.horizonDays = 0
    · exact Or.inl short
    · have first := follows 1 (by omega)
      exact Or.inr (by simpa using first)
  · intro agree day inside
    rcases agree with short | drift
    · have zero : day = 0 := by omega
      simp [zero]
    · rw [drift]

/-- Two straight projections that differ at most in a drift without days to act. -/
structure SameCourse (a b : Projection) : Prop where
  threshold : a.threshold = b.threshold
  direction : a.direction = b.direction
  horizon : a.horizonDays = b.horizonDays
  current : a.currentValue = b.currentValue
  pressure : a.pressure = b.pressure
  dated : a.trend.usableObservations.getLast?.map (·.observedOn) =
    b.trend.usableObservations.getLast?.map (·.observedOn)
  drift : a.horizonDays = 0 ∨ a.netPerDayDrift = b.netPerDayDrift

section

variable {a b : Projection} {options : SimulationParameters} {current : ℚ}
variable {pointsA pointsB : List ThresholdPoint} {resultA resultB : BaselineResult}

theorem SameCourse.value (same : SameCourse a b) (current : ℚ) {day : Nat}
    (inside : day ≤ a.horizonDays) :
    current + a.netPerDayDrift * day = current + b.netPerDayDrift * day := by
  rcases same.drift with short | drift
  · have zero : day = 0 := by omega
    simp [zero]
  · rw [drift]

/-- Projections on one course read the same threshold changes. -/
theorem SameCourse.points (same : SameCourse a b)
    (first : Assessed a options current pointsA resultA)
    (second : Assessed b options current pointsB resultB) : pointsA = pointsB := by
  have read := first.read
  have resolved : resolveAsOf options.asOfDate a = resolveAsOf options.asOfDate b := by
    unfold resolveAsOf
    rw [same.dated]
  rw [resolved, same.horizon, second.read] at read
  exact (Except.ok.inj read).symm

theorem SameCourse.reaches (same : SameCourse a b) (points : List ThresholdPoint) (current : ℚ)
    {day : Nat} (inside : day ≤ a.horizonDays) :
    reaches a points current day = reaches b points current day := by
  unfold Forecast.reaches
  rw [same.value current inside, same.threshold, same.direction]

/-- Projections on one course have the same crossing. -/
theorem SameCourse.crossing (same : SameCourse a b)
    (first : Assessed a options current pointsA resultA)
    (second : Assessed b options current pointsB resultB) :
    resultA.crossing.crossing = resultB.crossing.crossing := by
  have points := same.points first second
  subst points
  have days : firstDay (Forecast.reaches a pointsA current) a.horizonDays =
      firstDay (Forecast.reaches b pointsA current) b.horizonDays := by
    rw [← same.horizon]
    exact firstDay_congr fun day inside => same.reaches pointsA current inside
  have resolved : resolveAsOf options.asOfDate a = resolveAsOf options.asOfDate b := by
    unfold resolveAsOf
    rw [same.dated]
  have shownA := first.crossing
  have shownB := second.crossing
  rw [days] at shownA
  cases found : firstDay (Forecast.reaches b pointsA current) b.horizonDays with
  | none =>
    rw [found] at shownA shownB
    exact shownA.trans shownB.symm
  | some day =>
    rw [found] at shownA shownB
    obtain ⟨dateA, datedA, madeA⟩ := shownA
    obtain ⟨dateB, datedB, madeB⟩ := shownB
    have inside : day ≤ a.horizonDays := by
      rw [same.horizon]
      exact (firstDay_eq_some_iff.mp found).2.1
    rw [resolved, datedB] at datedA
    rw [madeA, madeB, same.value current inside, same.threshold, same.direction, Except.ok.inj datedA]

/-- Projections on one course have the same probability. -/
theorem SameCourse.probability (same : SameCourse a b)
    (first : Assessed a options current pointsA resultA)
    (second : Assessed b options current pointsB resultB) :
    ∃ value, probabilityValue resultA.probabilityResult = some value ∧
      probabilityValue resultB.probabilityResult = some value := by
  have points := same.points first second
  subst points
  obtain ⟨nonnegA, madeA⟩ := first.probability
  obtain ⟨nonnegB, madeB⟩ := second.probability
  have told := same.reaches pointsA current (Nat.zero_le a.horizonDays)
  have endpoint := same.value current (le_refl a.horizonDays)
  rw [endpoint, same.threshold, same.horizon, same.direction, told] at madeA
  rw [madeA, madeB]
  refine ⟨_, rfl, congrArg some ?_⟩
  have pressures := same.pressure
  rcases same.drift with short | drift
  · rw [same.horizon] at short
    simp only [short]
    refine score_velocity_irrelevant pressures.symm ?_
    cases reached : Forecast.reaches b pointsA current 0 with
    | true => exact Or.inl rfl
    | false =>
      refine Or.inr (distanceToBoundary_pos_iff.mpr ?_)
      exact reached
  · have velocity : boundaryVelocity a = boundaryVelocity b := by
      unfold boundaryVelocity
      rw [same.direction, drift]
    rw [velocity]
    simp only [pressures]

/-- Simulated options on the course of the baseline change nothing that is reported. -/
theorem noDelta_of_sameCourse {projection : Projection} {intervention : InterventionFacts}
    {inputs : ProjectionInputs} (same : SameCourse a b)
    (first : Assessed a options current pointsA resultA)
    (second : Assessed b options current pointsB resultB) (straightA : a.Straight)
    (straightB : b.Straight) (known : a.currentValue = some current) :
    NoDelta (compareWithBaseline ⟨projection, resultA, options⟩ intervention inputs resultB) := by
  have crossing := same.crossing first second
  have day : resultA.crossing.crossingDay = resultB.crossing.crossingDay := by
    unfold CrossingResult.crossingDay
    rw [crossing]
  obtain ⟨value, before, after⟩ := same.probability first second
  have values : a.path.map (·.value) = b.path.map (·.value) := by
    rw [straightA.path, straightB.path, dailyPath, dailyPath, List.map_map, List.map_map,
      ← same.horizon, ← same.current, known]
    apply List.map_congr_left
    intro day member
    have agree := same.value current (Nat.lt_succ_iff.mp (List.mem_range.mp member))
    simpa [← straightA.net, ← straightB.net] using agree
  have delta : crossingDelta resultA.crossing.crossingDay resultB.crossing.crossingDay
      options.horizonDays = (0, .exact) := by
    rw [day]
    cases resultB.crossing.crossingDay with
    | none => rfl
    | some day => simp [crossingDelta]
  refine ⟨if_pos ?_, congrArg Prod.fst delta, congrArg Prod.snd delta, ?_⟩
  · simp only [observableSignature, first.projection_eq, second.projection_eq, same.threshold,
      same.direction, values, day, crossing, before, after]
  · show probabilityDelta (probabilityValue resultA.probabilityResult) resultB.probabilityResult =
      some 0
    rw [before]
    cases reported : resultB.probabilityResult with
    | none =>
      rw [reported] at after
      cases after
    | some result =>
      rw [reported] at after
      cases after
      exact congrArg some (sub_self _)

theorem SameCourse.refl (a : Projection) : SameCourse a a :=
  ⟨rfl, rfl, rfl, rfl, rfl, rfl, Or.inr rfl⟩

end

/-- The simulator follows the transformed inputs, and reports no change for inputs that did
    not change, exactly when the last two observations are apart or the inputs do not move. -/
theorem simulate_follows_inputs_iff {series : List Observation} {pressure : Pressure}
    {horizonDays : Int} {threshold : ℚ} {direction : Direction} {recentPeriods : Option Int}
    {periodDays : Option ℚ} {projection : Projection} {intervention : InterventionFacts}
    {raw : Parameters} {covenantClass : Text} {inputs transformed : ProjectionInputs}
    {result : SimulationResult}
    (projected : project series pressure horizonDays threshold direction recentPeriods periodDays =
      .ok projection)
    (sufficient : projection.trend.hasSufficientObservations)
    (stored : storedInputs projection = .ok inputs)
    (named : raw.covenantClass = some covenantClass)
    (applied : intervention.apply inputs covenantClass = .ok transformed)
    (simulated : simulate projection intervention raw = .ok result) :
    (FollowsInputs result.projection.path transformed ∧ (transformed = inputs → NoDelta result)) ↔
      LastTwoApart projection.trend.usableObservations ∨
        raw.horizonDays.getD projection.horizonDays = 0 ∨ transformed.netPerDayDrift = 0 := by
  have produced := project_produced projected
  obtain ⟨options, inputs', baseline, assessed, counterfactual, reassessed, read, stored', applied',
    based, judged, recomputed, rejudged, shown⟩ := simulate_eq_ok simulated
  obtain ⟨named', horizon, _⟩ := readParameters_eq_ok read
  -- the simulation reads the same inputs and class
  cases Except.ok.inj (stored.symm.trans stored')
  cases Option.some.inj (named.symm.trans named')
  have same : transformed = result.transformedInputs := Except.ok.inj (applied.symm.trans applied')
  rw [← same] at recomputed shown
  have shape := InterventionEffect.apply_sameShape applied
  obtain ⟨current, threshold, side, drift, pressed⟩ := storedInputs_eq_ok produced stored
  obtain ⟨value, known⟩ := currentValue_of_sufficient produced sufficient
  have made := recomputeProjection_eq_ok produced (by rw [shape.2, current]) recomputed
  have valued : ∃ after, transformed.currentValue = some after := by
    apply Option.ne_none_iff_exists'.mp
    rw [Ne, shape.2, current, known]
    nofun
  obtain ⟨after, valued⟩ := valued
  obtain ⟨pointsB, assessedB⟩ := assess_eq_ok made.toStraight (made.current.trans valued) rejudged
  have path : FollowsInputs result.projection.path transformed ↔
      LastTwoApart projection.trend.usableObservations ∨
        raw.horizonDays.getD projection.horizonDays = 0 ∨ transformed.netPerDayDrift = 0 := by
    have reported : result.projection = counterfactual := by
      rw [shown]
      exact assessedB.projection_eq
    rw [reported, followsInputs_iff made.toStraight (made.current.trans valued) valued, made.horizon,
      made.drift, ← horizon, Int.natCast_eq_zero]
    by_cases apart : LastTwoApart projection.trend.usableObservations
    · simp [apart]
    · simp [apart, eq_comm]
  rw [path, and_iff_left_iff_imp]
  intro condition unchanged
  rw [shown]
  unfold baselineProjection at based
  split_ifs at based with whole
  · -- the baseline is the stored projection
    cases based
    obtain ⟨pointsA, assessedA⟩ := assess_eq_ok produced.toStraight known judged
    have still : after = value := by
      rw [unchanged, current, known] at valued
      exact (Option.some.inj valued).symm
    subst still
    refine noDelta_of_sameCourse ?_ assessedA assessedB produced.toStraight made.toStraight known
    refine ⟨?_, ?_, ?_, ?_, ?_, made.dated.symm, ?_⟩
    · rw [made.threshold, unchanged, threshold]
    · rw [made.direction, unchanged, side]
    · rw [made.horizon, whole]
    · rw [made.current, unchanged, current]
    · rw [made.pressure, unchanged, pressed]
    · have forward := storedInputs_drift produced stored sufficient
      rw [made.drift, unchanged, ← whole]
      rcases condition with apart | short | still
      · rw [if_pos apart]
        exact Or.inr forward.symm
      · rw [← horizon] at short
        exact Or.inl (by exact_mod_cast short)
      · rw [unchanged] at still
        right
        rw [← forward, still, ite_self]
  · -- the baseline is recomputed from the same inputs
    obtain ⟨inputs', stored', rebuilt⟩ := Except.bind_eq_ok_iff.mp based
    cases Except.ok.inj (stored.symm.trans stored')
    rw [unchanged] at recomputed
    cases Except.ok.inj (recomputed.symm.trans rebuilt)
    cases Except.ok.inj (judged.symm.trans rejudged)
    exact noDelta_of_sameCourse (SameCourse.refl _) assessedB assessedB made.toStraight
      made.toStraight (made.current.trans valued)

/-! ## A sample projection -/

/-- A month end and the observations of a ratio falling towards its minimum. -/
def januaryEnd : Date := ⟨2031, 1, 31, by decide⟩

/-- The month end two months later. -/
def marchEnd : Date := ⟨2031, 3, 31, by decide⟩

/-- Two observations on different dates. -/
def fallingSeries : List Observation :=
  [Observation.dated januaryEnd (some 10) none, Observation.dated marchEnd (some 7) none]

/-- The same, with the second date reported twice. -/
def repeatedSeries : List Observation :=
  [Observation.dated januaryEnd (some 10) none,
    Observation.dated marchEnd (some 8) (some (.uuid (Uuid.ofInt 1))),
    Observation.dated marchEnd (some 7) (some (.uuid (Uuid.ofInt 2)))]

/-- A rate change that leaves the drift as it is. -/
def unchangedRate : InterventionFacts where
  code := ⟨"unchanged-rate".toList, by decide⟩
  effect := .simple ⟨.rateChange 1 (by norm_num), [], {"*".toList}⟩

/-- Equal weights, the default maximum and the stored horizon. -/
def equalWeights : Parameters where
  covenantClass := some "leverage".toList
  weights := (Weights.make 1 1 1 defaultMaxProbability).toOption
  horizonDays := none
  asOfDate := none
  thresholdChanges := []

/-- `simulate_follows_inputs_iff` on a series without repeated dates. -/
theorem simulate_follows_inputs_falling : ∃ projection inputs result,
    project fallingSeries (.scalar 0) 10 1 .min none none = .ok projection ∧
      storedInputs projection = .ok inputs ∧
      simulate projection unchangedRate equalWeights = .ok result ∧
      FollowsInputs result.projection.path inputs ∧ NoDelta result := by
  obtain ⟨projection, projected, passed⟩ := @Except.exists_of_any _ _
    (project fallingSeries (.scalar 0) 10 1 .min none none)
    (fun (projection : Projection) => decide (projection.trend.hasSufficientObservations ∧
      LastTwoApart projection.trend.usableObservations) &&
        ((storedInputs projection).toOption.any fun (inputs : ProjectionInputs) =>
          (unchangedRate.apply inputs "leverage".toList).toOption.any
            fun (transformed : ProjectionInputs) => decide (transformed = inputs)) &&
        (simulate projection unchangedRate equalWeights).toOption.any
          fun (_ : SimulationResult) => true)
    (by decide +kernel)
  simp only [Bool.and_eq_true, decide_eq_true_eq] at passed
  obtain ⟨⟨⟨sufficient, apart⟩, reading⟩, running⟩ := passed
  obtain ⟨inputs, stored, applying⟩ := Except.exists_of_any reading
  obtain ⟨transformed, applied, kept⟩ := Except.exists_of_any applying
  obtain ⟨result, simulated, _⟩ := Except.exists_of_any running
  have unchanged : transformed = inputs := of_decide_eq_true kept
  have both := (simulate_follows_inputs_iff projected sufficient stored rfl applied simulated).mpr
    (Or.inl apart)
  exact ⟨projection, inputs, result, projected, stored, simulated, unchanged ▸ both.1,
    both.2 unchanged⟩

/-- On a series that repeats its last date the simulator loses the drift: the path is flat
    and an effect that changes no input is reported as applied. -/
theorem simulate_repeated_date_loses_drift : ∃ projection,
    project repeatedSeries (.scalar 0) 10 1 .min none none = .ok projection ∧
      (projection.trend.hasSufficientObservations ∧ ∃ result,
        simulate projection unchangedRate equalWeights = .ok result ∧
          ((storedInputs projection).toOption = some result.transformedInputs ∧
            ¬ FollowsInputs result.projection.path result.transformedInputs ∧
              result.effectStatus = .applied ∧ result.deltaProbability ≠ some 0)) := by
  obtain ⟨projection, projected, passed⟩ := @Except.exists_of_any _ _
    (project repeatedSeries (.scalar 0) 10 1 .min none none)
    (fun (projection : Projection) => decide projection.trend.hasSufficientObservations &&
      (simulate projection unchangedRate equalWeights).toOption.any fun (result : SimulationResult) =>
        decide ((storedInputs projection).toOption = some result.transformedInputs ∧
          ¬ FollowsInputs result.projection.path result.transformedInputs ∧
            result.effectStatus = .applied ∧ result.deltaProbability ≠ some 0))
    (by decide +kernel)
  obtain ⟨sufficient, simulated⟩ := (Bool.and_eq_true _ _).mp passed
  obtain ⟨result, returned, shown⟩ := Except.exists_of_any simulated
  exact ⟨projection, projected, of_decide_eq_true sufficient, result, returned,
    of_decide_eq_true shown⟩

end Interventions

end CovenantRadar
