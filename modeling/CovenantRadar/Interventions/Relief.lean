import CovenantRadar.Interventions.Counterfactual

/-!
# Interventions that relieve

Reducing the pressure or relaxing the threshold moves no crossing forward and raises no
probability. Both are comparisons of two straight projections with one current value.
-/

namespace CovenantRadar

namespace Interventions

open Forecast

/-! ## Thresholds in force -/

theorem inForceBefore_mono {points : List ThresholdPoint} {base base' : ℚ} (ordered : base ≤ base')
    (day : Nat) : inForceBefore points base day ≤ inForceBefore points base' day := by
  induction day with
  | zero => exact ordered
  | succ day ih =>
    unfold inForceBefore
    cases changeOn points day with
    | none => exact ih
    | some threshold => exact le_refl threshold

/-- Before a day either nothing has changed, or the base threshold no longer matters. -/
theorem inForceBefore_cases (points : List ThresholdPoint) (day : Nat) :
    (∀ base, ∀ earlier ≤ day, inForceBefore points base earlier = base) ∨
      ∀ base base', inForceBefore points base day = inForceBefore points base' day := by
  induction day with
  | zero =>
    left
    intro base earlier first
    rw [Nat.le_zero.mp first]
    rfl
  | succ day ih =>
    cases changed : changeOn points day with
    | some threshold =>
      right
      intro base base'
      simp only [inForceBefore, changed, Option.getD_some]
    | none =>
      rcases ih with unchanged | forgotten
      · left
        intro base earlier before
        rcases Nat.le_succ_iff.mp before with within | next
        · exact unchanged base earlier within
        · rw [next, inForceBefore, changed]
          exact unchanged base day (le_refl day)
      · right
        intro base base'
        simp only [inForceBefore, changed, Option.getD_none]
        exact forgotten base base'

/-! ## Easier projections -/

/-- A threshold is relaxed when it moves away from the breach side. -/
def Relaxed (threshold threshold' : ℚ) : Direction → Prop
  | .max => threshold ≤ threshold'
  | .min => threshold' ≤ threshold

/-- The second projection is the first one under relief. -/
structure Eased (a b : Projection) : Prop where
  direction : b.direction = a.direction
  horizon : b.horizonDays = a.horizonDays
  dated : b.trend.usableObservations.getLast?.map (·.observedOn) =
    a.trend.usableObservations.getLast?.map (·.observedOn)
  threshold : Relaxed a.threshold b.threshold a.direction
  velocity : boundaryVelocity b ≤ boundaryVelocity a
  pressure : b.pressure ≤ a.pressure
  still : a.netPerDayDrift = 0 → a.pressure = 0 → b.netPerDayDrift = 0

section

variable {a b : Projection} {points : List ThresholdPoint} {current : ℚ}

theorem Eased.value (eased : Eased a b) (current : ℚ) (day : Nat) :
    match a.direction with
    | .max => current + b.netPerDayDrift * day ≤ current + a.netPerDayDrift * day
    | .min => current + a.netPerDayDrift * day ≤ current + b.netPerDayDrift * day := by
  have velocity := eased.velocity
  unfold boundaryVelocity at velocity
  rw [eased.direction] at velocity
  have days : (0 : ℚ) ≤ day := Nat.cast_nonneg day
  cases side : a.direction with
  | max =>
    simp only [side] at velocity ⊢
    exact add_le_add_right (mul_le_mul_of_nonneg_right velocity days) current
  | min =>
    simp only [side, neg_le_neg_iff] at velocity ⊢
    exact add_le_add_right (mul_le_mul_of_nonneg_right velocity days) current

theorem Eased.bound (eased : Eased a b) (points : List ThresholdPoint) (day : Nat) :
    Relaxed (inForce points a.threshold day) (inForce points b.threshold day) a.direction := by
  have threshold := eased.threshold
  cases side : a.direction with
  | max =>
    rw [side] at threshold
    exact inForceBefore_mono threshold (day + 1)
  | min =>
    rw [side] at threshold
    exact inForceBefore_mono threshold (day + 1)

/-- What the eased path reaches the other one has reached. -/
theorem Eased.reaches (eased : Eased a b) {day : Nat}
    (reached : reaches b points current day = true) :
    Forecast.reaches a points current day = true := by
  have value := eased.value current day
  have bound := eased.bound points day
  unfold Forecast.reaches at reached ⊢
  rw [eased.direction] at reached
  cases side : a.direction with
  | max =>
    simp only [side, Relaxed, breaches, decide_eq_true_eq] at value bound reached ⊢
    linarith
  | min =>
    simp only [side, Relaxed, breaches, decide_eq_true_eq] at value bound reached ⊢
    linarith

/-- The eased path ends farther from the threshold. -/
theorem Eased.distance (eased : Eased a b) (day : Nat) :
    distanceToBoundary (current + a.netPerDayDrift * day) (inForce points a.threshold day)
        a.direction ≤
      distanceToBoundary (current + b.netPerDayDrift * day) (inForce points b.threshold day)
        b.direction := by
  have value := eased.value current day
  have bound := eased.bound points day
  rw [eased.direction]
  cases side : a.direction with
  | max =>
    simp only [side, Relaxed] at value bound
    exact max_le_max_left 0 (by linarith)
  | min =>
    simp only [side, Relaxed] at value bound
    exact max_le_max_left 0 (by linarith)

/-- A zero distance is kept when the value stays and the base threshold no longer matters. -/
theorem Eased.flat (eased : Eased a b) (flat : a.netPerDayDrift = 0) (calm : a.pressure = 0)
    (unreached : Forecast.reaches a points current 0 = false)
    (touching : distanceToBoundary (current + a.netPerDayDrift * a.horizonDays)
      (inForce points a.threshold a.horizonDays) a.direction = 0) :
    distanceToBoundary (current + b.netPerDayDrift * a.horizonDays)
      (inForce points b.threshold a.horizonDays) b.direction = 0 := by
  have still := eased.still flat calm
  rw [flat, zero_mul] at touching
  rw [still, zero_mul, eased.direction]
  rcases inForceBefore_cases points (a.horizonDays + 1) with unchanged | forgotten
  · -- no change takes effect, so the last day is like the first
    have first : inForce points a.threshold 0 = a.threshold := unchanged _ 1 (by omega)
    have last : inForce points a.threshold a.horizonDays = a.threshold :=
      unchanged _ _ (le_refl _)
    unfold Forecast.reaches at unreached
    rw [flat, zero_mul, first, ← last] at unreached
    exact absurd (distanceToBoundary_pos_iff.mpr unreached) (by rw [touching]; exact lt_irrefl 0)
  · have same : inForce points b.threshold a.horizonDays = inForce points a.threshold a.horizonDays :=
      forgotten _ _
    rw [same, touching]

variable {options : SimulationParameters} {pointsA pointsB : List ThresholdPoint}
variable {resultA resultB : BaselineResult}

theorem Eased.samePoints (eased : Eased a b) (first : Assessed a options current pointsA resultA)
    (second : Assessed b options current pointsB resultB) : pointsB = pointsA := by
  have read := second.read
  have resolved : resolveAsOf options.asOfDate b = resolveAsOf options.asOfDate a := by
    unfold resolveAsOf
    rw [eased.dated]
  rw [resolved, eased.horizon, first.read] at read
  exact (Except.ok.inj read).symm

/-- The eased path crosses no earlier, and only where the other one crosses. -/
theorem Eased.crossing (eased : Eased a b) (first : Assessed a options current pointsA resultA)
    (second : Assessed b options current pointsB resultB) {day : Nat}
    (crossed : resultB.crossing.crossingDay = some day) :
    ∃ before ≤ day, resultA.crossing.crossingDay = some before := by
  have points := eased.samePoints first second
  subst points
  rw [second.day, eased.horizon] at crossed
  rw [first.day]
  exact firstDay_le (fun _ _ reached => eased.reaches reached) crossed

/-- The eased path is no more likely to breach. -/
theorem Eased.probability (eased : Eased a b) (first : Assessed a options current pointsA resultA)
    (second : Assessed b options current pointsB resultB) :
    ∃ before after, probabilityValue resultA.probabilityResult = some before ∧
      probabilityValue resultB.probabilityResult = some after ∧ after ≤ before := by
  have points := eased.samePoints first second
  subst points
  obtain ⟨nonnegA, madeA⟩ := first.probability
  obtain ⟨nonnegB, madeB⟩ := second.probability
  refine ⟨_, _, congrArg probabilityValue madeA, congrArg probabilityValue madeB, ?_⟩
  rw [eased.horizon]
  refine score_mono (eased.distance _) eased.velocity eased.pressure eased.reaches ?_
  intro neutral
  obtain ⟨touching, slow, calm, fresh⟩ := neutral
  have flat : a.netPerDayDrift = 0 := by
    unfold boundaryVelocity at slow
    cases side : a.direction with
    | max => simpa only [side] using slow
    | min => simpa only [side, neg_eq_zero] using slow
  refine ⟨eased.flat flat calm fresh touching, ?_, ?_, ?_⟩
  · unfold boundaryVelocity
    rw [eased.still flat calm]
    cases b.direction <;> simp
  · exact le_antisymm (calm ▸ eased.pressure) nonnegB
  · by_contra reached
    rw [eased.reaches (by simpa using reached)] at fresh
    cases fresh

end

/-! ## The two relieving effects -/

/-- A projection over distinct dates is what its stored inputs recompute to. -/
theorem recomputed_self {series : List Observation} {projection : Projection}
    {inputs : ProjectionInputs} (produced : projection.Produced series)
    (distinct : ((series.filter (·.usable)).map (·.observedOn)).Nodup)
    (stored : storedInputs projection = .ok inputs) :
    Recomputed projection inputs projection.horizonDays projection := by
  obtain ⟨current, threshold, side, drift, pressed⟩ := storedInputs_eq_ok produced stored
  have dates : (projection.trend.usableObservations.map (·.observedOn)).Nodup := by
    obtain ⟨kept, permuted, part⟩ := produced.fitted.drawn
    have whole := distinct.sublist (part.map (·.observedOn))
    exact (permuted.map (·.observedOn)).nodup_iff.mp whole
  refine ⟨produced.toStraight, threshold.symm, side.symm, rfl, current.symm, pressed.symm, rfl, ?_⟩
  by_cases apart : LastTwoApart projection.trend.usableObservations
  · rw [if_pos apart]
    exact (storedInputs_drift produced stored (sufficient_of_lastTwoApart apart)).symm
  · have insufficient : ¬ projection.trend.hasSufficientObservations := fun sufficient =>
      apart ((lastTwoApart_iff_of_nodup dates).mpr sufficient.1)
    rw [if_neg apart, produced.net, produced.term, if_neg insufficient, produced.drift,
      produced.fitted.flat insufficient, add_zero]

/-- What the two relieving effects do to the inputs. -/
structure Relieved (before after : ProjectionInputs) : Prop where
  direction : after.direction = before.direction
  current : after.currentValue = before.currentValue
  drift : after.perDayDrift = before.perDayDrift
  threshold : Relaxed before.threshold after.threshold before.direction
  pressure : after.pressure ≤ before.pressure

/-- The effect reduces pressure or relaxes the threshold. -/
def Transform.Relieves (transform : Transform) : Prop :=
  transform.modelType = .pressureReduction ∨ transform.modelType = .thresholdRelaxation

theorem Transform.relieved {transform : Transform} (relieves : transform.Relieves)
    (inputs : ProjectionInputs) : Relieved inputs (transform.transform inputs) := by
  cases transform with
  | levelShift amount bounded => exact absurd relieves (by simp [Relieves, modelType])
  | rateChange multiplier bounded => exact absurd relieves (by simp [Relieves, modelType])
  | thresholdRelaxation amount bounded =>
    refine ⟨rfl, rfl, rfl, ?_, le_refl _⟩
    have amount := bounded.1
    show Relaxed inputs.threshold _ inputs.direction
    cases side : inputs.direction with
    | max =>
      simp only [Relaxed, transform, side]
      linarith
    | min =>
      simp only [Relaxed, transform, side]
      linarith
  | pressureReduction fraction bounded =>
    refine ⟨rfl, rfl, rfl, ?_, ?_⟩
    · show Relaxed inputs.threshold inputs.threshold inputs.direction
      cases inputs.direction <;> exact le_refl _
    · exact mul_le_of_le_one_right inputs.pressure_nonneg (by linarith [bounded.1])

/-- Relieved inputs give an easier projection. -/
theorem eased_of_relieved {source a b : Projection} {before after : ProjectionInputs}
    {horizonDays : Nat} (relieved : Relieved before after)
    (first : Recomputed source before horizonDays a)
    (second : Recomputed source after horizonDays b) : Eased a b := by
  have pressure := relieved.pressure
  refine ⟨?_, second.horizon.trans first.horizon.symm, second.dated.trans first.dated.symm,
    ?_, ?_, ?_, ?_⟩
  · rw [second.direction, first.direction, relieved.direction]
  · rw [first.threshold, second.threshold, first.direction]
    exact relieved.threshold
  · unfold boundaryVelocity
    rw [second.direction, first.direction, relieved.direction, first.drift, second.drift]
    by_cases apart : LastTwoApart source.trend.usableObservations
    · simp only [if_pos apart, ProjectionInputs.netPerDayDrift, relieved.drift, relieved.direction]
      cases before.direction with
      | max =>
        simp only [signedPressure]
        linarith
      | min =>
        simp only [signedPressure]
        linarith
    · simp [apart]
  · rw [first.pressure, second.pressure]
    exact pressure
  · intro flat calm
    rw [first.pressure] at calm
    have same : after.pressure = before.pressure :=
      le_antisymm pressure (calm ▸ after.pressure_nonneg)
    rw [second.drift]
    rw [first.drift] at flat
    unfold ProjectionInputs.netPerDayDrift at flat ⊢
    rw [same, relieved.drift, relieved.direction]
    exact flat

/-- On distinct dates, reducing the pressure or relaxing the threshold moves no crossing
    forward, creates none, and raises no probability. -/
theorem simulate_relief {series : List Observation} {pressure : Pressure} {horizonDays : Int}
    {threshold : ℚ} {direction : Direction} {recentPeriods : Option Int} {periodDays : Option ℚ}
    {projection : Projection} {intervention : InterventionFacts} {effect : SimpleEffect}
    {raw : Parameters} {result : SimulationResult}
    (projected : project series pressure horizonDays threshold direction recentPeriods periodDays =
      .ok projection)
    (distinct : ((series.filter (·.usable)).map (·.observedOn)).Nodup)
    (simple : intervention.effect = .simple effect) (relieves : effect.transform.Relieves)
    (simulated : simulate projection intervention raw = .ok result) :
    (∀ day, result.crossing.crossingDay = some day →
        ∃ before ≤ day, result.baseline.crossing.crossingDay = some before) ∧
      ∀ after, probabilityValue result.probabilityResult = some after →
        ∃ before, probabilityValue result.baseline.probabilityResult = some before ∧
          after ≤ before := by
  have produced := project_produced projected
  obtain ⟨options, inputs, baseline, assessed, counterfactual, reassessed, read, stored, applied,
    based, judged, recomputed, rejudged, shown⟩ := simulate_eq_ok simulated
  obtain ⟨current, _⟩ := storedInputs_eq_ok produced stored
  have transformed : result.transformedInputs = effect.transform.transform inputs := by
    unfold InterventionFacts.apply at applied
    rw [simple] at applied
    exact (SimpleEffect.apply_eq_ok applied).2
  have relieved : Relieved inputs result.transformedInputs := by
    rw [transformed]
    exact effect.transform.relieved relieves inputs
  have second := recomputeProjection_eq_ok produced (by rw [relieved.current, current]) recomputed
  have first : Recomputed projection inputs options.horizonDays baseline := by
    unfold baselineProjection at based
    split_ifs at based with whole
    · cases based
      rw [whole]
      exact recomputed_self produced distinct stored
    · obtain ⟨inputs', stored', rebuilt⟩ := Except.bind_eq_ok_iff.mp based
      cases Except.ok.inj (stored.symm.trans stored')
      exact recomputeProjection_eq_ok produced (by rw [current]) rebuilt
  have eased := eased_of_relieved relieved first second
  rw [shown]
  cases known : inputs.currentValue with
  | none =>
    obtain ⟨uncrossed, unscored⟩ := assess_unavailable second.toStraight
      (by rw [second.current, relieved.current, known]) rejudged
    constructor
    · intro day crossed
      exact absurd (uncrossed.symm.trans crossed) nofun
    · intro after scored
      have absent : probabilityValue reassessed.probabilityResult = none := by rw [unscored]; rfl
      exact absurd (absent.symm.trans scored) nofun
  | some value =>
    obtain ⟨pointsA, assessedA⟩ := assess_eq_ok first.toStraight (first.current.trans known) judged
    obtain ⟨pointsB, assessedB⟩ := assess_eq_ok second.toStraight
      (by rw [second.current, relieved.current, known]) rejudged
    constructor
    · exact fun day crossed => eased.crossing assessedA assessedB crossed
    · intro after scored
      obtain ⟨before, lower, earlier, later, ordered⟩ := eased.probability assessedA assessedB
      cases Option.some.inj (later.symm.trans scored)
      exact ⟨before, earlier, ordered⟩

/-- Half of the pressure is removed. -/
def halvedPressure : InterventionFacts where
  code := ⟨"halved-pressure".toList, by decide⟩
  effect := .simple ⟨.pressureReduction (1 / 2) (by norm_num), [], {"leverage".toList}⟩

/-- `simulate_relief` on a falling ratio whose crossing half of the pressure postpones. -/
theorem simulate_relief_halved : ∃ projection result,
    project fallingSeries (.scalar (1 / 10)) 90 1 .min none none = .ok projection ∧
      simulate projection halvedPressure equalWeights = .ok result ∧
      result.baseline.crossing.crossingDay = some 40 ∧ result.crossing.crossingDay = some 60 ∧
      ∀ after, probabilityValue result.probabilityResult = some after →
        ∃ before, probabilityValue result.baseline.probabilityResult = some before ∧
          after ≤ before := by
  obtain ⟨projection, projected, passed⟩ := @Except.exists_of_any _ _
    (project fallingSeries (.scalar (1 / 10)) 90 1 .min none none)
    (fun (projection : Projection) =>
      (simulate projection halvedPressure equalWeights).toOption.any fun (result : SimulationResult) =>
        decide (result.baseline.crossing.crossingDay = some 40 ∧
          result.crossing.crossingDay = some 60))
    (by decide +kernel)
  obtain ⟨result, simulated, days⟩ := Except.exists_of_any passed
  have shown := of_decide_eq_true days
  have distinct : ((fallingSeries.filter (·.usable)).map (·.observedOn)).Nodup := by decide +kernel
  exact ⟨projection, result, projected, simulated, shown.1, shown.2,
    (simulate_relief projected distinct rfl (Or.inl rfl) simulated).2⟩

end Interventions

end CovenantRadar
