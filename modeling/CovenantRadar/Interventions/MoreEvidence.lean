import CovenantRadar.Interventions.Relief

/-!
# More evidence

A piece of evidence adds to the pressure of a forecast or leaves it as it is: with more of it no
crossing is later and no probability lower.
-/

namespace CovenantRadar

namespace Forecast

/-- What an item adds to the pressure. -/
def PressureItem.contribution (item : PressureItem) (direction : Direction) : ℚ :=
  (pressureTerm direction item).toOption.elim 0 PressureTerm.contribution

variable {items more : List PressureItem} {direction : Direction}
  {pressure pressure' : PressureResult}

theorem pressureTerm_eq_ok {item : PressureItem} {term : PressureTerm}
    (made : pressureTerm direction item = .ok term) : 0 ≤ term.contribution ∧
      (if term.included then term.signedContribution else 0) =
        signedPressure term.contribution direction := by
  have excluded : (0 : ℚ) ≤ 0 ∧ 0 = signedPressure 0 direction :=
    ⟨le_refl 0, by cases direction <;> simp [signedPressure]⟩
  unfold pressureTerm at made
  split_ifs at made
  · cases made
    exact excluded
  · cases made
    exact excluded
  · split at made
    · cases made
      exact excluded
    · split_ifs at made with negative
      split at made
      · cases made
        exact excluded
      · split_ifs at made with bounded
        cases made
        exact ⟨mul_nonneg (not_lt.mp negative) bounded.1, rfl⟩

/-- The magnitude is what the items add to it. -/
theorem evidencePressure_eq_ok (made : evidencePressure items direction = .ok pressure) :
    pressure.magnitude = (items.map (·.contribution direction)).sum ∧
      ∀ item ∈ items, 0 ≤ item.contribution direction := by
  obtain ⟨terms, each, made⟩ := Except.bind_eq_ok_iff.mp made
  cases made
  have each := mapM_eq_ok_iff.mp each
  have total : ((terms.filter (·.included)).map (·.signedContribution)).sum =
      signedPressure (items.map (·.contribution direction)).sum direction ∧
        ∀ item ∈ items, 0 ≤ item.contribution direction := by
    clear * - each
    induction each with
    | nil => cases direction <;> simp [signedPressure]
    | @cons item term items terms first _ ih =>
      have same : item.contribution direction = term.contribution := by
        rw [PressureItem.contribution, first]
        rfl
      obtain ⟨nonneg, signed⟩ := pressureTerm_eq_ok first
      refine ⟨?_, List.forall_mem_cons.mpr ⟨same ▸ nonneg, ih.2⟩⟩
      have split (a b : ℚ) : signedPressure (a + b) direction =
          signedPressure a direction + signedPressure b direction := by
        cases direction with
        | max => rfl
        | min => exact neg_add a b
      rw [List.map_cons, List.sum_cons, same, split, ← signed, ← ih.1]
      by_cases counted : term.included = true
      · simp [counted]
      · simp [counted]
  have nonneg : 0 ≤ (items.map (·.contribution direction)).sum :=
    List.sum_nonneg (by simpa using total.2)
  refine ⟨(congrArg abs total.1).trans ?_, total.2⟩
  cases direction with
  | max => exact abs_of_nonneg nonneg
  | min => exact (abs_neg _).trans (abs_of_nonneg nonneg)

/-- More evidence does not press less. -/
theorem evidencePressure_mono (part : items.Subperm more)
    (fewer : evidencePressure items direction = .ok pressure)
    (all : evidencePressure more direction = .ok pressure') :
    pressure.magnitude ≤ pressure'.magnitude := by
  obtain ⟨kept, same, within⟩ := part
  obtain ⟨whole, nonneg⟩ := evidencePressure_eq_ok all
  rw [(evidencePressure_eq_ok fewer).1, whole, ← (same.map _).sum_eq]
  exact (within.map _).sum_le_sum (by simpa using nonneg)

end Forecast

namespace Interventions

open Forecast

/-- What a forecast is made from, but for the evidence. -/
structure ForecastInputs where
  series : List Observation
  horizonDays : Int
  threshold : ℚ
  direction : Direction
  recentPeriods : Option Int
  periodDays : Option ℚ
  options : SimulationParameters

namespace ForecastInputs

/-- The projection under a pressure. -/
def project (inputs : ForecastInputs) (pressure : PressureResult) : Except PyError Projection :=
  Forecast.project inputs.series (.result pressure) inputs.horizonDays inputs.threshold
    inputs.direction inputs.recentPeriods inputs.periodDays

/-- The crossing and the probability under the pressure of evidence. -/
def assess (inputs : ForecastInputs) (items : List PressureItem) : Except PyError BaselineResult := do
  let pressure ← evidencePressure items inputs.direction
  let projection ← inputs.project pressure
  Interventions.assess projection inputs.options

variable {inputs : ForecastInputs} {items more : List PressureItem}
  {pressure pressure' : PressureResult} {a b : Projection} {result result' : BaselineResult}

/-- Less pressure is relief. -/
theorem eased_of_pressure (ordered : pressure.magnitude ≤ pressure'.magnitude)
    (projected : inputs.project pressure = .ok b) (projected' : inputs.project pressure' = .ok a) :
    Eased a b ∧ a.currentValue = b.currentValue := by
  obtain ⟨_, nonneg, trend, fitted, rfl⟩ := project_eq_ok_iff.mp projected
  obtain ⟨_, _, trend', fitted', rfl⟩ := project_eq_ok_iff.mp projected'
  cases fitted.symm.trans fitted'
  refine ⟨⟨rfl, rfl, rfl, ?_, ?_, ordered, ?_⟩, rfl⟩
  · cases inputs.direction <;> exact le_refl inputs.threshold
  · unfold boundaryVelocity projectTrend Pressure.magnitude
    by_cases sufficient : trend.hasSufficientObservations
    · cases inputs.direction with
      | max => simpa [sufficient, signedPressure] using ordered
      | min => simpa [sufficient, signedPressure] using ordered
    · simp [sufficient]
  · intro flat calm
    have same : pressure.magnitude = pressure'.magnitude :=
      le_antisymm ordered (le_of_eq_of_le calm nonneg)
    change trend.perDayDrift + (if trend.hasSufficientObservations then
      signedPressure pressure.magnitude inputs.direction else 0) = 0
    rw [same]
    exact flat

/-- More evidence moves no crossing back, loses none, and lowers no probability. -/
theorem assess_more_evidence (part : items.Subperm more) (fewer : inputs.assess items = .ok result)
    (all : inputs.assess more = .ok result') :
    (∀ day, result.crossing.crossingDay = some day →
        ∃ before ≤ day, result'.crossing.crossingDay = some before) ∧
      ∀ value, probabilityValue result.probabilityResult = some value →
        ∃ raised, probabilityValue result'.probabilityResult = some raised ∧ value ≤ raised := by
  obtain ⟨pressure, pressed, fewer⟩ := Except.bind_eq_ok_iff.mp fewer
  obtain ⟨b, projected, assessed⟩ := Except.bind_eq_ok_iff.mp fewer
  obtain ⟨pressure', pressed', all⟩ := Except.bind_eq_ok_iff.mp all
  obtain ⟨a, projected', assessed'⟩ := Except.bind_eq_ok_iff.mp all
  obtain ⟨eased, same⟩ :=
    eased_of_pressure (evidencePressure_mono part pressed pressed') projected projected'
  have straight := (project_produced projected).toStraight
  cases known : b.currentValue with
  | none =>
    obtain ⟨uncrossed, unscored⟩ := assess_unavailable straight known assessed
    rw [uncrossed, unscored]
    exact ⟨nofun, nofun⟩
  | some current =>
    obtain ⟨points, second⟩ := assess_eq_ok straight known assessed
    obtain ⟨points', first⟩ :=
      assess_eq_ok (project_produced projected').toStraight (same.trans known) assessed'
    refine ⟨fun day crossed => eased.crossing first second crossed, fun value scored => ?_⟩
    obtain ⟨raised, value', shown, shown', ordered⟩ := eased.probability first second
    cases scored.symm.trans shown'
    exact ⟨raised, shown, ordered⟩

/-- A falling ratio. -/
def falling : ForecastInputs :=
  ⟨fallingSeries, 90, 1, .min, none, none, "leverage".toList, Forecast.equalWeights, 90, none, []⟩

/-- Evidence of one tenth. -/
def oneTenth : PressureItem := ⟨none, some "sustained".toList, true, some 10, none, some 1⟩

/-- A second piece of evidence on a falling ratio. -/
theorem assess_second_evidence : ∃ result result', falling.assess [oneTenth] = .ok result ∧
    result.crossing.crossingDay = some 40 ∧ falling.assess [oneTenth, oneTenth] = .ok result' ∧
    ∃ before ≤ 40, result'.crossing.crossingDay = some before := by
  obtain ⟨result, fewer, day⟩ := @Except.exists_of_any _ _ (falling.assess [oneTenth])
    (fun (result : BaselineResult) => decide (result.crossing.crossingDay = some 40))
    (by decide +kernel)
  obtain ⟨result', all, _⟩ := @Except.exists_of_any _ _ (falling.assess [oneTenth, oneTenth])
    (fun _ => true) (by decide +kernel)
  have part : [oneTenth].Subperm [oneTenth, oneTenth] := (List.sublist_cons_self _ _).subperm
  have crossed := of_decide_eq_true day
  exact ⟨result, result', fewer, crossed, all, (assess_more_evidence part fewer all).1 40 crossed⟩

end ForecastInputs

end Interventions

end CovenantRadar
