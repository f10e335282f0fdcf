import CovenantRadar.Interventions.Simulate

/-!
# Recomputed projections

What the simulator's second projection is. It goes through the last two observations of
the stored one, so the drift and the pressure come back exactly when these two lie on
different dates.
-/

namespace CovenantRadar

namespace Interventions

open Forecast

/-- The last two observations are there and lie on different dates. -/
def LastTwoApart (observations : List Observation) : Prop :=
  match observations.reverse with
  | last :: first :: _ => first.observedOn ≠ last.observedOn
  | _ => False

instance (observations : List Observation) : Decidable (LastTwoApart observations) := by
  unfold LastTwoApart
  split <;> infer_instance

/-- The last two of a list with two observations. -/
theorem eq_append_of_reverse {observations rest : List Observation} {first last : Observation}
    (shape : observations.reverse = last :: first :: rest) :
    observations = rest.reverse ++ [first, last] := by
  have mirrored := congrArg List.reverse shape
  rw [List.reverse_reverse] at mirrored
  simpa using mirrored

/-- A sufficient trend without repeated dates has its last two observations apart. -/
theorem lastTwoApart_iff_of_nodup {observations : List Observation}
    (distinct : (observations.map (·.observedOn)).Nodup) :
    LastTwoApart observations ↔ 2 ≤ observations.length := by
  unfold LastTwoApart
  split
  · rename_i last first rest shape
    have split := eq_append_of_reverse shape
    have apart : first.observedOn ≠ last.observedOn := by
      rw [split, List.map_append] at distinct
      have pair := (List.nodup_append.mp distinct).2.1
      simpa using pair
    have several : 2 ≤ observations.length := by
      rw [split]
      simp
    exact iff_of_true apart several
  · rename_i short
    refine iff_of_false id ?_
    intro several
    cases shape : observations.reverse with
    | nil =>
      rw [List.reverse_eq_nil_iff.mp shape] at several
      exact absurd several (by simp)
    | cons last rest =>
      cases rest with
      | nil =>
        have single := congrArg List.length shape
        rw [List.length_reverse] at single
        rw [single] at several
        exact absurd several (by simp)
      | cons first rest => exact short last first rest shape

/-- Last two observations that lie apart make the trend sufficient. -/
theorem sufficient_of_lastTwoApart {trend : TrendResult}
    (apart : LastTwoApart trend.usableObservations) : trend.hasSufficientObservations := by
  unfold LastTwoApart at apart
  split at apart
  · rename_i last first rest shape
    have split := eq_append_of_reverse shape
    refine ⟨by rw [split]; simp, ?_⟩
    apply Finset.one_lt_card.mpr
    refine ⟨first.observedOn, ?_, last.observedOn, ?_, apart⟩
    · rw [distinctDates, List.mem_toFinset, split]
      simp
    · rw [distinctDates, List.mem_toFinset, split]
      simp
  · exact absurd apart id

theorem calendarGap_pos {first last : Date} {gap : ℚ} (returned : calendarGap first last = .ok gap) :
    0 < gap := by
  unfold calendarGap at returned
  split_ifs at returned with back
  cases returned
  exact Nat.cast_pos.mpr (by omega)

theorem recomputedPeriod_pos {source : Projection} {first last : Observation} {period : ℚ}
    (returned : recomputedPeriod source first last = .ok period) : 0 < period := by
  unfold recomputedPeriod at returned
  split at returned
  · exact calendarGap_pos returned
  · split_ifs at returned with small
    · exact calendarGap_pos returned
    · cases returned
      exact not_le.mp small

theorem recomputedPressure_magnitude {series : List Observation} {source : Projection}
    (produced : source.Produced series) (inputs : ProjectionInputs) :
    (recomputedPressure source inputs).magnitude = inputs.pressure := by
  unfold recomputedPressure
  split_ifs with held
  · cases stored : source.pressureResult with
    | none => rfl
    | some result =>
      have magnitude := produced.carried result stored
      show result.magnitude = inputs.pressure
      rw [magnitude, ← produced.requested, held.1]
  · rfl

/-- What the second projection is, in terms of the inputs it is given. -/
structure Recomputed (source : Projection) (inputs : ProjectionInputs) (horizonDays : Nat)
    (counterfactual : Projection) : Prop extends Projection.Straight counterfactual where
  threshold : counterfactual.threshold = inputs.threshold
  direction : counterfactual.direction = inputs.direction
  horizon : counterfactual.horizonDays = horizonDays
  current : counterfactual.currentValue = inputs.currentValue
  pressure : counterfactual.pressure = inputs.pressure
  dated : counterfactual.trend.usableObservations.getLast?.map (·.observedOn) =
    source.trend.usableObservations.getLast?.map (·.observedOn)
  drift : counterfactual.netPerDayDrift =
    if LastTwoApart source.trend.usableObservations then inputs.netPerDayDrift else 0

/-- A projection of a fitted trend, with the pressure of the inputs. -/
private theorem recomputed_of_trend {source counterfactual : Projection} {inputs : ProjectionInputs}
    {horizonDays : Nat} {series : List Observation} {pressure : Pressure} {periodDays : Option ℚ}
    {trend : TrendResult}
    (returned : project series pressure horizonDays inputs.threshold inputs.direction none
      periodDays = .ok counterfactual)
    (magnitude : pressure.magnitude = inputs.pressure)
    (fitted : fitTrend series none periodDays = .ok trend)
    (current : trend.currentValue = inputs.currentValue)
    (dated : trend.usableObservations.getLast?.map (·.observedOn) =
      source.trend.usableObservations.getLast?.map (·.observedOn))
    (apart : LastTwoApart source.trend.usableObservations → trend.hasSufficientObservations ∧
      trend.perDayDrift = inputs.perDayDrift)
    (together : ¬ LastTwoApart source.trend.usableObservations →
      ¬ trend.hasSufficientObservations ∧ trend.perDayDrift = 0) :
    Recomputed source inputs horizonDays counterfactual := by
  obtain ⟨_, _, other, fit, made⟩ := project_eq_ok_iff.mp returned
  have same : trend = other := Except.ok.inj (fitted.symm.trans fit)
  subst same made
  refine ⟨⟨rfl, rfl⟩, rfl, rfl, by simp [projectTrend], current, magnitude, dated, ?_⟩
  simp only [projectTrend, magnitude]
  by_cases differ : LastTwoApart source.trend.usableObservations
  · rw [if_pos differ, if_pos (apart differ).1, (apart differ).2]
    rfl
  · rw [if_neg differ, if_neg (together differ).1, (together differ).2, add_zero]

/-- The current value of a produced projection is that of its last observation. -/
theorem currentValue_eq_none_iff {series : List Observation} {source : Projection}
    (produced : source.Produced series) :
    source.currentValue = none ↔ source.trend.usableObservations = [] := by
  rw [produced.current, produced.fitted.current]
  cases shape : source.trend.usableObservations.getLast? with
  | none => simp [List.getLast?_eq_none_iff.mp shape]
  | some last =>
    have member := List.mem_of_getLast? shape
    have usable := (List.mem_filter.mp (produced.fitted.drawn.subset member)).2
    simp only [Observation.usable, Bool.and_eq_true] at usable
    refine iff_of_false ?_ (List.ne_nil_of_mem member)
    simpa [Option.bind, ← Option.isSome_iff_ne_none] using usable.2

theorem currentValue_of_sufficient {series : List Observation} {source : Projection}
    (produced : source.Produced series) (sufficient : source.trend.hasSufficientObservations) :
    ∃ current, source.currentValue = some current := by
  apply Option.ne_none_iff_exists'.mp
  rw [Ne, currentValue_eq_none_iff produced]
  intro empty
  have several := sufficient.1
  rw [empty] at several
  exact absurd several (by simp)

/-- The second projection, whatever the number of stored observations. -/
theorem recomputeProjection_eq_ok {series : List Observation} {source counterfactual : Projection}
    {inputs : ProjectionInputs} {horizonDays : Nat} (produced : source.Produced series)
    (valued : inputs.currentValue = none ↔ source.currentValue = none)
    (returned : recomputeProjection source inputs horizonDays = .ok counterfactual) :
    Recomputed source inputs horizonDays counterfactual := by
  have magnitude := recomputedPressure_magnitude produced inputs
  rw [currentValue_eq_none_iff produced] at valued
  unfold recomputeProjection at returned
  split at returned
  · rename_i last first rest shape
    obtain ⟨period, measured, made⟩ := Except.bind_eq_ok_iff.mp returned
    have positive := recomputedPeriod_pos measured
    have split := eq_append_of_reverse shape
    have ordered : first.sortKey ≤ last.sortKey := by
      have sorted := produced.fitted.ordered
      rw [split] at sorted
      exact (List.pairwise_cons.mp (List.pairwise_append.mp sorted).2.1).1 last
        (List.mem_singleton_self last)
    cases value : inputs.currentValue with
    | none =>
      rw [valued.mp value] at shape
      cases shape
    | some current =>
      have pair : recomputedSeries inputs period first last =
          [Observation.dated first.observedOn (some (current - inputs.perDayDrift * period))
            first.sourceId, Observation.dated last.observedOn (some current) last.sourceId] := by
        simp only [recomputedSeries, value]
      rw [pair] at made
      have lastDate : source.trend.usableObservations.getLast?.map (·.observedOn) =
          some last.observedOn := by
        rw [split]
        simp
      have apartIff : LastTwoApart source.trend.usableObservations ↔
          first.observedOn ≠ last.observedOn := by
        unfold LastTwoApart
        rw [shape]
      by_cases apart : first.observedOn = last.observedOn
      · have flat := @fitTrend_pair_same_date first.observedOn last.observedOn
          (current - inputs.perDayDrift * period) current period first.sourceId last.sourceId
          apart ordered positive
        refine recomputed_of_trend made magnitude flat value.symm ?_ ?_ ?_
        · rw [lastDate]
          rfl
        · intro differ
          exact absurd apart (apartIff.mp differ)
        · intro _
          refine ⟨?_, rfl⟩
          intro sufficient
          exact absurd sufficient.2 (by simp [distinctDates, Observation.dated, apart])
      · have line := @fitTrend_pair first.observedOn last.observedOn
          (current - inputs.perDayDrift * period) current period first.sourceId last.sourceId
          apart ordered positive
        refine recomputed_of_trend made magnitude line value.symm ?_ ?_ ?_
        · rw [lastDate]
          rfl
        · intro _
          refine ⟨⟨le_refl 2, ?_⟩, ?_⟩
          · simp [distinctDates, Observation.dated, Finset.card_pair apart]
          · show (current - (current - inputs.perDayDrift * period)) / period = inputs.perDayDrift
            rw [sub_sub_cancel, mul_div_assoc, div_self (ne_of_gt positive), mul_one]
        · intro together
          exact absurd (apartIff.mpr apart) together
  · rename_i observation shape
    have single : source.trend.usableObservations = [observation] := by
      have mirrored := congrArg List.reverse shape
      rwa [List.reverse_reverse] at mirrored
    have alone : ¬ LastTwoApart source.trend.usableObservations := by
      unfold LastTwoApart
      rw [shape]
      exact id
    cases value : inputs.currentValue with
    | none =>
      rw [valued.mp value] at single
      cases single
    | some current =>
      rw [value] at returned
      refine recomputed_of_trend returned magnitude (fitTrend_single _ current _) value.symm ?_ ?_ ?_
      · rw [single]
        rfl
      · exact fun apart => absurd apart alone
      · intro _
        exact ⟨fun sufficient => absurd sufficient.1 (by simp), rfl⟩
  · rename_i shape
    have empty : source.trend.usableObservations = [] := List.reverse_eq_nil_iff.mp shape
    have alone : ¬ LastTwoApart source.trend.usableObservations := by
      unfold LastTwoApart
      rw [shape]
      exact id
    refine recomputed_of_trend returned magnitude (fitTrend_nil none) (valued.mpr empty).symm ?_ ?_ ?_
    · rw [empty]
    · exact fun apart => absurd apart alone
    · intro _
      exact ⟨fun sufficient => absurd sufficient.1 (by simp), rfl⟩

end Interventions

end CovenantRadar
