import CovenantRadar.Forecast.Trend

/-!
# Rescaled observations

Reading every value `v` as `scale * v + shift` changes no date, no filter and no window:
the fit of the rescaled series is the rescaled fit, for every scale and every shift.
-/

namespace CovenantRadar

namespace Forecast

/-- The observation whose value `v` is read as `scale * v + shift`. -/
def Observation.rescale (scale shift : ℚ) (item : Observation) : Observation :=
  { item with value := item.value.map fun value => scale * value + shift }

/-- The fit with its line and its observations rescaled. -/
def TrendResult.rescale (scale shift : ℚ) (trend : TrendResult) : TrendResult :=
  { trend with
    slope := scale * trend.slope
    perDayDrift := scale * trend.perDayDrift
    currentValue := trend.currentValue.map fun value => scale * value + shift
    usableObservations := trend.usableObservations.map (Observation.rescale scale shift)
    excludedObservations := trend.excludedObservations.map (Observation.rescale scale shift)
    intercept := trend.intercept.map fun value => scale * value + shift }

/-! ## The parts of the least-squares line -/

theorem sum_map_affine (scale shift : ℚ) (values : List ℚ) :
    (values.map fun value => scale * value + shift).sum =
      scale * values.sum + values.length * shift := by
  induction values with
  | nil => simp
  | cons value values ih =>
    rw [List.map_cons, List.sum_cons, ih, List.sum_cons, List.length_cons]
    push_cast
    ring

theorem mean_affine (scale shift : ℚ) {values : List ℚ} (some : values ≠ []) :
    mean (values.map fun value => scale * value + shift) = scale * mean values + shift := by
  have counted : (values.length : ℚ) ≠ 0 :=
    Nat.cast_ne_zero.mpr (List.length_pos_iff.mpr some).ne'
  unfold mean
  rw [sum_map_affine, List.length_map, add_div, mul_div_assoc, mul_div_cancel_left₀ _ counted]

/-- The shift cancels in the deviations from the mean, and the scale factors out. -/
theorem covariation_affine (scale shift : ℚ) (xs ys : List ℚ) :
    covariation xs (ys.map fun value => scale * value + shift) = scale * covariation xs ys := by
  unfold covariation
  cases ys with
  | nil => simp
  | cons y ys =>
    rw [mean_affine scale shift (List.cons_ne_nil y ys)]
    generalize mean xs = centre
    generalize mean (y :: ys) = level
    generalize y :: ys = values
    induction xs generalizing values with
    | nil => simp
    | cons x xs ih =>
      cases values with
      | nil => simp
      | cons value values =>
        rw [List.map_cons, List.zipWith_cons_cons, List.sum_cons, ih, List.zipWith_cons_cons,
          List.sum_cons]
        ring

theorem covariation_self (xs : List ℚ) : covariation xs xs = variation xs := by
  unfold covariation variation
  generalize mean xs = centre
  induction xs with
  | nil => rfl
  | cons x xs ih =>
    rw [List.zipWith_cons_cons, List.sum_cons, ih, List.map_cons, List.sum_cons, sq]

/-! ## Selection -/

section

variable (scale shift : ℚ)

@[simp] theorem Observation.rescale_usable (item : Observation) :
    (item.rescale scale shift).usable = item.usable := by
  simp [Observation.usable, Observation.rescale]

theorem sortObservations_rescale (items : List Observation) :
    sortObservations (items.map (Observation.rescale scale shift)) =
      (sortObservations items).map (Observation.rescale scale shift) := by
  refine (List.map_insertionSort (fun a b : Observation => a.sortKey ≤ b.sortKey)
    (fun a b : Observation => a.sortKey ≤ b.sortKey) _ items ?_).symm
  intro a _ b _
  exact Iff.rfl

theorem filter_usable_rescale (test : Bool → Bool) (items : List Observation) :
    (items.map (Observation.rescale scale shift)).filter (fun item => test item.usable) =
      (items.filter fun item => test item.usable).map (Observation.rescale scale shift) := by
  rw [List.filter_map]
  congr 2
  funext item
  exact congrArg test (item.rescale_usable scale shift)

theorem recentWindow_map (change : Observation → Observation) (usable : List Observation)
    (count : Option Nat) :
    recentWindow (usable.map change) count =
      ((recentWindow usable count).1.map change, (recentWindow usable count).2.map change) := by
  cases count with
  | none => rfl
  | some count =>
    simp only [recentWindow, List.length_map]
    split_ifs
    · rw [List.map_drop, List.map_take]
    · rfl

theorem distinctDates_rescale (items : List Observation) :
    distinctDates (items.map (Observation.rescale scale shift)) = distinctDates items := by
  unfold distinctDates
  rw [List.map_map]
  rfl

theorem values_rescale (items : List Observation) :
    (items.map (Observation.rescale scale shift)).filterMap (·.value) =
      (items.filterMap (·.value)).map fun value => scale * value + shift := by
  rw [List.filterMap_map, List.map_filterMap]
  rfl

theorem averagePeriodDays_rescale {items : List Observation} (nonempty : items ≠ [])
    (rescaled : items.map (Observation.rescale scale shift) ≠ []) :
    averagePeriodDays (items.map (Observation.rescale scale shift)) rescaled =
      averagePeriodDays items nonempty := by
  have explicit : (items.map (Observation.rescale scale shift)).filterMap
      (fun item => item.periodDays.map fun (days : ℕ+) => ((days : ℕ) : ℚ)) =
      items.filterMap fun item => item.periodDays.map fun (days : ℕ+) => ((days : ℕ) : ℚ) := by
    rw [List.filterMap_map]
    rfl
  unfold averagePeriodDays
  simp only [explicit, List.length_map, List.getLast_map, List.head_map]
  rfl

/-! ## The fit -/

/-- The rescaled selection is fitted by the rescaled line. -/
theorem fitSelected_rescale (selected excluded : List Observation) (configured : Option ℚ) :
    fitSelected (selected.map (Observation.rescale scale shift))
        (excluded.map (Observation.rescale scale shift)) configured =
      (fitSelected selected excluded configured).map (TrendResult.rescale scale shift) := by
  by_cases nonempty : selected ≠ []
  · have rescaled : selected.map (Observation.rescale scale shift) ≠ [] := by
      simpa using nonempty
    have current : ((selected.map (Observation.rescale scale shift)).getLast rescaled).value =
        (selected.getLast nonempty).value.map fun value => scale * value + shift := by
      rw [List.getLast_map]
      rfl
    unfold fitSelected
    rw [dif_pos rescaled, dif_pos nonempty]
    simp only [current, List.length_map, distinctDates_rescale, values_rescale, covariation_affine]
    by_cases few : selected.length < 2 ∨ (distinctDates selected).card < 2
    · rw [if_pos few, if_pos few]
      simp [Except.map, TrendResult.rescale]
    · rw [if_neg few, if_neg few]
      by_cases level : variation (periodIndexes (selected.filterMap (·.value)).length) = 0
      · rw [if_pos level, if_pos level]
        simp [Except.map, TrendResult.rescale]
      · rw [if_neg level, if_neg level]
        have values : selected.filterMap (·.value) ≠ [] := by
          intro none
          rw [none] at level
          exact level rfl
        have measured : periodLength (selected.map (Observation.rescale scale shift)) rescaled
            configured = periodLength selected nonempty configured := by
          cases configured with
          | none => exact averagePeriodDays_rescale scale shift nonempty rescaled
          | some length => rfl
        rw [measured, mean_affine scale shift values]
        cases periodLength selected nonempty configured with
        | error error => rfl
        | ok length =>
          simp only [Bind.bind, Except.bind, Pure.pure, Except.pure, Except.map,
            TrendResult.rescale, Option.map_some, mul_div_assoc, Except.ok.injEq]
          congr 2
          ring
  · rw [not_not.mp nonempty]
    simp [fitSelected, Except.map, TrendResult.rescale]

theorem fitTrend_rescale (series : List Observation) (recentPeriods : Option Int)
    (periodDays : Option ℚ) :
    fitTrend (series.map (Observation.rescale scale shift)) recentPeriods periodDays =
      (fitTrend series recentPeriods periodDays).map (TrendResult.rescale scale shift) := by
  unfold fitTrend
  cases recentPeriodCount recentPeriods with
  | error error => rfl
  | ok count =>
    cases optionalPositiveDecimal "period_days" periodDays with
    | error error => rfl
    | ok configured =>
      have outside : ∀ items : List Observation,
          (items.map (Observation.rescale scale shift)).map (·.outsideWindow) =
            (items.map (·.outsideWindow)).map (Observation.rescale scale shift) := by
        intro items
        rw [List.map_map, List.map_map]
        rfl
      have kept := filter_usable_rescale scale shift id (sortObservations series)
      have dropped := filter_usable_rescale scale shift not (sortObservations series)
      simp only [id] at kept
      simp only [Bind.bind, Except.bind, sortObservations_rescale, kept, dropped,
        recentWindow_map, outside, ← List.map_append]
      exact fitSelected_rescale scale shift _ _ configured

/-- Sufficiency counts observations and dates, which no rescaling moves. -/
theorem TrendResult.rescale_hasSufficientObservations (trend : TrendResult) :
    (trend.rescale scale shift).hasSufficientObservations ↔ trend.hasSufficientObservations := by
  unfold TrendResult.hasSufficientObservations TrendResult.rescale
  rw [List.length_map, distinctDates_rescale]

end

end Forecast

end CovenantRadar
