import CovenantRadar.Python.Calendar
import CovenantRadar.Misc.Loop
import Mathlib

/-!
# Trend fitting and evidence pressure

Source `domain/forecast/trend.py`, with `Decimal` read as the exact rationals. The fit
is an ordinary least-squares line over the indexes of the selected observations; its
slope is change per period, divided by the period length for the change per day.
-/

namespace CovenantRadar

namespace Forecast

/-- Source `Direction`: the side of the threshold a covenant breaches on. -/
inductive Direction where
  | min
  | max
  deriving DecidableEq, Repr

/-- Source `Observation.source_id`: a `UUID` or bounded text. -/
inductive SourceId where
  | uuid (id : Uuid)
  | text (id : BoundedText 200)
  deriving DecidableEq

/-- Source `_identifier_text`. -/
def SourceId.str : SourceId → Text
  | uuid id => id.str
  | text id => id.text

/-- Source `Observation`, as its constructor leaves it. -/
structure Observation where
  observedOn : Date
  value : Option ℚ
  isComplete : Bool
  computable : Bool
  periodDays : Option ℕ+
  sourceId : Option SourceId
  reason : Option (BoundedText 200)
  deriving DecidableEq

/-- Source `Observation.usable`. -/
def Observation.usable (item : Observation) : Bool :=
  item.isComplete && item.computable && item.value.isSome

/-- Source `_observation_sort_key`. -/
def Observation.sortKey (item : Observation) : Date ×ₗ Text :=
  toLex (item.observedOn, item.sourceId.elim [] SourceId.str)

/-- `sorted(observations, key=_observation_sort_key)`. -/
def sortObservations (items : List Observation) : List Observation :=
  items.insertionSort fun a b => a.sortKey ≤ b.sortKey

/-- Source `TrendResult`. -/
structure TrendResult where
  slope : ℚ
  perDayDrift : ℚ
  currentValue : Option ℚ
  periodLengthDays : Option ℚ
  usableObservations : List Observation
  excludedObservations : List Observation
  reason : Option String
  intercept : Option ℚ

/-- Source `{item.observed_on for item in items}`. -/
def distinctDates (items : List Observation) : Finset Date := (items.map (·.observedOn)).toFinset

/-- Source `TrendResult.has_sufficient_observations`. -/
def TrendResult.hasSufficientObservations (trend : TrendResult) : Prop :=
  2 ≤ trend.usableObservations.length ∧ 2 ≤ (distinctDates trend.usableObservations).card

instance (trend : TrendResult) : Decidable trend.hasSufficientObservations := by
  unfold TrendResult.hasSufficientObservations
  infer_instance

/-- The copy `replace` makes of an observation before the recent periods. -/
def Observation.outsideWindow (item : Observation) : Observation :=
  { item with
    computable := false
    reason := some ⟨"outside configured recent period window".toList, by decide⟩ }

/-- The usable observations the fit selects, and the older ones it drops. -/
def recentWindow (usable : List Observation) : Option Nat → List Observation × List Observation
  | none => (usable, [])
  | some count =>
    if count < usable.length then
      (usable.drop (usable.length - count), usable.take (usable.length - count))
    else (usable, [])

/-- Source `_recent_period_count`. -/
def recentPeriodCount : Option Int → Except PyError (Option Nat)
  | none => .ok none
  | some count =>
    if count ≤ 0 then .error (.valueError "recent_periods must be a positive integer.")
    else .ok (some count.toNat)

/-- Source `_optional_positive_decimal`. -/
def optionalPositiveDecimal (field : String) : Option ℚ → Except PyError (Option ℚ)
  | none => .ok none
  | some value =>
    if value ≤ 0 then .error (.valueError s!"{field} must be positive.")
    else .ok (some value)

/-- Source `_average_period_days`, on the selected observations. -/
def averagePeriodDays (items : List Observation) (nonempty : items ≠ []) : Except PyError ℚ :=
  let explicit := items.filterMap fun item => item.periodDays.map fun (days : ℕ+) => ((days : ℕ) : ℚ)
  if explicit.length = items.length then .ok (explicit.sum / explicit.length)
  else
    let totalDays : Int :=
      (items.getLast nonempty).observedOn.toOrdinal - (items.head nonempty).observedOn.toOrdinal
    if totalDays ≤ 0 then
      .error (.valueError "Observation dates must span at least one calendar day.")
    else .ok (totalDays / ((items.length - 1 : Nat) : ℚ))

/-- The index of each of `count` periods. -/
def periodIndexes (count : Nat) : List ℚ := (List.range count).map fun (index : ℕ) => (index : ℚ)

/-- `sum(values) / len(values)`. -/
def mean (values : List ℚ) : ℚ := values.sum / values.length

/-- The numerator of the least-squares slope. -/
def covariation (xs ys : List ℚ) : ℚ :=
  (List.zipWith (fun x y => (x - mean xs) * (y - mean ys)) xs ys).sum

/-- The denominator of the least-squares slope. -/
def variation (xs : List ℚ) : ℚ := (xs.map fun x => (x - mean xs) ^ 2).sum

/-- `configured_period_days or _average_period_days(selected)`. -/
def periodLength (selected : List Observation) (nonempty : selected ≠ []) :
    Option ℚ → Except PyError ℚ
  | some length => .ok length
  | none => averagePeriodDays selected nonempty

/-- Source `fit_trend`, once the observations are selected. -/
def fitSelected (selected excluded : List Observation) (configured : Option ℚ) :
    Except PyError TrendResult :=
  if nonempty : selected ≠ [] then
    let current := (selected.getLast nonempty).value
    let flat (reason : String) : TrendResult :=
      ⟨0, 0, current, configured, selected, excluded, some reason, current⟩
    if selected.length < 2 ∨ (distinctDates selected).card < 2 then
      .ok (flat "fewer than two usable observations")
    else
      -- every selected observation has a value
      let values := selected.filterMap (·.value)
      let xs := periodIndexes values.length
      if variation xs = 0 then .ok (flat "fewer than two distinct observation dates")
      else do
        let slope := covariation xs values / variation xs
        let length ← periodLength selected nonempty configured
        return ⟨slope, slope / length, current, some length, selected, excluded, none,
          some (mean values - slope * mean xs)⟩
  else
    .ok ⟨0, 0, none, configured, [], excluded, some "no usable complete observations", none⟩

/-- Source `fit_trend`. -/
def fitTrend (series : List Observation) (recentPeriods : Option Int) (periodDays : Option ℚ) :
    Except PyError TrendResult := do
  let selectedPeriods ← recentPeriodCount recentPeriods
  let configured ← optionalPositiveDecimal "period_days" periodDays
  let ordered := sortObservations series
  let window := recentWindow (ordered.filter (·.usable)) selectedPeriods
  fitSelected window.1
    (sortObservations (ordered.filter (fun item => !item.usable) ++
      window.2.map (·.outsideWindow))) configured

/-! ## What a fit returns -/

theorem sortObservations_pairwise (items : List Observation) :
    (sortObservations items).Pairwise (fun a b => a.sortKey ≤ b.sortKey) := by
  have total : Std.Total (fun a b : Observation => a.sortKey ≤ b.sortKey) :=
    ⟨fun a b => le_total a.sortKey b.sortKey⟩
  have transitive : IsTrans Observation (fun a b => a.sortKey ≤ b.sortKey) :=
    ⟨fun _ _ _ => le_trans⟩
  exact List.pairwise_insertionSort _ items

/-- Sorted observations are sorted again to themselves. -/
theorem sortObservations_of_pairwise {items : List Observation}
    (ordered : items.Pairwise (fun a b => a.sortKey ≤ b.sortKey)) :
    sortObservations items = items := ordered.insertionSort_eq

theorem recentWindow_sublist (usable : List Observation) (count : Option Nat) :
    (recentWindow usable count).1.Sublist usable := by
  cases count with
  | none => exact List.Sublist.refl _
  | some count =>
    simp only [recentWindow]
    split_ifs
    · exact List.drop_sublist _ _
    · exact List.Sublist.refl _

/-- A period length is positive. -/
theorem averagePeriodDays_pos {items : List Observation} {nonempty : items ≠ []} {length : ℚ}
    (several : 2 ≤ items.length) (returned : averagePeriodDays items nonempty = .ok length) :
    0 < length := by
  simp only [averagePeriodDays] at returned
  split_ifs at returned with explicit apart
  · cases returned
    generalize listed : items.filterMap
      (fun item => item.periodDays.map fun (days : ℕ+) => ((days : ℕ) : ℚ)) = lengths at explicit
    have some : lengths ≠ [] := by
      rw [← List.length_pos_iff, explicit]
      omega
    apply div_pos
    · apply List.sum_pos
      · intro days member
        rw [← listed] at member
        obtain ⟨item, _, given⟩ := List.mem_filterMap.mp member
        obtain ⟨positive, _, rfl⟩ := Option.map_eq_some_iff.mp given
        exact Nat.cast_pos.mpr positive.pos
      · exact some
    · exact Nat.cast_pos.mpr (List.length_pos_iff.mpr some)
  · cases returned
    apply div_pos
    · exact Int.cast_pos.mpr (not_le.mp apart)
    · exact Nat.cast_pos.mpr (by omega)

/-- Two indexes differ, so the slope's denominator is not zero. -/
theorem variation_periodIndexes_ne_zero {count : Nat} (several : 2 ≤ count) :
    variation (periodIndexes count) ≠ 0 := by
  intro zero
  have squares : ∀ square ∈ (periodIndexes count).map
      (fun x => (x - mean (periodIndexes count)) ^ 2), square = 0 := by
    intro square member
    refine List.all_zero_of_le_zero_le_of_sum_eq_zero ?_ zero member
    intro other listed
    obtain ⟨x, _, rfl⟩ := List.mem_map.mp listed
    exact sq_nonneg _
  have level : ∀ index < count, ((index : ℕ) : ℚ) = mean (periodIndexes count) := by
    intro index small
    have member : ((index : ℕ) : ℚ) ∈ periodIndexes count :=
      List.mem_map.mpr ⟨index, List.mem_range.mpr small, rfl⟩
    have square := squares _ (List.mem_map.mpr ⟨_, member, rfl⟩)
    exact sub_eq_zero.mp (pow_eq_zero_iff two_ne_zero |>.mp square)
  have same := (level 0 (by omega)).trans (level 1 (by omega)).symm
  exact absurd same (by norm_num)

/-- What a fit returns: the selected observations in order, their last value, and a line
    that is flat unless two dates are selected. -/
structure TrendResult.Fitted (series : List Observation) (trend : TrendResult) : Prop where
  drawn : trend.usableObservations.Subperm (series.filter (·.usable))
  ordered : trend.usableObservations.Pairwise (fun a b => a.sortKey ≤ b.sortKey)
  current : trend.currentValue = trend.usableObservations.getLast?.bind (·.value)
  period : trend.hasSufficientObservations → ∃ length, 0 < length ∧
    trend.periodLengthDays = some length
  flat : ¬ trend.hasSufficientObservations → trend.perDayDrift = 0

theorem length_values {items : List Observation} (usable : ∀ item ∈ items, item.usable = true) :
    (items.filterMap (·.value)).length = items.length := by
  induction items with
  | nil => rfl
  | cons item items ih =>
    have first := usable item List.mem_cons_self
    simp only [Observation.usable, Bool.and_eq_true] at first
    obtain ⟨value, known⟩ := Option.isSome_iff_exists.mp first.2
    rw [List.filterMap_cons_some known, List.length_cons, List.length_cons,
      ih fun other member => usable other (List.mem_cons_of_mem _ member)]

theorem fitSelected_eq_ok {selected excluded : List Observation} {configured : Option ℚ}
    {trend : TrendResult} (usable : ∀ item ∈ selected, item.usable = true)
    (positive : ∀ length ∈ configured, 0 < length)
    (returned : fitSelected selected excluded configured = .ok trend) :
    trend.usableObservations = selected ∧
      trend.currentValue = selected.getLast?.bind (·.value) ∧
      (trend.hasSufficientObservations → ∃ length, 0 < length ∧
        trend.periodLengthDays = some length) ∧
      (¬ trend.hasSufficientObservations → trend.perDayDrift = 0) := by
  unfold fitSelected at returned
  by_cases nonempty : selected ≠ []
  · have current : ((selected.getLast nonempty).value : Option ℚ) =
        selected.getLast?.bind (·.value) := by
      rw [List.getLast?_eq_some_getLast nonempty]
      rfl
    rw [dif_pos nonempty] at returned
    by_cases few : selected.length < 2 ∨ (distinctDates selected).card < 2
    · simp only [if_pos few] at returned
      cases returned
      refine ⟨rfl, current, fun sufficient => ?_, fun _ => rfl⟩
      exact absurd few (not_or.mpr ⟨not_lt.mpr sufficient.1, not_lt.mpr sufficient.2⟩)
    · have several : 2 ≤ selected.length := not_lt.mp (not_or.mp few).1
      have steep : variation (periodIndexes (selected.filterMap (·.value)).length) ≠ 0 :=
        variation_periodIndexes_ne_zero (by rw [length_values usable]; exact several)
      simp only [if_neg few, if_neg steep] at returned
      obtain ⟨length, measured, last⟩ := Except.bind_eq_ok_iff.mp returned
      cases last
      refine ⟨rfl, current, fun _ => ⟨length, ?_, rfl⟩, fun insufficient => ?_⟩
      · cases configured with
        | none => exact averagePeriodDays_pos several measured
        | some given =>
          cases measured
          exact positive length rfl
      · exact absurd ⟨several, not_lt.mp (not_or.mp few).2⟩ insufficient
  · rw [dif_neg nonempty] at returned
    cases returned
    rw [not_not.mp nonempty]
    exact ⟨rfl, rfl, fun sufficient => absurd sufficient.1 (Nat.not_succ_le_zero 1), fun _ => rfl⟩

theorem optionalPositiveDecimal_eq_ok {field : String} {given result : Option ℚ} :
    optionalPositiveDecimal field given = .ok result ↔
      result = given ∧ ∀ length ∈ result, 0 < length := by
  cases given with
  | none =>
    constructor
    · intro returned
      cases returned
      exact ⟨rfl, nofun⟩
    · intro both
      rw [both.1]
      rfl
  | some value =>
    simp only [optionalPositiveDecimal]
    by_cases small : value ≤ 0
    · rw [if_pos small]
      refine iff_of_false (by simp) ?_
      intro both
      rw [both.1] at both
      exact absurd (both.2 value rfl) (not_lt.mpr small)
    · rw [if_neg small]
      constructor
      · intro returned
        cases returned
        exact ⟨rfl, fun length member => Option.mem_some_iff.mp member ▸ not_le.mp small⟩
      · intro both
        rw [both.1]

theorem fitTrend_eq_ok {series : List Observation} {recentPeriods : Option Int}
    {periodDays : Option ℚ} {trend : TrendResult}
    (returned : fitTrend series recentPeriods periodDays = .ok trend) : trend.Fitted series := by
  obtain ⟨count, _, rest⟩ := Except.bind_eq_ok_iff.mp returned
  obtain ⟨configured, given, selected⟩ := Except.bind_eq_ok_iff.mp rest
  have window := recentWindow_sublist ((sortObservations series).filter (·.usable)) count
  have sorted : ((sortObservations series).filter (·.usable)).Pairwise
      (fun a b => a.sortKey ≤ b.sortKey) := (sortObservations_pairwise series).filter _
  have usable : ∀ item ∈ (recentWindow ((sortObservations series).filter (·.usable)) count).1,
      item.usable = true := fun item member => (List.mem_filter.mp (window.subset member)).2
  obtain ⟨kept, current, period, flat⟩ := fitSelected_eq_ok usable
    (optionalPositiveDecimal_eq_ok.mp given).2 selected
  refine ⟨?_, ?_, by rw [kept]; exact current, period, flat⟩
  · rw [kept]
    exact window.subperm.trans ((List.perm_insertionSort _ series).filter _).subperm
  · rw [kept]
    exact sorted.sublist window

/-! ## Fits of at most two observations -/

/-- `Observation(observed_on=..., value=..., source_id=...)`. -/
def Observation.dated (observedOn : Date) (value : Option ℚ) (sourceId : Option SourceId) :
    Observation :=
  ⟨observedOn, value, true, true, none, sourceId, none⟩

theorem fitTrend_nil (periodDays : Option ℚ) :
    fitTrend [] none periodDays =
      (optionalPositiveDecimal "period_days" periodDays).map fun configured =>
        ⟨0, 0, none, configured, [], [], some "no usable complete observations", none⟩ := by
  cases given : optionalPositiveDecimal "period_days" periodDays with
  | error error => simp [fitTrend, recentPeriodCount, given, Bind.bind, Except.bind, Except.map]
  | ok configured =>
    simp [fitTrend, recentPeriodCount, given, Bind.bind, Except.bind, Except.map, sortObservations,
      recentWindow, fitSelected]

theorem fitTrend_single (observedOn : Date) (value : ℚ) (sourceId : Option SourceId) :
    fitTrend [Observation.dated observedOn (some value) sourceId] none none =
      .ok ⟨0, 0, some value, none, [Observation.dated observedOn (some value) sourceId], [],
        some "fewer than two usable observations", some value⟩ := by
  simp [fitTrend, recentPeriodCount, optionalPositiveDecimal, Bind.bind, Except.bind,
    sortObservations, recentWindow, fitSelected, Observation.usable, Observation.dated]

section Pair

variable {first last : Date} {before after period : ℚ} {firstId lastId : Option SourceId}

private theorem fitTrend_pair_selected
    (ordered : (Observation.dated first (some before) firstId).sortKey ≤
      (Observation.dated last (some after) lastId).sortKey) (positive : 0 < period) :
    fitTrend [Observation.dated first (some before) firstId,
        Observation.dated last (some after) lastId] none (some period) =
      fitSelected [Observation.dated first (some before) firstId,
        Observation.dated last (some after) lastId] [] (some period) := by
  have sorted := sortObservations_of_pairwise (List.pairwise_pair.mpr ordered)
  have given : optionalPositiveDecimal "period_days" (some period) = .ok (some period) :=
    if_neg (not_le.mpr positive)
  simp only [fitTrend, recentPeriodCount, given, sorted, Bind.bind, Except.bind]
  rfl

/-- Two observations on two dates are fitted by the line through them. -/
theorem fitTrend_pair (apart : first ≠ last)
    (ordered : (Observation.dated first (some before) firstId).sortKey ≤
      (Observation.dated last (some after) lastId).sortKey) (positive : 0 < period) :
    fitTrend [Observation.dated first (some before) firstId,
        Observation.dated last (some after) lastId] none (some period) =
      .ok ⟨after - before, (after - before) / period, some after, some period,
        [Observation.dated first (some before) firstId,
          Observation.dated last (some after) lastId], [], none, some before⟩ := by
  rw [fitTrend_pair_selected ordered positive]
  have two : (distinctDates [Observation.dated first (some before) firstId,
      Observation.dated last (some after) lastId]).card = 2 := by
    simp [distinctDates, Observation.dated, Finset.card_pair apart]
  have xs : periodIndexes 2 = [0, 1] := by simp [periodIndexes, List.range_succ]
  have steep : variation [0, 1] = 1 / 2 := by
    norm_num [variation, mean]
  have rise : covariation [0, 1] [before, after] = (after - before) / 2 := by
    simp only [covariation, mean, List.zipWith_cons_cons, List.zipWith_nil_right, List.sum_cons,
      List.sum_nil, List.length_cons, List.length_nil]
    push_cast
    ring
  have slope : covariation [0, 1] [before, after] / variation [0, 1] = after - before := by
    rw [rise, steep]
    ring
  have start : mean [before, after] - (after - before) * mean [0, 1] = before := by
    simp only [mean, List.sum_cons, List.sum_nil, List.length_cons, List.length_nil]
    push_cast
    ring
  have values : [Observation.dated first (some before) firstId,
      Observation.dated last (some after) lastId].filterMap (·.value) = [before, after] := rfl
  have few : ¬ ([Observation.dated first (some before) firstId,
      Observation.dated last (some after) lastId].length < 2 ∨
        (distinctDates [Observation.dated first (some before) firstId,
          Observation.dated last (some after) lastId]).card < 2) := by
    rw [two]
    simp
  unfold fitSelected
  rw [dif_pos (List.cons_ne_nil _ _)]
  simp only [if_neg few, values]
  rw [show [before, after].length = 2 from rfl, xs, slope, start, if_neg (by rw [steep]; norm_num)]
  rfl

/-- Two observations on one date are fitted by a flat line. -/
theorem fitTrend_pair_same_date (same : first = last)
    (ordered : (Observation.dated first (some before) firstId).sortKey ≤
      (Observation.dated last (some after) lastId).sortKey) (positive : 0 < period) :
    fitTrend [Observation.dated first (some before) firstId,
        Observation.dated last (some after) lastId] none (some period) =
      .ok ⟨0, 0, some after, some period,
        [Observation.dated first (some before) firstId,
          Observation.dated last (some after) lastId], [],
        some "fewer than two usable observations", some after⟩ := by
  rw [fitTrend_pair_selected ordered positive]
  have one : (distinctDates [Observation.dated first (some before) firstId,
      Observation.dated last (some after) lastId]).card = 1 := by
    simp [distinctDates, Observation.dated, same]
  unfold fitSelected
  rw [dif_pos (List.cons_ne_nil _ _)]
  simp only [one, Nat.one_lt_ofNat, or_true, if_pos]
  rfl

end Pair

end Forecast

end CovenantRadar
