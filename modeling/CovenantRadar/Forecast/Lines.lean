import CovenantRadar.Forecast.Rescale
import CovenantRadar.Misc.SortedLists

/-!
# Fits of a line

The fit runs over the indexes of the selected observations, in date order. A line over the
indexes is returned as it is; a line over the dates is one over the indexes when the dates
are equally far apart, and need not be one otherwise.
-/

namespace CovenantRadar

namespace Forecast

/-- Each value lies on the line at its index. -/
def OnPeriodLine (start rate : ℚ) (items : List Observation) : Prop :=
  ∀ (index : ℕ) (item : Observation), items[index]? = some item →
    item.value = some (rate * index + start)

/-- Each value lies on the line at its date. -/
def OnDateLine (level daily : ℚ) (items : List Observation) : Prop :=
  ∀ item ∈ items, item.value = some (daily * item.observedOn.toOrdinal + level)

/-- The dates are some first day and every `gap`-th day after it. -/
def EquallySpaced (gap : ℕ+) (items : List Observation) : Prop :=
  ∃ first, (items.map (·.observedOn.toOrdinal)).Perm
    ((List.range items.length).map fun index => first + index * (gap : ℕ))

/-- Every selected value lies on the fitted line. -/
def TrendResult.WithoutResiduals (trend : TrendResult) : Prop :=
  ∃ intercept, trend.intercept = some intercept ∧
    OnPeriodLine intercept trend.slope trend.usableObservations

/-- The period length comes out as `gap`: it is configured, read off the dates because an
    observation states none, or stated by every observation. -/
def PeriodIs (gap : ℕ+) (configured : Option ℚ) (items : List Observation) : Prop :=
  configured = some ((gap : ℕ) : ℚ) ∨ configured = none ∧
    ((∃ item ∈ items, item.periodDays = none) ∨ ∀ item ∈ items, item.periodDays = some gap)

/-! ## Lines over the indexes -/

section

variable {start rate : ℚ} {selected excluded : List Observation}

theorem values_of_line (line : OnPeriodLine start rate selected) :
    selected.filterMap (·.value) =
      (periodIndexes selected.length).map fun index => rate * index + start := by
  induction selected using List.reverseRecOn with
  | nil => rfl
  | append_singleton items item ih =>
    have before : OnPeriodLine start rate items := by
      intro index other listed
      apply line index other
      rw [List.getElem?_append_left (List.getElem?_eq_some_iff.mp listed).1]
      exact listed
    have last : item.value = some (rate * items.length + start) := by
      apply line items.length item
      rw [List.getElem?_append_right le_rfl, Nat.sub_self, List.getElem?_cons_zero]
    rw [List.filterMap_append, ih before, List.length_append, List.length_singleton,
      periodIndexes, periodIndexes, List.range_succ, List.map_append, List.map_append,
      List.filterMap_cons_some last, List.filterMap_nil]
    rfl

/-- A line over the indexes is its own least-squares line. -/
theorem fitSelected_line (nonempty : selected ≠ []) (several : 2 ≤ selected.length)
    (dates : 2 ≤ (distinctDates selected).card) (line : OnPeriodLine start rate selected)
    (configured : Option ℚ) :
    fitSelected selected excluded configured =
      (periodLength selected nonempty configured).map fun length =>
        ⟨rate, rate / length, (selected.getLast nonempty).value, some length, selected, excluded,
          none, some start⟩ := by
  have few : ¬ (selected.length < 2 ∨ (distinctDates selected).card < 2) := by
    omega
  have steep := variation_periodIndexes_ne_zero several
  have indexes : periodIndexes selected.length ≠ [] := by
    intro none
    rw [none] at steep
    exact steep rfl
  have slope : covariation (periodIndexes selected.length)
      ((periodIndexes selected.length).map fun index => rate * index + start) /
        variation (periodIndexes selected.length) = rate := by
    rw [covariation_affine, covariation_self, mul_div_cancel_right₀ _ steep]
  have counted : ((periodIndexes selected.length).map fun index => rate * index + start).length =
      selected.length := by
    rw [List.length_map, periodIndexes, List.length_map, List.length_range]
  unfold fitSelected
  rw [dif_pos nonempty]
  simp only [if_neg few, values_of_line line, counted, if_neg steep, slope,
    mean_affine rate start indexes]
  cases periodLength selected nonempty configured with
  | error error => rfl
  | ok length =>
    simp only [Bind.bind, Except.bind, Pure.pure, Except.pure, Except.map, Except.ok.injEq]
    congr 2
    ring

end

/-- A fit that is sufficient is of the line its selected values lie on. -/
theorem fitTrend_on_line {series : List Observation} {recentPeriods : Option Int}
    {periodDays : Option ℚ} {trend : TrendResult} {start rate : ℚ}
    (returned : fitTrend series recentPeriods periodDays = .ok trend)
    (sufficient : trend.hasSufficientObservations)
    (line : OnPeriodLine start rate trend.usableObservations) :
    trend.slope = rate ∧ trend.intercept = some start ∧
      ∃ length, 0 < length ∧ trend.periodLengthDays = some length ∧
        trend.perDayDrift = rate / length := by
  have fitted := fitTrend_eq_ok returned
  obtain ⟨count, _, rest⟩ := Except.bind_eq_ok_iff.mp returned
  obtain ⟨configured, given, selected⟩ := Except.bind_eq_ok_iff.mp rest
  have usable : ∀ item ∈ (recentWindow ((sortObservations series).filter (·.usable)) count).1,
      item.usable = true := fun item member =>
    (List.mem_filter.mp ((recentWindow_sublist _ count).subset member)).2
  have kept := (fitSelected_eq_ok usable (optionalPositiveDecimal_eq_ok.mp given).2 selected).1
  simp only [← kept] at selected
  have nonempty : trend.usableObservations ≠ [] :=
    List.ne_nil_of_length_pos (lt_of_lt_of_le Nat.two_pos sufficient.1)
  rw [fitSelected_line nonempty sufficient.1 sufficient.2 line] at selected
  obtain ⟨length, _, built⟩ := Except.map_eq_ok_iff.mp selected
  obtain ⟨period, positive, stated⟩ := fitted.period sufficient
  rw [← built] at stated
  cases stated
  rw [← built]
  exact ⟨rfl, rfl, length, positive, rfl, rfl⟩

/-! ## Lines over the dates -/

/-- Dates `gap` days apart, in the order of the items. -/
def SpacedFrom (first : ℕ) (gap : ℕ+) (items : List Observation) : Prop :=
  ∀ (index : ℕ) (item : Observation), items[index]? = some item →
    item.observedOn.toOrdinal = first + index * (gap : ℕ)

section

variable {gap : ℕ+} {items items' : List Observation} {first : ℕ}

theorem EquallySpaced.perm (spaced : EquallySpaced gap items) (perm : items.Perm items') :
    EquallySpaced gap items' := by
  obtain ⟨first, dates⟩ := spaced
  refine ⟨first, ?_⟩
  rw [← perm.length_eq]
  exact (perm.map _).symm.trans dates

/-- In date order, equally spaced dates are one gap apart. -/
theorem EquallySpaced.spacedFrom (spaced : EquallySpaced gap items)
    (ordered : items.Pairwise fun a b => a.sortKey ≤ b.sortKey) :
    ∃ first, SpacedFrom first gap items := by
  obtain ⟨first, perm⟩ := spaced
  have sorted : (items.map (·.observedOn.toOrdinal)).Pairwise (· ≤ ·) := by
    rw [List.pairwise_map]
    refine ordered.imp fun {a b} below => ?_
    exact Date.toOrdinal_strictMono.monotone (Prod.Lex.le_iff'.mp below).1
  have steps : ((List.range items.length).map fun index =>
      first + index * (gap : ℕ)).Pairwise (· ≤ ·) := by
    rw [List.pairwise_map]
    refine List.pairwise_lt_range.imp fun {a b} below => ?_
    exact Nat.add_le_add_left (Nat.mul_le_mul_right _ below.le) first
  have dates := perm.eq_of_pairwise (fun a b _ _ => le_antisymm) sorted steps
  refine ⟨first, fun index item listed => ?_⟩
  have place := (List.getElem?_eq_some_iff.mp listed).1
  have read : (items.map (·.observedOn.toOrdinal))[index]? =
      some (first + index * (gap : ℕ)) := by
    rw [dates, List.getElem?_map, List.getElem?_range place, Option.map_some]
  rw [List.getElem?_map, listed] at read
  exact Option.some.inj read

theorem SpacedFrom.drop (spaced : SpacedFrom first gap items) (count : ℕ) :
    SpacedFrom (first + count * (gap : ℕ)) gap (items.drop count) := by
  intro index item listed
  rw [List.getElem?_drop] at listed
  rw [spaced _ item listed]
  ring

/-- A line over equally spaced dates is one over the indexes. -/
theorem SpacedFrom.onPeriodLine {level daily : ℚ} (spaced : SpacedFrom first gap items)
    (line : OnDateLine level daily items) :
    OnPeriodLine (daily * first + level) (daily * (gap : ℕ)) items := by
  intro index item listed
  rw [line item (List.mem_of_getElem? listed), spaced index item listed, Option.some.injEq]
  push_cast
  ring

theorem SpacedFrom.two_dates (spaced : SpacedFrom first gap items) (several : 2 ≤ items.length) :
    2 ≤ (distinctDates items).card := by
  have zeroth := spaced 0 items[0] (List.getElem?_eq_getElem _)
  have next := spaced 1 items[1] (List.getElem?_eq_getElem _)
  have positive := gap.pos
  refine Finset.one_lt_card.mpr ⟨items[0].observedOn, ?_, items[1].observedOn, ?_, ?_⟩
  · exact List.mem_toFinset.mpr (List.mem_map.mpr ⟨_, List.getElem_mem _, rfl⟩)
  · exact List.mem_toFinset.mpr (List.mem_map.mpr ⟨_, List.getElem_mem _, rfl⟩)
  · intro same
    rw [same, next] at zeroth
    omega

/-- Equally spaced observations have a period length, which is the gap unless another
    length is configured or stated. -/
theorem SpacedFrom.periodLength (spaced : SpacedFrom first gap items) (nonempty : items ≠ [])
    (several : 2 ≤ items.length) (configured : Option ℚ) :
    ∃ length, periodLength items nonempty configured = .ok length ∧
      (PeriodIs gap configured items → length = (gap : ℕ)) := by
  cases configured with
  | some length =>
    refine ⟨length, rfl, ?_⟩
    rintro (given | ⟨none, _⟩)
    · exact Option.some.inj given
    · cases none
  | none =>
    have days : (((items.getLast nonempty).observedOn.toOrdinal : ℤ) -
        (items.head nonempty).observedOn.toOrdinal) = (items.length - 1 : ℕ) * (gap : ℕ) := by
      rw [spaced (items.length - 1) (items.getLast nonempty)
          (by rw [← List.getLast?_eq_getElem?, List.getLast?_eq_some_getLast]),
        spaced 0 (items.head nonempty)
          (by rw [← List.head?_eq_getElem?, List.head?_eq_some_head])]
      push_cast
      ring
    have positive : (0 : ℤ) < (items.length - 1 : ℕ) * (gap : ℕ) := by
      have steps : 0 < items.length - 1 := by omega
      exact_mod_cast Nat.mul_pos steps gap.pos
    simp only [Forecast.periodLength, averagePeriodDays, days]
    split_ifs with stated
    · refine ⟨_, rfl, ?_⟩
      rintro (given | ⟨_, ⟨item, member, none⟩ | all⟩)
      · cases given
      · have kept := List.filterMap_length_eq_length.mp stated item member
        rw [none] at kept
        cases kept
      · have lengths : items.filterMap (fun item => item.periodDays.map fun (days : ℕ+) =>
            ((days : ℕ) : ℚ)) = List.replicate items.length ((gap : ℕ) : ℚ) := by
          refine List.eq_replicate_iff.mpr ⟨stated, fun days listed => ?_⟩
          obtain ⟨item, member, given⟩ := List.mem_filterMap.mp listed
          rw [all item member] at given
          exact (Option.some.inj given).symm
        have counted : (items.length : ℚ) ≠ 0 := Nat.cast_ne_zero.mpr (by omega)
        rw [lengths, List.sum_replicate, List.length_replicate, nsmul_eq_mul,
          mul_div_cancel_left₀ _ counted]
    · omega
    · refine ⟨_, rfl, fun _ => ?_⟩
      have counted : ((items.length - 1 : ℕ) : ℚ) ≠ 0 := Nat.cast_ne_zero.mpr (by omega)
      push_cast
      rw [mul_div_cancel_left₀ _ counted]

end

/-! ## What a fit preserves -/

theorem recentWindow_eq_drop (usable : List Observation) (count : Option ℕ) :
    ∃ dropped, (recentWindow usable count).1 = usable.drop dropped ∧
      ((∀ several ∈ count, 2 ≤ several) → 2 ≤ usable.length →
        2 ≤ (recentWindow usable count).1.length) := by
  cases count with
  | none => exact ⟨0, rfl, fun _ many => many⟩
  | some count =>
    simp only [recentWindow]
    split_ifs with short
    · refine ⟨_, rfl, fun several _ => ?_⟩
      have two := several count rfl
      rw [List.length_drop]
      omega
    · exact ⟨0, rfl, fun _ many => many⟩

theorem recentPeriodCount_several {recentPeriods : Option ℤ}
    (several : ∀ count ∈ recentPeriods, 2 ≤ count) :
    ∃ count, recentPeriodCount recentPeriods = .ok count ∧ ∀ several ∈ count, 2 ≤ several := by
  cases recentPeriods with
  | none => exact ⟨none, rfl, nofun⟩
  | some count =>
    have two := several count rfl
    refine ⟨some count.toNat, if_neg (by omega), ?_⟩
    rintro _ ⟨⟩
    omega

/-- Equally spaced observations on a line over the dates are fitted without residuals, and
    the drift is the line's own when the gap is the period length. -/
theorem fitTrend_equallySpaced {series : List Observation} {recentPeriods : Option ℤ}
    {periodDays : Option ℚ} {gap : ℕ+} {level daily : ℚ}
    (many : 2 ≤ (series.filter (·.usable)).length)
    (several : ∀ count ∈ recentPeriods, 2 ≤ count) (positive : ∀ length ∈ periodDays, 0 < length)
    (spaced : EquallySpaced gap (series.filter (·.usable)))
    (line : OnDateLine level daily (series.filter (·.usable))) :
    ∃ trend, fitTrend series recentPeriods periodDays = .ok trend ∧
      trend.slope = daily * (gap : ℕ) ∧ trend.WithoutResiduals ∧
      (PeriodIs gap periodDays trend.usableObservations → trend.perDayDrift = daily) := by
  have sorted : ((sortObservations series).filter (·.usable)).Perm (series.filter (·.usable)) :=
    (List.perm_insertionSort _ series).filter _
  obtain ⟨first, steps⟩ := (spaced.perm sorted.symm).spacedFrom
    ((sortObservations_pairwise series).filter _)
  obtain ⟨count, counted, two⟩ := recentPeriodCount_several several
  obtain ⟨dropped, window, enough⟩ := recentWindow_eq_drop
    ((sortObservations series).filter (·.usable)) count
  have kept := enough two (sorted.length_eq ▸ many)
  have nonempty : (recentWindow ((sortObservations series).filter (·.usable)) count).1 ≠ [] :=
    List.ne_nil_of_length_pos (lt_of_lt_of_le Nat.two_pos kept)
  have selected := window ▸ steps.drop dropped
  have on : OnDateLine level daily
      (recentWindow ((sortObservations series).filter (·.usable)) count).1 := fun item member =>
    line item (sorted.mem_iff.mp ((recentWindow_sublist _ count).subset member))
  have periods := selected.onPeriodLine on
  obtain ⟨length, measured, isGap⟩ := selected.periodLength nonempty kept periodDays
  have given := (@optionalPositiveDecimal_eq_ok "period_days" _ _).mpr ⟨rfl, positive⟩
  have fits : ∃ excluded, fitTrend series recentPeriods periodDays = fitSelected
      (recentWindow ((sortObservations series).filter (·.usable)) count).1 excluded periodDays := by
    simp only [fitTrend, counted, given, Bind.bind, Except.bind]
    exact ⟨_, rfl⟩
  obtain ⟨excluded, fitted⟩ := fits
  rw [fitted, fitSelected_line nonempty kept (selected.two_dates kept) periods, measured]
  refine ⟨_, rfl, rfl, ⟨_, rfl, periods⟩, fun stated => ?_⟩
  have gapped : ((gap : ℕ) : ℚ) ≠ 0 := Nat.cast_ne_zero.mpr gap.pos.ne'
  simp only [isGap stated]
  exact mul_div_cancel_right₀ daily gapped

/-- The fit reads its observations in sorted order only. -/
theorem fitTrend_congr {series series' : List Observation}
    (same : sortObservations series = sortObservations series') (recentPeriods : Option ℤ)
    (periodDays : Option ℚ) :
    fitTrend series recentPeriods periodDays = fitTrend series' recentPeriods periodDays := by
  simp only [fitTrend, same]

/-- What the fit does with lines, with reordered series and with rescaled values. -/
theorem fitTrend_lines :
    (∀ (series : List Observation) (recentPeriods : Option ℤ) (periodDays : Option ℚ)
      (trend : TrendResult) (start rate : ℚ),
      fitTrend series recentPeriods periodDays = .ok trend → trend.hasSufficientObservations →
      OnPeriodLine start rate trend.usableObservations →
        trend.slope = rate ∧ trend.intercept = some start ∧
          ∃ length, 0 < length ∧ trend.periodLengthDays = some length ∧
            trend.perDayDrift = rate / length) ∧
    (∀ (series : List Observation) (recentPeriods : Option ℤ) (periodDays : Option ℚ)
      (gap : ℕ+) (level daily : ℚ), 2 ≤ (series.filter (·.usable)).length →
      (∀ count ∈ recentPeriods, 2 ≤ count) → (∀ length ∈ periodDays, 0 < length) →
      EquallySpaced gap (series.filter (·.usable)) →
      OnDateLine level daily (series.filter (·.usable)) →
        ∃ trend, fitTrend series recentPeriods periodDays = .ok trend ∧
          trend.slope = daily * (gap : ℕ) ∧ trend.WithoutResiduals ∧
          (PeriodIs gap periodDays trend.usableObservations → trend.perDayDrift = daily)) ∧
    (∀ series series' : List Observation,
      (∀ key, series.filter (fun item => item.sortKey = key) =
        series'.filter (fun item => item.sortKey = key)) →
      ∀ (recentPeriods : Option ℤ) (periodDays : Option ℚ),
        fitTrend series recentPeriods periodDays = fitTrend series' recentPeriods periodDays) ∧
    (∀ series series' : List Observation, series.Perm series' →
      (∀ a ∈ series, ∀ b ∈ series, a.sortKey = b.sortKey → a = b) →
      ∀ (recentPeriods : Option ℤ) (periodDays : Option ℚ),
        fitTrend series recentPeriods periodDays = fitTrend series' recentPeriods periodDays) ∧
    ∀ (scale shift : ℚ) (series : List Observation) (recentPeriods : Option ℤ)
      (periodDays : Option ℚ),
      fitTrend (series.map (Observation.rescale scale shift)) recentPeriods periodDays =
          (fitTrend series recentPeriods periodDays).map (TrendResult.rescale scale shift) ∧
        ∀ trend : TrendResult, (trend.rescale scale shift).slope = scale * trend.slope ∧
          (trend.rescale scale shift).perDayDrift = scale * trend.perDayDrift ∧
          ((trend.rescale scale shift).hasSufficientObservations ↔
            trend.hasSufficientObservations) := by
  refine ⟨?_, ?_, ?_, ?_, ?_⟩
  · intro series recentPeriods periodDays trend start rate returned sufficient line
    exact fitTrend_on_line returned sufficient line
  · intro series recentPeriods periodDays gap level daily many several positive spaced line
    exact fitTrend_equallySpaced many several positive spaced line
  · intro series series' same
    apply fitTrend_congr
    apply insertionSort_eq_of_filter_key
    intro key
    convert same key
  · intro series series' perm apart
    apply fitTrend_congr
    exact insertionSort_key_perm (fun a first b second => apart a first b second) perm
  · intro scale shift series recentPeriods periodDays
    exact ⟨fitTrend_rescale scale shift series recentPeriods periodDays, fun trend =>
      ⟨rfl, rfl, trend.rescale_hasSufficientObservations scale shift⟩⟩

theorem january_valid {day : ℕ} (inside : 1 ≤ day ∧ day ≤ 31) :
    1 ≤ 2024 ∧ 2024 ≤ 9999 ∧ 1 ≤ 1 ∧ 1 ≤ 12 ∧ 1 ≤ day ∧ day ≤ daysInMonth 2024 1 :=
  ⟨by decide, by decide, by decide, by decide, inside⟩

/-- A day of January 2024. -/
def january (day : ℕ) (inside : 1 ≤ day ∧ day ≤ 31) : Date := ⟨2024, 1, day, january_valid inside⟩

/-- Dates unequally far apart bend a line, and two observations under one key are read in
    the order they came in. -/
theorem fitTrend_bends :
    (¬ ∀ (series : List Observation) (level daily : ℚ), (∀ item ∈ series, item.usable = true) →
      2 ≤ series.length → (series.map (·.observedOn)).Nodup → OnDateLine level daily series →
        ∃ trend, fitTrend series none none = .ok trend ∧ trend.perDayDrift = daily) ∧
    ¬ ∀ series series' : List Observation, series.Perm series' →
      (fitTrend series none none).toOption.map (·.slope) =
        (fitTrend series' none none).toOption.map (·.slope) := by
  constructor
  · intro claimed
    obtain ⟨trend, returned, drift⟩ := claimed
      [Observation.dated (january 1 (by decide)) (some 0) none,
        Observation.dated (january 2 (by decide)) (some 1) none,
        Observation.dated (january 3 (by decide)) (some 2) none,
        Observation.dated (january 7 (by decide)) (some 6) none]
      (-738886) 1 (by decide +kernel) (by decide) (by decide +kernel)
      (by unfold OnDateLine; decide +kernel)
    have bent : (fitTrend [Observation.dated (january 1 (by decide)) (some 0) none,
        Observation.dated (january 2 (by decide)) (some 1) none,
        Observation.dated (january 3 (by decide)) (some 2) none,
        Observation.dated (january 7 (by decide)) (some 6) none] none none).toOption.map (·.perDayDrift) =
        some (19 / 20) := by decide +kernel
    rw [returned] at bent
    have same := drift.symm.trans (Option.some.inj bent)
    norm_num at same
  · intro claimed
    have swapped := claimed
      [Observation.dated (january 1 (by decide)) (some 0) none,
        Observation.dated (january 2 (by decide)) (some 1) none,
        Observation.dated (january 2 (by decide)) (some 2) none]
      [Observation.dated (january 1 (by decide)) (some 0) none,
        Observation.dated (january 2 (by decide)) (some 2) none,
        Observation.dated (january 2 (by decide)) (some 1) none]
      ((List.Perm.swap _ _ _).cons _)
    have first : (fitTrend [Observation.dated (january 1 (by decide)) (some 0) none,
        Observation.dated (january 2 (by decide)) (some 1) none,
        Observation.dated (january 2 (by decide)) (some 2) none] none none).toOption.map
          (·.slope) = some 1 := by decide +kernel
    have second : (fitTrend [Observation.dated (january 1 (by decide)) (some 0) none,
        Observation.dated (january 2 (by decide)) (some 2) none,
        Observation.dated (january 2 (by decide)) (some 1) none] none none).toOption.map
          (·.slope) = some (1 / 2) := by decide +kernel
    rw [first, second] at swapped
    have same := Option.some.inj swapped
    norm_num at same

/-- Three observations two days apart on a line over the dates. -/
theorem fitTrend_lines_every_second_day :
    ∃ trend, fitTrend [Observation.dated (january 5 (by decide)) (some 9) none,
        Observation.dated (january 1 (by decide)) (some 1) none,
        Observation.dated (january 3 (by decide)) (some 5) none] none none = .ok trend ∧
      trend.slope = 2 * ((2 : ℕ+) : ℕ) ∧ trend.WithoutResiduals ∧
      (PeriodIs 2 none trend.usableObservations → trend.perDayDrift = 2) :=
  fitTrend_lines.2.1 _ none none 2 (-1477771) 2 (by decide +kernel) nofun nofun
    ⟨738886, by decide +kernel⟩ (by unfold OnDateLine; decide +kernel)

end Forecast

end CovenantRadar
