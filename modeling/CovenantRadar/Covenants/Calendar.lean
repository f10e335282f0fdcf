import CovenantRadar.Python.Calendar
import CovenantRadar.Misc.Loop
import CovenantRadar.Misc.Select

/-!
# The testing calendar

Source `domain/covenants/calendar.py`: the period boundaries of a testing frequency,
aligned to the month the fiscal year starts in. Every frequency tests at month ends a
fixed number of months apart.
-/

namespace CovenantRadar.Covenants

/-- Source `_FREQUENCY_MONTH_OFFSETS`. -/
def frequencyMonthOffsets : List (Text × List Nat) :=
  [("monthly".toList, List.range 12), ("quarterly".toList, [2, 5, 8, 11]),
    ("half_yearly".toList, [5, 11]), ("annual".toList, [11])]

/-- `date(year, month, day)`. -/
def dateOf (year month day : Nat) : Except PyError Date :=
  if valid : 1 ≤ year ∧ year ≤ 9999 ∧ 1 ≤ month ∧ month ≤ 12 ∧ 1 ≤ day ∧
      day ≤ daysInMonth year month then
    .ok ⟨year, month, day, valid⟩
  else if ¬ (1 ≤ year ∧ year ≤ 9999) then
    .error (.valueError ("year " ++ toString year ++ " is out of range"))
  else if ¬ (1 ≤ month ∧ month ≤ 12) then .error (.valueError "month must be in 1..12")
  else .error (.valueError "day is out of range for month")

/-- Source `_last_day_of_month`. -/
def lastDayOfMonth (year month : Nat) : Except PyError Date :=
  if month = 12 then dateOf year 12 31
  else do
    let following ← dateOf year (month + 1) 1
    match following.prev with
    | some last => .ok last
    | none => .error (.overflowError "date value out of range")

/-- Source `_end_months`. -/
def endMonths (frequency : Text) (fiscalYearStartMonth : Int) : Except PyError (List Nat) :=
  match dictGet frequencyMonthOffsets frequency with
  | none => .error (.valueError ("Unsupported testing frequency " ++
      String.ofList (Text.repr frequency) ++ " for calendar generation."))
  | some offsets =>
    .ok (sortedSet (offsets.map fun offset : Nat =>
      ((fiscalYearStartMonth - 1 + offset) % 12 + 1).toNat))

/-- Source `period_end_dates`. -/
def periodEndDates (frequency : Text) (fiscalYearStartMonth : Int) (start finish : Date) :
    Except PyError (List Date) :=
  if frequency = "on_event".toList then
    .error (.valueError "on_event covenants have no calendar boundaries to generate.")
  else if finish ≤ start then .ok []
  else do
    let months ← endMonths frequency fiscalYearStartMonth
    let years := List.range' (start.year - 1) (finish.year + 2 - (start.year - 1))
    let candidates ← (years.flatMap fun year => months.map fun month => (year, month)).mapM
      fun place => lastDayOfMonth place.1 place.2
    .ok (sortedSet (candidates.filter fun candidate => start ≤ candidate ∧ candidate < finish))

/-! ## What the boundaries are -/

theorem dateOf_eq_ok_iff {year month day : Nat} {d : Date} :
    dateOf year month day = .ok d ↔ d.year = year ∧ d.month = month ∧ d.day = day := by
  unfold dateOf
  constructor
  · intro returned
    split_ifs at returned
    cases returned
    exact ⟨rfl, rfl, rfl⟩
  · rintro ⟨rfl, rfl, rfl⟩
    rw [dif_pos d.valid]

/-- The last day of a month is the end of that month. -/
theorem lastDayOfMonth_eq_ok {year month : Nat} {d : Date} (positive : 1 ≤ month) (small : month ≤ 12)
    (returned : lastDayOfMonth year month = .ok d) :
    d.year = year ∧ d.month = month ∧ d.IsMonthEnd := by
  unfold lastDayOfMonth at returned
  by_cases december : month = 12
  · rw [if_pos december] at returned
    obtain ⟨years, months, days⟩ := dateOf_eq_ok_iff.mp returned
    refine ⟨years, months.trans december.symm, ?_⟩
    rw [Date.IsMonthEnd, months, days]
    simp [daysInMonth]
  · rw [if_neg december] at returned
    obtain ⟨following, first, rest⟩ := Except.bind_eq_ok_iff.mp returned
    obtain ⟨years, months, days⟩ := dateOf_eq_ok_iff.mp first
    cases before : following.prev with
    | none =>
      rw [before] at rest
      cases rest
    | some last =>
      rw [before] at rest
      cases rest
      unfold Date.prev at before
      rw [dif_neg (by omega), dif_pos (by omega)] at before
      cases before
      refine ⟨years, ?_, rfl⟩
      show following.month - 1 = month
      omega

/-- Months from one boundary to the next. -/
def cycleMonths : List (Text × Nat) :=
  [("monthly".toList, 1), ("quarterly".toList, 3), ("half_yearly".toList, 6),
    ("annual".toList, 12)]

/-- The month closes a period of `cycle` months in fiscal years that start in this month. -/
def ClosesPeriod (cycle : Nat) (fiscalYearStartMonth : Int) (month : Int) : Prop :=
  (month - fiscalYearStartMonth) % cycle = cycle - 1

theorem mem_endMonths_iff {frequency : Text} {fiscalYearStartMonth : Int} {months : List Nat}
    (returned : endMonths frequency fiscalYearStartMonth = .ok months) :
    ∃ cycle, (frequency, cycle) ∈ cycleMonths ∧ ∀ month : Nat, month ∈ months ↔
      1 ≤ month ∧ month ≤ 12 ∧ ClosesPeriod cycle fiscalYearStartMonth month := by
  unfold endMonths at returned
  cases found : dictGet frequencyMonthOffsets frequency with
  | none =>
    rw [found] at returned
    cases returned
  | some offsets =>
    rw [found] at returned
    cases returned
    have listed := mem_of_dictGet found
    simp only [frequencyMonthOffsets, List.mem_cons, List.not_mem_nil, or_false,
      Prod.mk.injEq] at listed
    -- each frequency's offsets are one less than the multiples of its cycle
    rcases listed with ⟨rfl, rfl⟩ | ⟨rfl, rfl⟩ | ⟨rfl, rfl⟩ | ⟨rfl, rfl⟩
    · refine ⟨1, by decide, fun month => ?_⟩
      simp only [mem_sortedSet, List.mem_map, List.mem_range, ClosesPeriod]
      constructor
      · rintro ⟨offset, small, rfl⟩
        omega
      · intro closed
        exact ⟨(((month : Int) - fiscalYearStartMonth) % 12).toNat, by omega, by omega⟩
    · refine ⟨3, by decide, fun month => ?_⟩
      simp only [mem_sortedSet, List.map_cons, List.map_nil, List.mem_cons, List.not_mem_nil,
        or_false, ClosesPeriod]
      omega
    · refine ⟨6, by decide, fun month => ?_⟩
      simp only [mem_sortedSet, List.map_cons, List.map_nil, List.mem_cons, List.not_mem_nil,
        or_false, ClosesPeriod]
      omega
    · refine ⟨12, by decide, fun month => ?_⟩
      simp only [mem_sortedSet, List.map_cons, List.map_nil, List.mem_cons, List.not_mem_nil,
        or_false, ClosesPeriod]
      omega

/-- The boundaries in a range are the month ends in it that close a period. -/
theorem mem_periodEndDates_iff {frequency : Text} {fiscalYearStartMonth : Int} {start finish : Date}
    {dates : List Date}
    (returned : periodEndDates frequency fiscalYearStartMonth start finish = .ok dates)
    (nonempty : start < finish) :
    ∃ cycle, (frequency, cycle) ∈ cycleMonths ∧ ∀ d, d ∈ dates ↔
      start ≤ d ∧ d < finish ∧ d.IsMonthEnd ∧
        ClosesPeriod cycle fiscalYearStartMonth d.month := by
  unfold periodEndDates at returned
  split_ifs at returned with event empty
  · exact absurd nonempty (not_lt.mpr empty)
  · obtain ⟨months, closing, rest⟩ := Except.bind_eq_ok_iff.mp returned
    obtain ⟨candidates, computed, last⟩ := Except.bind_eq_ok_iff.mp rest
    cases last
    obtain ⟨cycle, known, closes⟩ := mem_endMonths_iff closing
    have pairs := forall₂_exists (mapM_eq_ok_iff.mp computed)
    refine ⟨cycle, known, fun d => ?_⟩
    rw [mem_sortedSet, List.mem_filter, decide_eq_true_iff]
    constructor
    · intro ⟨member, inside⟩
      obtain ⟨⟨year, month⟩, place, ended⟩ := pairs.2 d member
      simp only [List.mem_flatMap, List.mem_map, Prod.mk.injEq] at place
      obtain ⟨_, _, month, listed, rfl, rfl⟩ := place
      obtain ⟨positive, small, closed⟩ := (closes month).mp listed
      obtain ⟨_, months, last⟩ := lastDayOfMonth_eq_ok positive small ended
      exact ⟨inside.1, inside.2, last, months ▸ closed⟩
    · intro ⟨lower, upper, last, closed⟩
      have range := d.valid
      have listed : d.month ∈ months := (closes d.month).mpr ⟨range.2.2.1, range.2.2.2.1, closed⟩
      have first : start.year ≤ d.year := by
        rcases lower.eq_or_lt with same | less
        · exact same ▸ le_refl _
        · rcases Date.lt_iff.mp less with years | ⟨years, _⟩ <;> omega
      have final : d.year ≤ finish.year := by
        rcases Date.lt_iff.mp upper with years | ⟨years, _⟩ <;> omega
      have place : (d.year, d.month) ∈ (List.range' (start.year - 1)
          (finish.year + 2 - (start.year - 1))).flatMap
            fun year => months.map fun month => (year, month) := by
        simp only [List.mem_flatMap, List.mem_map, Prod.mk.injEq, List.mem_range'_1]
        exact ⟨d.year, by omega, d.month, listed, rfl, rfl⟩
      obtain ⟨other, member, ended⟩ := pairs.1 _ place
      obtain ⟨years, months, lastOther⟩ := lastDayOfMonth_eq_ok range.2.2.1 range.2.2.2.1 ended
      have same : other = d := Date.ext years months (by rw [lastOther, last, years, months])
      exact ⟨same ▸ member, lower, upper⟩

/-- Closing a period only depends on the month's index. -/
theorem closesPeriod_index {frequency : Text} {cycle : Nat} (known : (frequency, cycle) ∈ cycleMonths)
    (fiscalYearStartMonth : Int) (d : Date) :
    ClosesPeriod cycle fiscalYearStartMonth d.month ↔
      ClosesPeriod cycle fiscalYearStartMonth (d.monthIndex + 1 : Nat) := by
  have range := d.valid
  simp only [cycleMonths, List.mem_cons, List.not_mem_nil, or_false, Prod.mk.injEq] at known
  unfold ClosesPeriod Date.monthIndex
  rcases known with ⟨_, rfl⟩ | ⟨_, rfl⟩ | ⟨_, rfl⟩ | ⟨_, rfl⟩ <;> omega

/-- Successive boundaries are ends of months one cycle apart. -/
theorem periodEndDates_consecutive {frequency : Text} {fiscalYearStartMonth : Int}
    {start finish before after : Date} {front back : List Date}
    (returned : periodEndDates frequency fiscalYearStartMonth start finish =
      .ok (front ++ before :: after :: back)) :
    ∃ cycle, (frequency, cycle) ∈ cycleMonths ∧ before.IsMonthEnd ∧ after.IsMonthEnd ∧
      after.monthIndex = before.monthIndex + cycle ∧
        ClosesPeriod cycle fiscalYearStartMonth after.month := by
  have nonempty : start < finish := by
    by_contra empty
    unfold periodEndDates at returned
    rw [if_pos (not_lt.mp empty)] at returned
    split_ifs at returned
    have lengths := congrArg List.length (Except.ok.inj returned)
    simp at lengths
  obtain ⟨cycle, known, boundary⟩ := mem_periodEndDates_iff returned nonempty
  have increasing : (front ++ before :: after :: back).Pairwise (· < ·) := by
    unfold periodEndDates at returned
    split_ifs at returned with event empty
    · exact absurd nonempty (not_lt.mpr empty)
    · obtain ⟨months, _, rest⟩ := Except.bind_eq_ok_iff.mp returned
      obtain ⟨candidates, _, last⟩ := Except.bind_eq_ok_iff.mp rest
      rw [← Except.ok.inj last]
      exact sortedSet_pairwise _
  have tail := (List.pairwise_append.mp increasing).2.1
  have ascending : before < after := List.rel_of_pairwise_cons tail List.mem_cons_self
  obtain ⟨lower, _, endBefore, closesBefore⟩ := (boundary before).mp (by simp)
  obtain ⟨_, upper, endAfter, closesAfter⟩ := (boundary after).mp (by simp)
  have months := (Date.lt_iff_monthIndex endBefore endAfter).mp ascending
  have atBefore := (closesPeriod_index known _ _).mp closesBefore
  have atAfter := (closesPeriod_index known _ _).mp closesAfter
  -- one cycle on there is a boundary again, and none in between
  have step : before.monthIndex + cycle ≤ after.monthIndex ∧
      ClosesPeriod cycle fiscalYearStartMonth (before.monthIndex + cycle + 1 : Nat) := by
    simp only [cycleMonths, List.mem_cons, List.not_mem_nil, or_false, Prod.mk.injEq] at known
    unfold ClosesPeriod at *
    rcases known with ⟨_, rfl⟩ | ⟨_, rfl⟩ | ⟨_, rfl⟩ | ⟨_, rfl⟩ <;> omega
  refine ⟨cycle, known, endBefore, endAfter, ?_, closesAfter⟩
  by_contra apart
  have first := before.monthIndex_bounds
  have last := after.monthIndex_bounds
  have ended := Date.monthEnd_isMonthEnd (show 12 ≤ before.monthIndex + cycle by omega) (by omega)
  have index := Date.monthIndex_monthEnd (show 12 ≤ before.monthIndex + cycle by omega) (by omega)
  generalize Date.monthEnd (before.monthIndex + cycle) _ _ = between at ended index
  have positive : 0 < cycle := by
    simp only [cycleMonths, List.mem_cons, List.not_mem_nil, or_false, Prod.mk.injEq] at known
    omega
  have afterBefore : before < between := (Date.lt_iff_monthIndex endBefore ended).mpr (by omega)
  have beforeAfter : between < after := (Date.lt_iff_monthIndex ended endAfter).mpr (by omega)
  have closes : ClosesPeriod cycle fiscalYearStartMonth between.month := by
    rw [closesPeriod_index known, index]
    exact step.2
  have member := (boundary between).mpr
    ⟨le_trans lower (le_of_lt afterBefore), lt_trans beforeAfter upper, ended, closes⟩
  rcases List.mem_append.mp member with early | late
  · have less := (List.pairwise_append.mp increasing).2.2 between early before List.mem_cons_self
    exact lt_asymm less afterBefore
  · rcases List.mem_cons.mp late with rfl | later
    · exact lt_irrefl _ afterBefore
    · rcases List.mem_cons.mp later with rfl | rest
      · exact lt_irrefl _ beforeAfter
      · have less := List.rel_of_pairwise_cons (List.pairwise_cons.mp tail).2 rest
        exact lt_asymm less beforeAfter

end CovenantRadar.Covenants
