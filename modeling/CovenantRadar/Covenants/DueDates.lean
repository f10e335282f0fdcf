import CovenantRadar.Covenants.Schedule
import CovenantRadar.Python.Timedelta

/-!
# Due dates

Source `domain/covenants/calendar.py`: which boundaries a range has, and where a due date that falls
on a weekend or a holiday is moved to. The two conventions of a calendar may point opposite ways, so
what is kept of the order of the dates is stated in the direction each is moved in.
-/

namespace CovenantRadar.Covenants

/-! ## The range of a generation -/

theorem dateOf_returns {year month day : Nat} (years : 1 ≤ year ∧ year ≤ 9999)
    (months : 1 ≤ month ∧ month ≤ 12) (days : 1 ≤ day ∧ day ≤ daysInMonth year month) :
    ∃ d, dateOf year month day = .ok d ∧ d.month = month ∧ d.day = day := by
  have valid : 1 ≤ year ∧ year ≤ 9999 ∧ 1 ≤ month ∧ month ≤ 12 ∧ 1 ≤ day ∧
      day ≤ daysInMonth year month :=
    ⟨years.1, years.2, months.1, months.2, days.1, days.2⟩
  exact ⟨⟨year, month, day, valid⟩, dif_pos valid, rfl, rfl⟩

theorem lastDayOfMonth_returns_iff {year month : Nat} (months : 1 ≤ month ∧ month ≤ 12) :
    (∃ d, lastDayOfMonth year month = .ok d) ↔ 1 ≤ year ∧ year ≤ 9999 := by
  constructor
  · rintro ⟨d, returned⟩
    obtain ⟨same, -, -⟩ := lastDayOfMonth_eq_ok months.1 months.2 returned
    have range := d.valid
    omega
  · intro years
    unfold lastDayOfMonth
    by_cases december : month = 12
    · rw [if_pos december]
      obtain ⟨d, made, -, -⟩ := @dateOf_returns year 12 31 years (by decide)
        ⟨by decide, le_refl 31⟩
      exact ⟨d, made⟩
    · rw [if_neg december]
      have first : 1 ≤ daysInMonth year (month + 1) := Date.daysInMonth_pos year (month + 1)
      obtain ⟨following, made, months', days⟩ := @dateOf_returns year (month + 1) 1 years
        (by omega) ⟨le_refl 1, first⟩
      have before : ∃ last, following.prev = some last := by
        unfold Date.prev
        rw [dif_neg (by omega), dif_pos (by omega)]
        exact ⟨_, rfl⟩
      obtain ⟨last, moved⟩ := before
      refine ⟨last, Except.bind_eq_ok_iff.mpr ⟨following, made, ?_⟩⟩
      rw [moved]

theorem endMonths_returns_iff (frequency : Text) (fiscalYearStartMonth : Int) :
    (∃ months, endMonths frequency fiscalYearStartMonth = .ok months) ↔
      frequency ∈ cycleMonths.map Prod.fst := by
  constructor
  · rintro ⟨months, returned⟩
    obtain ⟨cycle, known, -⟩ := mem_endMonths_iff returned
    exact List.mem_map_of_mem known
  · intro known
    simp only [cycleMonths, List.map_cons, List.map_nil, List.mem_cons, List.not_mem_nil,
      or_false] at known
    rcases known with rfl | rfl | rfl | rfl <;> exact ⟨_, rfl⟩

/-- Every frequency closes a period in the month before the fiscal year starts. -/
theorem exists_closingMonth {frequency : Text} {cycle : Nat}
    (known : (frequency, cycle) ∈ cycleMonths) (fiscalYearStartMonth : Int) :
    ∃ month : Nat, 1 ≤ month ∧ month ≤ 12 ∧ ClosesPeriod cycle fiscalYearStartMonth month := by
  simp only [cycleMonths, List.mem_cons, List.not_mem_nil, or_false, Prod.mk.injEq] at known
  refine ⟨((fiscalYearStartMonth - 2) % 12 + 1).toNat, by omega, by omega, ?_⟩
  unfold ClosesPeriod
  rcases known with ⟨_, rfl⟩ | ⟨_, rfl⟩ | ⟨_, rfl⟩ | ⟨_, rfl⟩ <;> omega

/-- The scan runs from the year before the range to the year after it, and raises where that leaves
    the calendar. -/
theorem periodEndDates_returns_iff (frequency : Text) (fiscalYearStartMonth : Int)
    (start finish : Date) :
    (∃ dates, periodEndDates frequency fiscalYearStartMonth start finish = .ok dates) ↔
      frequency ≠ "on_event".toList ∧ (finish ≤ start ∨
        frequency ∈ cycleMonths.map Prod.fst ∧ 2 ≤ start.year ∧ finish.year ≤ 9998) := by
  unfold periodEndDates
  by_cases event : frequency = "on_event".toList
  · rw [if_pos event]
    constructor
    · rintro ⟨dates, returned⟩
      cases returned
    · intro other
      exact absurd event other.1
  by_cases empty : finish ≤ start
  · rw [if_neg event, if_pos empty]
    exact iff_of_true ⟨[], rfl⟩ ⟨event, .inl empty⟩
  rw [if_neg event, if_neg empty, and_iff_right event, or_iff_right empty]
  have ordered : start.year ≤ finish.year := by
    rcases Date.lt_iff.mp (not_le.mp empty) with years | ⟨years, -⟩
    · exact years.le
    · exact years.le
  constructor
  · rintro ⟨dates, returned⟩
    obtain ⟨months, closing, rest⟩ := Except.bind_eq_ok_iff.mp returned
    obtain ⟨candidates, computed, -⟩ := Except.bind_eq_ok_iff.mp rest
    obtain ⟨cycle, known, closes⟩ := mem_endMonths_iff closing
    obtain ⟨month, positive, small, closed⟩ := exists_closingMonth known fiscalYearStartMonth
    have listed : month ∈ months := (closes month).mpr ⟨positive, small, closed⟩
    have scanned : ∀ year, start.year - 1 ≤ year → year < finish.year + 2 →
        1 ≤ year ∧ year ≤ 9999 := by
      intro year lower upper
      refine (lastDayOfMonth_returns_iff ⟨positive, small⟩).mp
        (mapM_returns_iff.mp ⟨candidates, computed⟩ (year, month) ?_)
      simp only [List.mem_flatMap, List.mem_map, Prod.mk.injEq, List.mem_range'_1]
      exact ⟨year, by omega, month, listed, rfl, rfl⟩
    have first := scanned (start.year - 1) (by omega) (by omega)
    have last := scanned (finish.year + 1) (by omega) (by omega)
    exact ⟨List.mem_map_of_mem known, by omega, by omega⟩
  · rintro ⟨known, first, last⟩
    obtain ⟨months, closing⟩ := (endMonths_returns_iff frequency fiscalYearStartMonth).mpr known
    obtain ⟨cycle, -, closes⟩ := mem_endMonths_iff closing
    obtain ⟨candidates, computed⟩ : ∃ candidates,
        ((List.range' (start.year - 1) (finish.year + 2 - (start.year - 1))).flatMap
          fun year => months.map fun month => (year, month)).mapM
            (fun place => lastDayOfMonth place.1 place.2) = .ok candidates := by
      refine mapM_returns_iff.mpr fun place member => ?_
      simp only [List.mem_flatMap, List.mem_map, List.mem_range'_1] at member
      obtain ⟨year, within, month, listed, rfl⟩ := member
      obtain ⟨positive, small, -⟩ := (closes month).mp listed
      exact (lastDayOfMonth_returns_iff ⟨positive, small⟩).mpr ⟨by omega, by omega⟩
    refine ⟨_, Except.bind_eq_ok_iff.mpr ⟨months, closing,
      Except.bind_eq_ok_iff.mpr ⟨candidates, computed, rfl⟩⟩⟩

theorem periodEndDates_pairwise {frequency : Text} {fiscalYearStartMonth : Int} {start finish : Date}
    {dates : List Date}
    (returned : periodEndDates frequency fiscalYearStartMonth start finish = .ok dates) :
    dates.Pairwise (· < ·) := by
  unfold periodEndDates at returned
  split_ifs at returned with event empty
  · rw [← Except.ok.inj returned]
    exact List.Pairwise.nil
  · obtain ⟨months, -, rest⟩ := Except.bind_eq_ok_iff.mp returned
    obtain ⟨candidates, -, last⟩ := Except.bind_eq_ok_iff.mp rest
    rw [← Except.ok.inj last]
    exact sortedSet_pairwise _

/-! ## Where a due date is moved to -/

/-- Which way a convention moves a date: on, back, or not at all. -/
def AdjustmentConvention.direction : AdjustmentConvention → Int
  | nextBusinessDay => 1
  | previousBusinessDay => -1
  | none => 0

/-- The convention of a date that is not a business day. -/
def conventionOf (calendar : FiscalCalendar) (day : Date) : AdjustmentConvention :=
  if calendar.holidays.contains day then calendar.holidayAdjustment else calendar.weekendAdjustment

/-- The first business day after the date. -/
def IsNextBusinessDay (calendar : FiscalCalendar) (day adjusted : Date) : Prop :=
  day < adjusted ∧ isBusinessDay adjusted calendar = true ∧
    ∀ between, day < between → between < adjusted → isBusinessDay between calendar = false

/-- The last business day before the date. -/
def IsPreviousBusinessDay (calendar : FiscalCalendar) (day adjusted : Date) : Prop :=
  adjusted < day ∧ isBusinessDay adjusted calendar = true ∧
    ∀ between, adjusted < between → between < day → isBusinessDay between calendar = false

/-- What `adjust_due_date` makes of a date. -/
inductive Adjusts (calendar : FiscalCalendar) (day : Date) : Except PyError (Date × Option Text) → Prop
  | business (business : isBusinessDay day calendar = true) :
    Adjusts calendar day (.ok (day, none))
  | kept (closed : isBusinessDay day calendar = false) (still : conventionOf calendar day = .none) :
    Adjusts calendar day (.ok (day, none))
  | next (adjusted : Date) (reason : Text) (closed : isBusinessDay day calendar = false)
    (on : conventionOf calendar day = .nextBusinessDay)
    (nearest : IsNextBusinessDay calendar day adjusted) :
    Adjusts calendar day (.ok (adjusted, some reason))
  | previous (adjusted : Date) (reason : Text) (closed : isBusinessDay day calendar = false)
    (back : conventionOf calendar day = .previousBusinessDay)
    (nearest : IsPreviousBusinessDay calendar day adjusted) :
    Adjusts calendar day (.ok (adjusted, some reason))
  | afterLast (closed : isBusinessDay day calendar = false)
    (on : conventionOf calendar day = .nextBusinessDay)
    (none : ∀ later, day < later → isBusinessDay later calendar = false) :
    Adjusts calendar day (.error (.overflowError "date value out of range"))
  | beforeFirst (closed : isBusinessDay day calendar = false)
    (back : conventionOf calendar day = .previousBusinessDay)
    (none : ∀ earlier, earlier < day → isBusinessDay earlier calendar = false) :
    Adjusts calendar day (.error (.overflowError "date value out of range"))

section

variable {calendar : FiscalCalendar} {step : Date → Option Date} {key : Date → Int} {top : Int}

/-- A search that moves one day at a time stops at the first business day. -/
theorem seekBusinessDay_nearest (injective : Function.Injective key)
    (moves : ∀ day following, step day = some following → key following = key day + 1)
    {days : Nat} {day adjusted : Date}
    (found : seekBusinessDay calendar step days day = .ok adjusted) :
    key day ≤ key adjusted ∧ isBusinessDay adjusted calendar = true ∧
      ∀ between, key day ≤ key between → key between < key adjusted →
        isBusinessDay between calendar = false := by
  induction days generalizing day with
  | zero =>
    rw [seekBusinessDay] at found
    split_ifs at found with business
    cases found
    exact ⟨le_refl _, business, fun between lower upper => absurd lower (not_le.mpr upper)⟩
  | succ days ih =>
    rw [seekBusinessDay] at found
    split_ifs at found with business
    · cases found
      exact ⟨le_refl _, business, fun between lower upper => absurd lower (not_le.mpr upper)⟩
    · cases moved : step day with
      | none =>
        rw [moved] at found
        cases found
      | some following =>
        rw [moved] at found
        obtain ⟨lower, isBusiness, closed⟩ := ih found
        have one := moves day following moved
        refine ⟨by omega, isBusiness, fun between from' upper => ?_⟩
        by_cases same : key between = key day
        · rw [injective same]
          exact Bool.not_eq_true _ ▸ business
        · exact closed between (by omega) upper

/-- A search that ends without one has seen every day to the end of the calendar. -/
theorem seekBusinessDay_none (injective : Function.Injective key)
    (moves : ∀ day following, step day = some following → key following = key day + 1)
    (ends : ∀ day, step day = none → key day = top) (within : ∀ day, key day ≤ top)
    {days : Nat} {day : Date} (enough : top - key day ≤ days) {error : PyError}
    (failed : seekBusinessDay calendar step days day = .error error) :
    error = .overflowError "date value out of range" ∧
      ∀ later, key day ≤ key later → isBusinessDay later calendar = false := by
  induction days generalizing day with
  | zero =>
    rw [seekBusinessDay] at failed
    split_ifs at failed with business
    cases failed
    refine ⟨rfl, fun later from' => ?_⟩
    have bound := within later
    have same : key later = key day := by omega
    rw [injective same]
    exact Bool.not_eq_true _ ▸ business
  | succ days ih =>
    rw [seekBusinessDay] at failed
    split_ifs at failed with business
    have closed : isBusinessDay day calendar = false := Bool.not_eq_true _ ▸ business
    cases moved : step day with
    | none =>
      rw [moved] at failed
      cases failed
      refine ⟨rfl, fun later from' => ?_⟩
      have bound := within later
      have last := ends day moved
      have same : key later = key day := by omega
      rw [injective same]
      exact closed
    | some following =>
      rw [moved] at failed
      have one := moves day following moved
      obtain ⟨overflow, none⟩ := ih (by omega) failed
      refine ⟨overflow, fun later from' => ?_⟩
      by_cases same : key later = key day
      · rw [injective same]
        exact closed
      · exact none later (by omega)

end

theorem toOrdinal_of_next_none {day : Date} (last : day.next = none) :
    (day.toOrdinal : Int) = Date.maxOrdinal := by
  have range := day.valid
  unfold Date.next at last
  split_ifs at last with inMonth inYear inRange
  have same : day = lastDay := by
    have december : day.month = 12 := by omega
    have final : day.year = 9999 := by omega
    have days : daysInMonth day.year day.month = 31 := by
      rw [december]
      rfl
    exact Date.ext final december (show day.day = 31 by omega)
  rw [same, toOrdinal_lastDay]

theorem toOrdinal_of_prev_none {day : Date} (first : day.prev = none) :
    -(day.toOrdinal : Int) = -1 := by
  have positive := (toOrdinal_bounds day).1
  by_contra later
  obtain ⟨before, moved⟩ := Date.exists_prev (show 1 < day.toOrdinal by omega)
  rw [first] at moved
  cases moved

theorem ordinal_injective : Function.Injective fun day : Date => (day.toOrdinal : Int) :=
  fun _ _ same => Date.toOrdinal_strictMono.injective (Int.natCast_inj.mp same)

theorem neg_ordinal_injective : Function.Injective fun day : Date => -(day.toOrdinal : Int) :=
  fun _ _ same => ordinal_injective (neg_injective same)

theorem ordinal_lt_iff {a b : Date} : (a.toOrdinal : Int) < b.toOrdinal ↔ a < b :=
  Int.ofNat_lt.trans Date.toOrdinal_strictMono.lt_iff_lt

theorem ordinal_le_iff {a b : Date} : (a.toOrdinal : Int) ≤ b.toOrdinal ↔ a ≤ b :=
  Int.ofNat_le.trans Date.toOrdinal_strictMono.le_iff_le

/-- Between a day and the next there is none. -/
theorem le_of_next {day following between : Date} (moved : day.next = some following)
    (later : day < between) : following ≤ between := by
  have one := Date.toOrdinal_next moved
  have less := Date.toOrdinal_strictMono later
  exact Date.toOrdinal_strictMono.le_iff_le.mp (by omega)

theorem le_of_prev {day before between : Date} (moved : day.prev = some before)
    (earlier : between < day) : between ≤ before := by
  have one := Date.toOrdinal_prev moved
  have less := Date.toOrdinal_strictMono earlier
  exact Date.toOrdinal_strictMono.le_iff_le.mp (by omega)

/-- The search on the days after. -/
theorem seek_next {calendar : FiscalCalendar} {day following : Date}
    (moved : day.next = some following) :
    (∀ adjusted, seekBusinessDay calendar Date.next Date.maxOrdinal following = .ok adjusted →
        IsNextBusinessDay calendar day adjusted) ∧
      ∀ error, seekBusinessDay calendar Date.next Date.maxOrdinal following = .error error →
        error = .overflowError "date value out of range" ∧
          ∀ later, day < later → isBusinessDay later calendar = false := by
  have moves : ∀ day following : Date, day.next = some following →
      (following.toOrdinal : Int) = day.toOrdinal + 1 := fun day following moved => by
    have one := Date.toOrdinal_next moved
    omega
  have on : day < following := by
    have one := Date.toOrdinal_next moved
    exact Date.toOrdinal_strictMono.lt_iff_lt.mp (by omega)
  constructor
  · intro adjusted found
    obtain ⟨lower, business, closed⟩ := seekBusinessDay_nearest ordinal_injective moves found
    refine ⟨lt_of_lt_of_le on (ordinal_le_iff.mp lower), business, fun between after before => ?_⟩
    exact closed between (ordinal_le_iff.mpr (le_of_next moved after)) (ordinal_lt_iff.mpr before)
  · intro error found
    have within : ∀ day : Date, (day.toOrdinal : Int) ≤ Date.maxOrdinal := fun day => by
      have range := toOrdinal_bounds day
      omega
    obtain ⟨overflow, none⟩ := seekBusinessDay_none ordinal_injective moves
      (fun day last => toOrdinal_of_next_none last) within
      (by have range := toOrdinal_bounds following; omega) found
    exact ⟨overflow, fun later after => none later (ordinal_le_iff.mpr (le_of_next moved after))⟩

/-- The search on the days before. -/
theorem seek_prev {calendar : FiscalCalendar} {day before : Date}
    (moved : day.prev = some before) :
    (∀ adjusted, seekBusinessDay calendar Date.prev Date.maxOrdinal before = .ok adjusted →
        IsPreviousBusinessDay calendar day adjusted) ∧
      ∀ error, seekBusinessDay calendar Date.prev Date.maxOrdinal before = .error error →
        error = .overflowError "date value out of range" ∧
          ∀ earlier, earlier < day → isBusinessDay earlier calendar = false := by
  have moves : ∀ day before : Date, day.prev = some before →
      -(before.toOrdinal : Int) = -(day.toOrdinal : Int) + 1 := fun day before moved => by
    have one := Date.toOrdinal_prev moved
    omega
  have back : before < day := by
    have one := Date.toOrdinal_prev moved
    exact Date.toOrdinal_strictMono.lt_iff_lt.mp (by omega)
  constructor
  · intro adjusted found
    obtain ⟨lower, business, closed⟩ := seekBusinessDay_nearest neg_ordinal_injective moves found
    have upper : adjusted ≤ before := ordinal_le_iff.mp (neg_le_neg_iff.mp lower)
    refine ⟨lt_of_le_of_lt upper back, business, fun between after earlier => ?_⟩
    exact closed between (neg_le_neg (ordinal_le_iff.mpr (le_of_prev moved earlier)))
      (neg_lt_neg (ordinal_lt_iff.mpr after))
  · intro error found
    have within : ∀ day : Date, -(day.toOrdinal : Int) ≤ -1 := fun day => by
      have range := toOrdinal_bounds day
      omega
    obtain ⟨overflow, none⟩ := seekBusinessDay_none neg_ordinal_injective moves
      (fun day first => toOrdinal_of_prev_none first) within
      (by have range := toOrdinal_bounds before; omega) found
    exact ⟨overflow, fun earlier sooner =>
      none earlier (neg_le_neg (ordinal_le_iff.mpr (le_of_prev moved sooner)))⟩

theorem adjustDueDate_adjusts (day : Date) (calendar : FiscalCalendar) :
    Adjusts calendar day (adjustDueDate day calendar) := by
  unfold adjustDueDate
  cases business : isBusinessDay day calendar with
  | true =>
    rw [if_pos rfl]
    exact .business business
  | false =>
    rw [if_neg Bool.false_ne_true]
    have convention : (if calendar.holidays.contains day then calendar.holidayAdjustment
      else calendar.weekendAdjustment) = conventionOf calendar day := rfl
    simp only [convention]
    cases chosen : conventionOf calendar day with
    | none =>
      rw [if_pos rfl]
      exact .kept business chosen
    | nextBusinessDay =>
      rw [if_neg (by decide)]
      simp only [if_true]
      cases moved : day.next with
      | none =>
        refine .afterLast business chosen fun later after => ?_
        have range := toOrdinal_bounds later
        have last := toOrdinal_of_next_none moved
        have less := ordinal_lt_iff.mpr after
        omega
      | some following =>
        obtain ⟨nearest, none⟩ := @seek_next calendar _ _ moved
        simp only
        cases found : seekBusinessDay calendar Date.next Date.maxOrdinal following with
        | ok adjusted => exact .next adjusted _ business chosen (nearest adjusted found)
        | error error =>
          obtain ⟨rfl, closed⟩ := none error found
          exact .afterLast business chosen closed
    | previousBusinessDay =>
      rw [if_neg (by decide)]
      simp only [reduceCtorEq, if_false]
      cases moved : day.prev with
      | none =>
        refine .beforeFirst business chosen fun earlier before => ?_
        have range := toOrdinal_bounds earlier
        have first := toOrdinal_of_prev_none moved
        have less := ordinal_lt_iff.mpr before
        omega
      | some before =>
        obtain ⟨nearest, none⟩ := @seek_prev calendar _ _ moved
        simp only
        cases found : seekBusinessDay calendar Date.prev Date.maxOrdinal before with
        | ok adjusted => exact .previous adjusted _ business chosen (nearest adjusted found)
        | error error =>
          obtain ⟨rfl, closed⟩ := none error found
          exact .beforeFirst business chosen closed

/-! ## The order of due dates -/

section

variable {calendar : FiscalCalendar} {day adjusted : Date} {reason : Option Text}

/-- A date is not moved past a business day. -/
theorem Adjusts.le_of_business (adjusts : Adjusts calendar day (.ok (adjusted, reason)))
    {business : Date} (isBusiness : isBusinessDay business calendar = true) :
    (day ≤ business → adjusted ≤ business) ∧ (business ≤ day → business ≤ adjusted) := by
  cases adjusts with
  | business _ => exact ⟨id, id⟩
  | kept _ _ => exact ⟨id, id⟩
  | next _ _ closed _ nearest =>
    refine ⟨fun later => ?_, fun earlier => earlier.trans nearest.1.le⟩
    have apart : day ≠ business := fun same => by
      rw [same, isBusiness] at closed
      cases closed
    by_contra before
    have gap := nearest.2.2 business (lt_of_le_of_ne later apart) (not_le.mp before)
    rw [isBusiness] at gap
    cases gap
  | previous _ _ closed _ nearest =>
    refine ⟨fun later => nearest.1.le.trans later, fun earlier => ?_⟩
    have apart : business ≠ day := fun same => by
      rw [← same, isBusiness] at closed
      cases closed
    by_contra after
    have gap := nearest.2.2 business (not_le.mp after) (lt_of_le_of_ne earlier apart)
    rw [isBusiness] at gap
    cases gap

end

/-- A date that is not a business day goes where the convention points. -/
theorem Adjusts.of_closed {calendar : FiscalCalendar} {day adjusted : Date} {reason : Option Text}
    (adjusts : Adjusts calendar day (.ok (adjusted, reason)))
    (closed : isBusinessDay day calendar = false) :
    ((conventionOf calendar day).direction = 0 ∧ adjusted = day) ∨
      ((conventionOf calendar day).direction = 1 ∧ day < adjusted ∧
        isBusinessDay adjusted calendar = true) ∨
      (conventionOf calendar day).direction = -1 ∧ adjusted < day ∧
        isBusinessDay adjusted calendar = true := by
  cases adjusts with
  | business business =>
    rw [closed] at business
    cases business
  | kept _ still =>
    rw [still]
    exact .inl ⟨rfl, rfl⟩
  | next _ _ _ on nearest =>
    rw [on]
    exact .inr (.inl ⟨rfl, nearest.1, nearest.2.1⟩)
  | previous _ _ _ back nearest =>
    rw [back]
    exact .inr (.inr ⟨rfl, nearest.1, nearest.2.1⟩)

/-- Two due dates change places exactly where no business day lies between their boundaries and the
    conventions move the first further on than the second. -/
theorem adjusted_lt_iff {calendar : FiscalCalendar} {day later adjusted adjusted' : Date}
    {reason reason' : Option Text} (before : day < later)
    (adjusts : Adjusts calendar day (.ok (adjusted, reason)))
    (adjusts' : Adjusts calendar later (.ok (adjusted', reason'))) :
    adjusted' < adjusted ↔
      (∀ between, day ≤ between → between ≤ later → isBusinessDay between calendar = false) ∧
        (conventionOf calendar later).direction < (conventionOf calendar day).direction := by
  by_cases gap : ∀ between, day ≤ between → between ≤ later → isBusinessDay between calendar = false
  · rw [and_iff_right gap]
    have outside : ∀ {business : Date}, isBusinessDay business calendar = true →
        (day ≤ business → later < business) ∧ (business ≤ later → business < day) := by
      intro business isBusiness
      constructor
      · intro from'
        by_contra upTo
        exact absurd isBusiness (by rw [gap business from' (not_lt.mp upTo)]; decide)
      · intro upTo
        by_contra from'
        exact absurd isBusiness (by rw [gap business (not_lt.mp from') upTo]; decide)
    have first := adjusts.of_closed (gap day (le_refl _) before.le)
    have second := adjusts'.of_closed (gap later before.le (le_refl _))
    rcases first with ⟨still, rfl⟩ | ⟨on, after, business⟩ | ⟨back, less, business⟩
    · rcases second with ⟨still', rfl⟩ | ⟨on', after', -⟩ | ⟨back', less', business'⟩
      · rw [still, still']
        exact iff_of_false (not_lt.mpr before.le) (lt_irrefl _)
      · rw [still, on']
        exact iff_of_false (not_lt.mpr (before.trans after').le) (by decide)
      · rw [still, back']
        exact iff_of_true ((outside business').2 less'.le) (by decide)
    · have beyond := (outside business).1 after.le
      rcases second with ⟨still', rfl⟩ | ⟨on', after', business'⟩ | ⟨back', less', -⟩
      · rw [on, still']
        exact iff_of_true beyond (by decide)
      · rw [on, on']
        exact iff_of_false
          (not_lt.mpr ((adjusts.le_of_business business').1 (before.trans after').le)) (lt_irrefl _)
      · rw [on, back']
        exact iff_of_true (less'.trans beyond) (by decide)
    · have ahead := less.trans before
      rcases second with ⟨still', rfl⟩ | ⟨on', after', -⟩ | ⟨back', -, -⟩
      · rw [back, still']
        exact iff_of_false (not_lt.mpr ahead.le) (by decide)
      · rw [back, on']
        exact iff_of_false (not_lt.mpr (ahead.trans after').le) (by decide)
      · rw [back, back']
        exact iff_of_false (not_lt.mpr ((adjusts'.le_of_business business).2 ahead.le))
          (lt_irrefl _)
  · refine iff_of_false ?_ fun both => gap both.1
    push Not at gap
    obtain ⟨between, from', upTo, business⟩ := gap
    have isBusiness : isBusinessDay between calendar = true := Bool.not_eq_false _ ▸ business
    exact not_lt.mpr (((adjusts.le_of_business isBusiness).1 from').trans
      ((adjusts'.le_of_business isBusiness).2 upTo))

/-- The boundaries of a range are the ends of its fiscal periods, a period apart; a due date stays
    where it is on a business day or by convention, and otherwise moves to the nearest business day
    in the direction of its convention; the order of two due dates turns exactly where the
    conventions of two dates in one gap of business days cross. -/
theorem calendar_dates (frequency : Text) (fiscalYearStartMonth : Int) (start finish : Date)
    (calendar : FiscalCalendar) :
    ((∃ dates, periodEndDates frequency fiscalYearStartMonth start finish = .ok dates) ↔
        frequency ≠ "on_event".toList ∧ (finish ≤ start ∨
          frequency ∈ cycleMonths.map Prod.fst ∧ 2 ≤ start.year ∧ finish.year ≤ 9998)) ∧
      (∀ dates, periodEndDates frequency fiscalYearStartMonth start finish = .ok dates →
        dates.Pairwise (· < ·) ∧
          (∀ cycle, (frequency, cycle) ∈ cycleMonths →
            (∀ day, day ∈ dates ↔ start ≤ day ∧ day < finish ∧ day.IsMonthEnd ∧
              ClosesPeriod cycle fiscalYearStartMonth day.month) ∧
            ∀ front before after back, dates = front ++ before :: after :: back →
              after.monthIndex = before.monthIndex + cycle)) ∧
      (∀ day, Adjusts calendar day (adjustDueDate day calendar)) ∧
      ∀ day later adjusted adjusted' reason reason', day < later →
        adjustDueDate day calendar = .ok (adjusted, reason) →
        adjustDueDate later calendar = .ok (adjusted', reason') →
        (adjusted' < adjusted ↔
          (∀ between, day ≤ between → between ≤ later → isBusinessDay between calendar = false) ∧
            (conventionOf calendar later).direction < (conventionOf calendar day).direction) := by
  refine ⟨periodEndDates_returns_iff _ _ _ _, fun dates returned => ?_,
    fun day => adjustDueDate_adjusts day calendar, ?_⟩
  · refine ⟨periodEndDates_pairwise returned, fun cycle known => ⟨fun day => ?_, ?_⟩⟩
    · by_cases nonempty : start < finish
      · obtain ⟨other, known', listed⟩ := mem_periodEndDates_iff returned nonempty
        rw [cycleMonths_unique known known']
        exact listed day
      · have none := (not_lt.mp nonempty)
        unfold periodEndDates at returned
        split_ifs at returned
        rw [← Except.ok.inj returned]
        refine iff_of_false List.not_mem_nil fun inside => ?_
        exact nonempty (lt_of_le_of_lt inside.1 inside.2.1)
    · rintro front before after back rfl
      obtain ⟨other, known', -, -, apart, -⟩ := periodEndDates_consecutive returned
      rw [cycleMonths_unique known known']
      exact apart
  · intro day later adjusted adjusted' reason reason' before moved moved'
    exact adjusted_lt_iff before (moved ▸ adjustDueDate_adjusts day calendar)
      (moved' ▸ adjustDueDate_adjusts later calendar)

theorem bridge_valid : (1 ≤ 2027 ∧ 2027 ≤ 9999 ∧ 1 ≤ 4 ∧ 4 ≤ 12 ∧ 1 ≤ 30 ∧
    30 ≤ daysInMonth 2027 4) ∧ 1 ≤ 2027 ∧ 2027 ≤ 9999 ∧ 1 ≤ 5 ∧ 5 ≤ 12 ∧ 1 ≤ 1 ∧
      1 ≤ daysInMonth 2027 5 := by decide

/-- Friday 30 April 2027, a holiday in this calendar. -/
def bridgeDay : Date := ⟨2027, 4, 30, bridge_valid.1⟩

/-- Saturday 1 May 2027. -/
def firstOfMay : Date := ⟨2027, 5, 1, bridge_valid.2⟩

/-- Weekends are moved back, holidays on. -/
def crossingCalendar : FiscalCalendar :=
  ⟨4, .previousBusinessDay, .nextBusinessDay, [bridgeDay], april_month⟩

/-- Weekends stay. -/
def stillCalendar : FiscalCalendar := ⟨4, .none, .none, [], april_month⟩

/-- The day a due date is moved to. -/
def dueDay (day : Date) (calendar : FiscalCalendar) : Option Date :=
  (adjustDueDate day calendar).toOption.map Prod.fst

theorem dueDay_eq_some {day adjusted : Date} {calendar : FiscalCalendar}
    (due : dueDay day calendar = some adjusted) :
    ∃ reason, adjustDueDate day calendar = .ok (adjusted, reason) := by
  unfold dueDay at due
  cases moved : adjustDueDate day calendar with
  | error error =>
    rw [moved] at due
    cases due
  | ok result =>
    rw [moved] at due
    exact ⟨result.2, congrArg Except.ok (Prod.ext (Option.some.inj due) rfl)⟩

theorem dueDays :
    (dueDay firstOfMay stillCalendar = some firstOfMay ∧
        isBusinessDay firstOfMay stillCalendar = false) ∧
      ((dueDay bridgeDay crossingCalendar).any fun adjusted =>
        (dueDay firstOfMay crossingCalendar).any fun adjusted' => decide (adjusted' < adjusted)) =
          true := by
  decide

/-- Neither does an adjustment always end on a business day, nor does it keep the order: a Saturday
    stays where weekends do, and a Friday that is a holiday is moved past the Saturday after it, which
    is moved back before it. -/
theorem dueDates_closed_and_crossed :
    (¬ ∀ (calendar : FiscalCalendar) (day adjusted : Date) (reason : Option Text),
        adjustDueDate day calendar = .ok (adjusted, reason) →
          isBusinessDay adjusted calendar = true) ∧
      ¬ ∀ (calendar : FiscalCalendar) (day later adjusted adjusted' : Date)
          (reason reason' : Option Text), day < later →
        adjustDueDate day calendar = .ok (adjusted, reason) →
        adjustDueDate later calendar = .ok (adjusted', reason') → adjusted ≤ adjusted' := by
  constructor
  · intro claimed
    obtain ⟨reason, moved⟩ := dueDay_eq_some dueDays.1.1
    have open' := claimed stillCalendar firstOfMay firstOfMay reason moved
    rw [dueDays.1.2] at open'
    cases open'
  · intro claimed
    obtain ⟨adjusted, due, rest⟩ := (Option.any_eq_true _ _).mp dueDays.2
    obtain ⟨adjusted', due', crossed⟩ := (Option.any_eq_true _ _).mp rest
    obtain ⟨reason, moved⟩ := dueDay_eq_some due
    obtain ⟨reason', moved'⟩ := dueDay_eq_some due'
    have ordered := claimed crossingCalendar bridgeDay firstOfMay adjusted adjusted' reason reason'
      (by decide) moved moved'
    exact absurd (of_decide_eq_true crossed) (not_lt.mpr ordered)

end CovenantRadar.Covenants
