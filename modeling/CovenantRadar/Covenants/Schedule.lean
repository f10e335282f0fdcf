import CovenantRadar.Covenants.Calendar
import Mathlib

/-!
# Occurrences of the testing calendar

Source `domain/covenants/calendar.py`: the occurrences of a covenant version, each a period end
with a due date moved off weekends and holidays, and the states of their `covenant_schedule` rows.
An amendment retires the open rows of the old version by due date, and the new version's
occurrences start at its effective date by period end.
-/

namespace CovenantRadar.Covenants

/-- Source `_VALID_FREQUENCIES`. -/
def validFrequencies : List Text :=
  ["monthly".toList, "quarterly".toList, "half_yearly".toList, "annual".toList, "on_event".toList]

/-- Source `AdjustmentConvention`. -/
inductive AdjustmentConvention where
  | nextBusinessDay
  | previousBusinessDay
  | none
  deriving DecidableEq, Repr

def AdjustmentConvention.value : AdjustmentConvention → String
  | nextBusinessDay => "next_business_day"
  | previousBusinessDay => "previous_business_day"
  | none => "none"

/-- Source `ScheduleState`. -/
inductive ScheduleState where
  | due
  | tested
  | missed
  | notApplicable
  deriving DecidableEq, Repr

/-- Source `_OPEN_SCHEDULE_STATES`. -/
def ScheduleState.IsOpen (state : ScheduleState) : Prop := state = .due ∨ state = .missed

instance (state : ScheduleState) : Decidable state.IsOpen :=
  inferInstanceAs (Decidable (state = .due ∨ state = .missed))

/-- Source `FiscalCalendar`, with its check. -/
structure FiscalCalendar where
  fiscalYearStartMonth : Nat
  weekendAdjustment : AdjustmentConvention
  holidayAdjustment : AdjustmentConvention
  holidays : List Date
  month : 1 ≤ fiscalYearStartMonth ∧ fiscalYearStartMonth ≤ 12

/-- Source `ScheduleOccurrence`. -/
structure ScheduleOccurrence where
  periodEnd : Date
  dueDate : Date
  adjustmentReason : Option Text
  deriving DecidableEq

/-- `date.weekday()`: Monday is 0. -/
def weekday (day : Date) : Nat := (day.toOrdinal + 6) % 7

/-- Source `is_business_day`. -/
def isBusinessDay (day : Date) (calendar : FiscalCalendar) : Bool :=
  if weekday day = 5 ∨ weekday day = 6 then false else !calendar.holidays.contains day

/-- The loop of `adjust_due_date`, with `days` more days to the end of the calendar. -/
def seekBusinessDay (calendar : FiscalCalendar) (step : Date → Option Date) :
    Nat → Date → Except PyError Date
  | 0, day =>
    if isBusinessDay day calendar then .ok day else .error (.overflowError "date value out of range")
  | days + 1, day =>
    if isBusinessDay day calendar then .ok day
    else
      match step day with
      | none => .error (.overflowError "date value out of range")
      | some adjusted => seekBusinessDay calendar step days adjusted

/-- Source `adjust_due_date`. -/
def adjustDueDate (rawDueDate : Date) (calendar : FiscalCalendar) :
    Except PyError (Date × Option Text) :=
  if isBusinessDay rawDueDate calendar then .ok (rawDueDate, none)
  else
    let isHoliday := calendar.holidays.contains rawDueDate
    let convention := if isHoliday then calendar.holidayAdjustment else calendar.weekendAdjustment
    if convention = .none then .ok (rawDueDate, none)
    else
      let step := if convention = .nextBusinessDay then Date.next else Date.prev
      match step rawDueDate with
      | none => .error (.overflowError "date value out of range")
      | some following => do
        let adjusted ← seekBusinessDay calendar step Date.maxOrdinal following
        let reasonKind := if isHoliday then "a holiday" else "a weekend"
        let direction := if convention = .nextBusinessDay then "next" else "previous"
        .ok (adjusted, some (rawDueDate.isoformat ++ (" fell on " ++ reasonKind ++
          "; adjusted to the " ++ direction ++ " business day ").toList ++ adjusted.isoformat ++
          (" per the " ++ convention.value ++ " convention.").toList))

/-- The exclusive end of the window of `generate_schedule_occurrences`. -/
def windowEnd (effectiveTo : Option Date) (horizonEnd : Date) : Date :=
  match effectiveTo with
  | none => horizonEnd
  | some last => min last horizonEnd

/-- Source `generate_schedule_occurrences`. -/
def generateScheduleOccurrences (effectiveFrom : Date) (effectiveTo : Option Date)
    (frequency : Text) (calendar : FiscalCalendar) (horizonEnd : Date) :
    Except PyError (List ScheduleOccurrence) :=
  if validFrequencies.contains frequency = false then
    .error (.valueError ("Unknown testing frequency " ++ String.ofList (Text.repr frequency) ++ "."))
  else if frequency = "on_event".toList then .ok []
  else do
    let boundaries ← periodEndDates frequency calendar.fiscalYearStartMonth effectiveFrom
      (windowEnd effectiveTo horizonEnd)
    boundaries.mapM fun boundary => do
      let adjusted ← adjustDueDate boundary calendar
      .ok ⟨boundary, adjusted.1, adjusted.2⟩

/-- A row of `covenant_schedule`, with the period its occurrence closes. -/
structure ScheduleRow where
  periodEnd : Date
  dueDate : Date
  state : ScheduleState
  deriving DecidableEq

/-- Source `not_applicable_state`. -/
def notApplicableState (row : ScheduleRow) (cutoff : Date) : Option ScheduleState :=
  if row.state.IsOpen ∧ cutoff ≤ row.dueDate then some .notApplicable else none

/-- The rows after the covenant version is retired as of the cutoff. -/
def retire (rows : List ScheduleRow) (cutoff : Date) : List ScheduleRow :=
  rows.map fun row => { row with state := (notApplicableState row cutoff).getD row.state }

/-- The rows that still stand for a test. -/
def retained (rows : List ScheduleRow) : List ScheduleRow :=
  rows.filter fun row => row.state ≠ .notApplicable

/-- The rows of a generated calendar, each in the state it has reached. -/
def scheduleRows (occurrences : List ScheduleOccurrence)
    (state : ScheduleOccurrence → ScheduleState) : List ScheduleRow :=
  occurrences.map fun occurrence => ⟨occurrence.periodEnd, occurrence.dueDate, state occurrence⟩

/-! ## The search for a business day -/

theorem lastDay_valid :
    1 ≤ 9999 ∧ 9999 ≤ 9999 ∧ 1 ≤ 12 ∧ 12 ≤ 12 ∧ 1 ≤ 31 ∧ 31 ≤ daysInMonth 9999 12 := by decide

/-- `date.max`. -/
def lastDay : Date := ⟨9999, 12, 31, lastDay_valid⟩

theorem toOrdinal_lastDay : lastDay.toOrdinal = Date.maxOrdinal := by decide

theorem toOrdinal_bounds (day : Date) : 1 ≤ day.toOrdinal ∧ day.toOrdinal ≤ Date.maxOrdinal := by
  have range := day.valid
  constructor
  · unfold Date.toOrdinal
    omega
  · have small := day.day_lt
    have last : day ≤ lastDay := by
      have short : day.day ≤ 31 := by
        have bound := range.2.2.2.2.2
        unfold daysInMonth at bound
        split_ifs at bound <;> omega
      by_contra later
      rcases Date.lt_iff.mp (not_le.mp later) with years | ⟨_, months⟩
      · simp only [lastDay] at years
        omega
      · simp only [lastDay] at months
        omega
    exact toOrdinal_lastDay ▸ Date.toOrdinal_strictMono.monotone last

/-! ## Which periods have an occurrence -/

/-- The date closes a period of the frequency in fiscal years that start in the calendar's month. -/
def IsBoundary (frequency : Text) (calendar : FiscalCalendar) (day : Date) : Prop :=
  ∃ cycle, (frequency, cycle) ∈ cycleMonths ∧ day.IsMonthEnd ∧
    ClosesPeriod cycle calendar.fiscalYearStartMonth day.month

theorem cycleMonths_unique {frequency : Text} {cycle other : Nat}
    (first : (frequency, cycle) ∈ cycleMonths) (second : (frequency, other) ∈ cycleMonths) :
    cycle = other := by
  have keys : (cycleMonths.map Prod.fst).Nodup := by decide
  exact congrArg Prod.snd (List.inj_on_of_nodup_map keys first second rfl)

section

variable {effectiveFrom : Date} {effectiveTo : Option Date} {frequency : Text}
  {calendar : FiscalCalendar} {horizonEnd : Date} {occurrences : List ScheduleOccurrence}

/-- Generation gives one occurrence for each boundary, with the adjusted due date. -/
theorem generateScheduleOccurrences_eq_ok
    (generated : generateScheduleOccurrences effectiveFrom effectiveTo frequency calendar horizonEnd =
      .ok occurrences) :
    (frequency = "on_event".toList ∧ occurrences = []) ∨
      ∃ boundaries, periodEndDates frequency calendar.fiscalYearStartMonth effectiveFrom
          (windowEnd effectiveTo horizonEnd) = .ok boundaries ∧
        List.Forall₂ (fun boundary occurrence => occurrence.periodEnd = boundary ∧
          adjustDueDate boundary calendar = .ok (occurrence.dueDate, occurrence.adjustmentReason))
            boundaries occurrences := by
  unfold generateScheduleOccurrences at generated
  split_ifs at generated with unknown event
  · exact .inl ⟨event, (Except.ok.inj generated).symm⟩
  · obtain ⟨boundaries, found, rest⟩ := Except.bind_eq_ok_iff.mp generated
    refine .inr ⟨boundaries, found, (mapM_eq_ok_iff.mp rest).imp ?_⟩
    intro boundary occurrence returned
    obtain ⟨adjusted, moved, rest⟩ := Except.bind_eq_ok_iff.mp returned
    cases rest
    exact ⟨rfl, moved⟩

theorem periodEndDates_nodup {fiscalYearStartMonth : Int} {start finish : Date} {dates : List Date}
    (returned : periodEndDates frequency fiscalYearStartMonth start finish = .ok dates) :
    dates.Nodup := by
  unfold periodEndDates at returned
  split_ifs at returned with event empty
  · rw [← Except.ok.inj returned]
    exact List.nodup_nil
  · obtain ⟨months, _, rest⟩ := Except.bind_eq_ok_iff.mp returned
    obtain ⟨candidates, _, last⟩ := Except.bind_eq_ok_iff.mp rest
    rw [← Except.ok.inj last]
    exact (sortedSet_pairwise _).imp fun less => ne_of_lt less

/-- The occurrences close the periods whose boundary is in the window, each once. -/
theorem generated_periodEnds
    (generated : generateScheduleOccurrences effectiveFrom effectiveTo frequency calendar horizonEnd =
      .ok occurrences) :
    (occurrences.map ScheduleOccurrence.periodEnd).Nodup ∧
      ∀ day, day ∈ occurrences.map ScheduleOccurrence.periodEnd ↔
        IsBoundary frequency calendar day ∧ effectiveFrom ≤ day ∧
          day < windowEnd effectiveTo horizonEnd := by
  rcases generateScheduleOccurrences_eq_ok generated with ⟨rfl, rfl⟩ | ⟨boundaries, found, pairs⟩
  · refine ⟨List.nodup_nil, fun day => ?_⟩
    rw [List.map_nil]
    simp only [List.not_mem_nil, false_iff]
    rintro ⟨⟨cycle, known, _⟩, _⟩
    revert known
    simp [cycleMonths]
  · have ends : occurrences.map ScheduleOccurrence.periodEnd = boundaries := by
      have same := @map_eq_of_forall₂ _ _ _ _ id ScheduleOccurrence.periodEnd _ _
        (fun _ _ related => related.1.symm) pairs
      rw [← same, List.map_id]
    rw [ends]
    refine ⟨periodEndDates_nodup found, fun day => ?_⟩
    by_cases nonempty : effectiveFrom < windowEnd effectiveTo horizonEnd
    · obtain ⟨cycle, known, listed⟩ := mem_periodEndDates_iff found nonempty
      rw [listed]
      constructor
      · rintro ⟨lower, upper, last, closes⟩
        exact ⟨⟨cycle, known, last, closes⟩, lower, upper⟩
      · rintro ⟨⟨other, known', last, closes⟩, lower, upper⟩
        rw [cycleMonths_unique known' known] at closes
        exact ⟨lower, upper, last, closes⟩
    · have none : boundaries = [] := by
        unfold periodEndDates at found
        split_ifs at found with event empty
        · exact (Except.ok.inj found).symm
        · exact absurd (not_le.mp empty) nonempty
      rw [none]
      simp only [List.not_mem_nil, false_iff]
      rintro ⟨_, lower, upper⟩
      exact nonempty (lt_of_le_of_lt lower upper)

end

/-! ## Amendments -/

/-- A testing calendar that was generated, in the states its rows have reached, and the calendar
    generated for the version that an amendment makes effective on the cutoff. -/
structure Amendment where
  effectiveFrom : Date
  effectiveTo : Option Date
  frequency : Text
  calendar : FiscalCalendar
  horizonEnd : Date
  occurrences : List ScheduleOccurrence
  generated : generateScheduleOccurrences effectiveFrom effectiveTo frequency calendar horizonEnd =
    .ok occurrences
  state : ScheduleOccurrence → ScheduleState
  cutoff : Date
  newEffectiveTo : Option Date
  newFrequency : Text
  newCalendar : FiscalCalendar
  newHorizonEnd : Date
  newOccurrences : List ScheduleOccurrence
  regenerated : generateScheduleOccurrences cutoff newEffectiveTo newFrequency newCalendar
    newHorizonEnd = .ok newOccurrences

namespace Amendment

variable (amendment : Amendment)

/-- The periods that are still to be tested, or were, under either version. -/
def covered : List Date :=
  (retained (retire (scheduleRows amendment.occurrences amendment.state)
    amendment.cutoff)).map ScheduleRow.periodEnd ++
      amendment.newOccurrences.map ScheduleOccurrence.periodEnd

/-- A boundary of the old calendar before the cutoff. -/
def OldBoundary (day : Date) : Prop :=
  IsBoundary amendment.frequency amendment.calendar day ∧ amendment.effectiveFrom ≤ day ∧
    day < windowEnd amendment.effectiveTo amendment.horizonEnd ∧ day < amendment.cutoff

/-- A boundary of the new calendar on the cutoff or after. -/
def NewBoundary (day : Date) : Prop :=
  IsBoundary amendment.newFrequency amendment.newCalendar day ∧ amendment.cutoff ≤ day ∧
    day < windowEnd amendment.newEffectiveTo amendment.newHorizonEnd

/-- The occurrence keeps its place: one of a period before the cutoff stands, and one of a period
    the new version tests as well does not. -/
structure KeepsPlace (occurrence : ScheduleOccurrence) : Prop where
  before : occurrence.periodEnd < amendment.cutoff →
    amendment.state occurrence ≠ .notApplicable ∧
      ((amendment.state occurrence).IsOpen → occurrence.dueDate < amendment.cutoff)
  after : amendment.NewBoundary occurrence.periodEnd →
    amendment.state occurrence = .notApplicable ∨
      ((amendment.state occurrence).IsOpen ∧ amendment.cutoff ≤ occurrence.dueDate)

/-- The row of the occurrence stands after the amendment. -/
def Stands (occurrence : ScheduleOccurrence) : Prop :=
  amendment.state occurrence ≠ .notApplicable ∧
    ¬ ((amendment.state occurrence).IsOpen ∧ amendment.cutoff ≤ occurrence.dueDate)

instance (occurrence : ScheduleOccurrence) : Decidable (amendment.Stands occurrence) :=
  inferInstanceAs (Decidable (amendment.state occurrence ≠ .notApplicable ∧
    ¬ ((amendment.state occurrence).IsOpen ∧ amendment.cutoff ≤ occurrence.dueDate)))

variable {amendment}

theorem retained_periodEnds :
    (retained (retire (scheduleRows amendment.occurrences amendment.state)
        amendment.cutoff)).map ScheduleRow.periodEnd =
      (amendment.occurrences.filter fun occurrence => amendment.Stands occurrence).map
        ScheduleOccurrence.periodEnd := by
  unfold retained retire scheduleRows
  generalize amendment.occurrences = occurrences
  induction occurrences with
  | nil => rfl
  | cons occurrence occurrences ih =>
    simp only [List.map_cons]
    by_cases retired : (amendment.state occurrence).IsOpen ∧ amendment.cutoff ≤ occurrence.dueDate
    · have gone : notApplicableState ⟨occurrence.periodEnd, occurrence.dueDate,
          amendment.state occurrence⟩ amendment.cutoff = some .notApplicable := if_pos retired
      have falls : ¬ amendment.Stands occurrence := fun stands => stands.2 retired
      rw [List.filter_cons_of_neg (by simp [gone]),
        List.filter_cons_of_neg (by simpa using falls), ih]
    · have stays : notApplicableState ⟨occurrence.periodEnd, occurrence.dueDate,
          amendment.state occurrence⟩ amendment.cutoff = none := if_neg retired
      rw [stays]
      by_cases settled : amendment.state occurrence = .notApplicable
      · have falls : ¬ amendment.Stands occurrence := fun stands => stands.1 settled
        rw [List.filter_cons_of_neg (by simp [settled]),
          List.filter_cons_of_neg (by simpa using falls), ih]
      · have stands : amendment.Stands occurrence := ⟨settled, retired⟩
        rw [List.filter_cons_of_pos (by simp [settled]),
          List.filter_cons_of_pos (by simpa using stands), List.map_cons, List.map_cons, ih]

/-- How often a period is covered: by the row that stands, and by the new version. -/
theorem count_covered (day : Date) :
    (∃ occurrence ∈ amendment.occurrences, occurrence.periodEnd = day ∧
        amendment.Stands occurrence ∧ amendment.covered.count day =
          1 + if day ∈ amendment.newOccurrences.map ScheduleOccurrence.periodEnd then 1 else 0) ∨
      (∀ occurrence ∈ amendment.occurrences, occurrence.periodEnd = day →
          ¬ amendment.Stands occurrence) ∧ amendment.covered.count day =
            if day ∈ amendment.newOccurrences.map ScheduleOccurrence.periodEnd then 1 else 0 := by
  have old := (generated_periodEnds amendment.generated).1
  have new := (generated_periodEnds amendment.regenerated).1
  unfold covered
  rw [List.count_append, retained_periodEnds, new.count]
  rw [(old.sublist (List.filter_sublist.map ScheduleOccurrence.periodEnd)).count]
  by_cases standing : day ∈ (amendment.occurrences.filter fun occurrence =>
      amendment.Stands occurrence).map ScheduleOccurrence.periodEnd
  · rw [if_pos standing]
    obtain ⟨occurrence, member, same⟩ := List.mem_map.mp standing
    obtain ⟨listed, kept⟩ := List.mem_filter.mp member
    exact .inl ⟨occurrence, listed, same, of_decide_eq_true kept, rfl⟩
  · rw [if_neg standing]
    refine .inr ⟨fun occurrence listed same kept => standing ?_, Nat.zero_add _⟩
    exact List.mem_map.mpr ⟨occurrence, List.mem_filter.mpr ⟨listed, decide_eq_true kept⟩, same⟩

/-- Every period of the old frequency before the cutoff, and of the new one from then on, is covered
    exactly once if and only if every occurrence of the old calendar keeps its place. -/
theorem covered_once_iff (amendment : Amendment) :
    (∀ day, amendment.OldBoundary day ∨ amendment.NewBoundary day →
        amendment.covered.count day = 1) ↔
      ∀ occurrence ∈ amendment.occurrences, amendment.KeepsPlace occurrence := by
  obtain ⟨distinct, old⟩ := generated_periodEnds amendment.generated
  have new : ∀ day, day ∈ amendment.newOccurrences.map ScheduleOccurrence.periodEnd ↔
      amendment.NewBoundary day := (generated_periodEnds amendment.regenerated).2
  constructor
  · intro once occurrence member
    have listed := (old occurrence.periodEnd).mp (List.mem_map_of_mem member)
    have own : ∀ other ∈ amendment.occurrences, other.periodEnd = occurrence.periodEnd →
        other = occurrence := fun other inside same =>
      List.inj_on_of_nodup_map distinct inside member same
    have count := @count_covered amendment occurrence.periodEnd
    constructor
    · intro before
      have single := once _ (.inl ⟨listed.1, listed.2.1, listed.2.2, before⟩)
      have later : occurrence.periodEnd ∉
          amendment.newOccurrences.map ScheduleOccurrence.periodEnd :=
        fun listed => not_le.mpr before ((new _).mp listed).2.1
      rw [if_neg later] at count
      rcases count with ⟨other, inside, same, stands, _⟩ | ⟨_, zero⟩
      · rw [own other inside same] at stands
        refine ⟨stands.1, fun isOpen => ?_⟩
        by_contra due
        exact stands.2 ⟨isOpen, not_lt.mp due⟩
      · omega
    · intro boundary
      have single := once _ (.inr boundary)
      rw [if_pos ((new _).mpr boundary)] at count
      rcases count with ⟨_, _, _, _, twice⟩ | ⟨gone, _⟩
      · omega
      · have fallen := gone occurrence member rfl
        unfold Stands at fallen
        by_cases settled : amendment.state occurrence = .notApplicable
        · exact .inl settled
        · exact .inr (not_not.mp fun due => fallen ⟨settled, due⟩)
  · intro places day boundary
    have count := @count_covered amendment day
    rcases boundary with before | after
    · obtain ⟨occurrence, member, rfl⟩ :=
        List.mem_map.mp ((old day).mpr ⟨before.1, before.2.1, before.2.2.1⟩)
      have later : occurrence.periodEnd ∉
          amendment.newOccurrences.map ScheduleOccurrence.periodEnd :=
        fun listed => not_le.mpr before.2.2.2 ((new _).mp listed).2.1
      rw [if_neg later] at count
      rcases count with ⟨_, _, _, _, single⟩ | ⟨gone, _⟩
      · exact single
      · have kept := (places occurrence member).before before.2.2.2
        exact absurd ⟨kept.1, fun due => not_le.mpr (kept.2 due.1) due.2⟩
          (gone occurrence member rfl)
    · rw [if_pos ((new _).mpr after)] at count
      rcases count with ⟨occurrence, member, rfl, stands, _⟩ | ⟨_, single⟩
      · rcases (places occurrence member).after after with settled | due
        · exact absurd settled stands.1
        · exact absurd due stands.2
      · exact single

end Amendment

/-! ## A period end on a weekend -/

theorem newYear_valid : 1 ≤ 2026 ∧ 2026 ≤ 9999 ∧ 1 ≤ 1 ∧ 1 ≤ 12 ∧ 1 ≤ 1 ∧
    1 ≤ daysInMonth 2026 1 := by decide

theorem march_valid : 1 ≤ 2026 ∧ 2026 ≤ 9999 ∧ 1 ≤ 3 ∧ 3 ≤ 12 ∧ 1 ≤ 1 ∧
    1 ≤ daysInMonth 2026 3 := by decide

theorem july_valid : 1 ≤ 2026 ∧ 2026 ≤ 9999 ∧ 1 ≤ 7 ∧ 7 ≤ 12 ∧ 1 ≤ 1 ∧
    1 ≤ daysInMonth 2026 7 := by decide

theorem april_month : 1 ≤ 4 ∧ 4 ≤ 12 := by decide

/-- Fiscal years from April, due dates moved to the next business day. -/
def aprilCalendar : FiscalCalendar :=
  ⟨4, .nextBusinessDay, .nextBusinessDay, [], april_month⟩

/-- The occurrences of a monthly covenant. -/
def monthlyOccurrences (from' : Date) : List ScheduleOccurrence :=
  (generateScheduleOccurrences from' none "monthly".toList aprilCalendar
    ⟨2026, 7, 1, july_valid⟩).toOption.getD []

theorem monthlyOccurrences_generated :
    generateScheduleOccurrences ⟨2026, 1, 1, newYear_valid⟩ none "monthly".toList aprilCalendar
        ⟨2026, 7, 1, july_valid⟩ = .ok (monthlyOccurrences ⟨2026, 1, 1, newYear_valid⟩) ∧
      generateScheduleOccurrences ⟨2026, 3, 1, march_valid⟩ none "monthly".toList aprilCalendar
        ⟨2026, 7, 1, july_valid⟩ = .ok (monthlyOccurrences ⟨2026, 3, 1, march_valid⟩) := by
  decide

/-- A monthly covenant amended from 2026-03-01, before any test. -/
def marchAmendment : Amendment where
  effectiveFrom := ⟨2026, 1, 1, newYear_valid⟩
  effectiveTo := none
  frequency := "monthly".toList
  calendar := aprilCalendar
  horizonEnd := ⟨2026, 7, 1, july_valid⟩
  occurrences := monthlyOccurrences ⟨2026, 1, 1, newYear_valid⟩
  generated := monthlyOccurrences_generated.1
  state _ := .due
  cutoff := ⟨2026, 3, 1, march_valid⟩
  newEffectiveTo := none
  newFrequency := "monthly".toList
  newCalendar := aprilCalendar
  newHorizonEnd := ⟨2026, 7, 1, july_valid⟩
  newOccurrences := monthlyOccurrences ⟨2026, 3, 1, march_valid⟩
  regenerated := monthlyOccurrences_generated.2

/-- February ends on a Saturday and is due on Monday 2 March: its row is retired with the amendment,
    and the new version starts with March. -/
theorem february_untested :
    ¬ ∀ (amendment : Amendment) (day : Date),
      amendment.OldBoundary day ∨ amendment.NewBoundary day → amendment.covered.count day = 1 := by
  intro once
  have listed : ∃ occurrence ∈ marchAmendment.occurrences,
      occurrence.periodEnd < marchAmendment.cutoff ∧
        marchAmendment.covered.count occurrence.periodEnd = 0 := by decide
  obtain ⟨occurrence, member, before, uncovered⟩ := listed
  have inside := ((generated_periodEnds marchAmendment.generated).2 _).mp
    (List.mem_map_of_mem member)
  have single := once marchAmendment occurrence.periodEnd
    (.inl ⟨inside.1, inside.2.1, inside.2.2, before⟩)
  omega

end CovenantRadar.Covenants
