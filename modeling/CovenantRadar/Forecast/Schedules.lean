import CovenantRadar.Forecast.GivenPaths
import CovenantRadar.Misc.Raises
import CovenantRadar.Python.Reading

/-!
# Threshold schedules as callers write them

Source `domain/forecast/crossing.py`: the changes of a threshold may be objects, mappings under
several spellings, pairs, or one mapping from days or dates to thresholds. A pair with a date is
read with the date as its day and as its date at once, and refused for that.
-/

namespace CovenantRadar

namespace Forecast

/-! ## Records -/

/-- A value of a change record, and a key of a mapping. -/
inductive Cell where
  | none
  | int (n : Int)
  | number (q : ℚ)
  | date (date : Date)
  | text (text : Text)
  deriving DecidableEq

/-- One item of `threshold_changes`. A mapping lists its items, each key once. -/
inductive ChangeRecord where
  | object (change : ThresholdChange)
  | mapping (entries : List (Cell × Cell))
  | sequence (items : List Cell)

/-- What `threshold_changes` is given. -/
inductive ChangesArgument where
  | records (records : List ChangeRecord)
  | mapping (entries : List (Cell × Cell))

/-- The key under a name. -/
def named (name : String) : Cell := .text name.toList

/-- `change_keys` of `_change_records`. -/
def changeKeys : List Cell :=
  [named "day", named "day_offset", named "effective_day", named "date", named "effective_date",
    named "effective_on"]

/-- Source `_change_records`. -/
def changeRecords : ChangesArgument → List ChangeRecord
  | .records records => records
  | .mapping entries =>
    if entries.any fun entry => changeKeys.contains entry.1 then [.mapping entries]
    else entries.map fun entry => .sequence [entry.1, entry.2]

/-- Source `_read`: the value under the first of the names that is a key. -/
def readNamed (entries : List (Cell × Cell)) (names : List String) : Cell :=
  (names.findSome? fun name => dictGet entries (named name)).getD .none

/-- Source `_calendar_date`, for an `effective_date`. -/
def calendarDate : Cell → Except PyError Date
  | .date date => .ok date
  | .text text =>
    (isoDate text).elim (.error (.valueError "effective_date must be an ISO calendar date.")) .ok
  | _ => .error (.typeError "effective_date must be a calendar date.")

/-- Source `_date_day`. -/
def dateDay (cell : Cell) (asOf : Date) : Except PyError Nat := do
  let date ← calendarDate cell
  if date.toOrdinal < asOf.toOrdinal then
    .error (.valueError "threshold change effective_date must not precede as_of_date.")
  else .ok (date.toOrdinal - asOf.toOrdinal)

/-- Source `_non_negative_integer_value`, for an `effective_day`. -/
def effectiveDayOf : Cell → Except PyError Nat
  | .int (.ofNat day) => .ok day
  | _ => .error (.valueError "effective_day must be a non-negative integer.")

/-- Source `_decimal`, for a threshold. -/
def thresholdOf : Cell → Except PyError ℚ
  | .none => .error (.typeError "threshold must be a finite Decimal.")
  | .int n => .ok n
  | .number q => .ok q
  | .date _ => .error (.valueError "threshold must be a finite Decimal.")
  | .text text =>
    (Decimal.ofText text).elim (.error (.valueError "threshold must be a finite Decimal."))
      fun number => .ok number.value

/-- The end of `_change_record`, for a mapping and for a sequence. -/
def readChange (asOf : Option Date) (day date threshold : Cell) : Except PyError ThresholdPoint :=
  if threshold = .none then .error (.valueError "A threshold change must provide threshold.")
  else if day ≠ .none ∧ date ≠ .none then
    .error (.valueError "A threshold change cannot provide both day and date.")
  else if day ≠ .none then do
    let day ← effectiveDayOf day
    let threshold ← thresholdOf threshold
    .ok ⟨day, threshold⟩
  else if date = .none then
    .error (.valueError "A threshold change requires effective_day or effective_date.")
  else
    match asOf with
    | none => .error (.valueError "as_of_date is required for date-based threshold changes.")
    | some asOf => do
      let day ← dateDay date asOf
      let threshold ← thresholdOf threshold
      .ok ⟨day, threshold⟩

/-- The `effective_date` of a pair: its first item, where that is a date or text. -/
def dateOfPair : Cell → Cell
  | .date date => .date date
  | .text text => .text text
  | _ => .none

/-- Source `_change_record`, on any record. -/
def changeRecordOf (asOf : Option Date) : ChangeRecord → Except PyError ThresholdPoint
  | .object change => changeRecord asOf change
  | .mapping entries =>
    readChange asOf (readNamed entries ["effective_day", "day", "day_offset"])
      (readNamed entries ["effective_date", "effective_on", "date"])
      (readNamed entries ["threshold", "threshold_used", "value"])
  | .sequence [day, threshold] => readChange asOf day (dateOfPair day) threshold
  | .sequence _ =>
    .error (.valueError "A threshold change sequence must contain (effective_day, threshold).")

/-- The body of the loop of `_normalise_changes`, on any record. -/
def normaliseRecord (asOf : Option Date) (horizonDays : Nat) (record : ChangeRecord) :
    Except PyError ThresholdPoint := do
  let point ← changeRecordOf asOf record
  let day := point.day
  if horizonDays < day then
    .error (.valueError
      s!"threshold change day {day} is outside the forecast horizon 0..{horizonDays}.")
  else .ok point

/-- Source `_normalise_changes`, on any argument. -/
def normaliseArgument (argument : ChangesArgument) (asOf : Option Date) (horizonDays : Nat) :
    Except PyError (List ThresholdPoint) := do
  let points ← (changeRecords argument).mapM (normaliseRecord asOf horizonDays)
  let sorted := points.insertionSort fun a b => a.day ≤ b.day
  if (sorted.map (·.day)).Nodup then .ok sorted
  else .error (.valueError "Only one threshold change may take effect on a forecast day.")

/-- Source `first_crossing`, on any argument of changes. -/
def firstCrossingWith (items : List PathItem) (threshold : ℚ) (direction : Direction)
    (asOf : Option Date) (argument : ChangesArgument) : Except PyError CrossingResult := do
  let path ← normalisePath items
  let points ← normaliseArgument argument asOf (path.length - 1)
  crossingOver path threshold direction asOf points

/-! ## The shapes of a schedule -/

/-- The keys a mapping may write the day under. -/
inductive DayName where
  | effectiveDay
  | day
  | dayOffset

/-- The keys a mapping may write the date under. -/
inductive DateName where
  | effectiveDate
  | effectiveOn
  | date

/-- The keys a mapping may write the threshold under. -/
inductive ThresholdName where
  | threshold
  | thresholdUsed
  | value

def DayName.text : DayName → String
  | effectiveDay => "effective_day"
  | day => "day"
  | dayOffset => "day_offset"

def DateName.text : DateName → String
  | effectiveDate => "effective_date"
  | effectiveOn => "effective_on"
  | date => "date"

def ThresholdName.text : ThresholdName → String
  | threshold => "threshold"
  | thresholdUsed => "threshold_used"
  | value => "value"

/-- A date as a date, or as its ISO text. -/
inductive DateForm where
  | date
  | text

def DateForm.write (date : Date) : DateForm → Cell
  | .date => .date date
  | .text => .text date.isoformat

/-- A way of writing down a schedule. -/
inductive Shape where
  | dayObjects
  | dateObjects
  | dayMappings (key : DayName) (bound : ThresholdName)
  | dateMappings (key : DateName) (bound : ThresholdName) (form : DateForm)
  | dayPairs
  | datePairs (form : DateForm)
  | dayKeyed
  | dateKeyed (form : DateForm)

/-- The changes of a threshold, each with the date it takes effect on. -/
abbrev Schedule := List (Date × ℚ)

/-- The days from the first date to the second. -/
def daysFrom (asOf date : Date) : Nat := date.toOrdinal - asOf.toOrdinal

/-- The argument that writes the schedule in this shape. -/
def Shape.write (asOf : Date) (schedule : Schedule) : Shape → ChangesArgument
  | .dayObjects => .records (schedule.map fun change =>
      .object ⟨change.2, .day (daysFrom asOf change.1)⟩)
  | .dateObjects => .records (schedule.map fun change => .object ⟨change.2, .date change.1⟩)
  | .dayMappings key bound => .records (schedule.map fun change => .mapping
      [(named key.text, .int (daysFrom asOf change.1)), (named bound.text, .number change.2)])
  | .dateMappings key bound form => .records (schedule.map fun change => .mapping
      [(named key.text, form.write change.1), (named bound.text, .number change.2)])
  | .dayPairs => .records (schedule.map fun change =>
      .sequence [.int (daysFrom asOf change.1), .number change.2])
  | .datePairs form => .records (schedule.map fun change =>
      .sequence [form.write change.1, .number change.2])
  | .dayKeyed => .mapping (schedule.map fun change =>
      (.int (daysFrom asOf change.1), .number change.2))
  | .dateKeyed form => .mapping (schedule.map fun change =>
      (form.write change.1, .number change.2))

/-- The shapes that pair a threshold with its date. -/
def Shape.ByDatePair : Shape → Prop
  | .datePairs _ => True
  | .dateKeyed _ => True
  | _ => False

/-- The record of a change, in this shape. -/
def Shape.record (asOf : Date) (change : Date × ℚ) : Shape → ChangeRecord
  | .dayObjects => .object ⟨change.2, .day (daysFrom asOf change.1)⟩
  | .dateObjects => .object ⟨change.2, .date change.1⟩
  | .dayMappings key bound => .mapping
      [(named key.text, .int (daysFrom asOf change.1)), (named bound.text, .number change.2)]
  | .dateMappings key bound form => .mapping
      [(named key.text, form.write change.1), (named bound.text, .number change.2)]
  | .dayPairs | .dayKeyed => .sequence [.int (daysFrom asOf change.1), .number change.2]
  | .datePairs form | .dateKeyed form => .sequence [form.write change.1, .number change.2]

/-- No date is written like a key of a change. -/
theorem not_changeKey (date : Date) (form : DateForm) :
    changeKeys.contains (form.write date) = false := by
  cases form with
  | date => rfl
  | text =>
    have unread : ∀ key ∈ changeKeys, ∀ text, key = .text text → isoDate text = none := by
      intro key member text same
      subst same
      simp only [changeKeys, named, List.mem_cons, List.not_mem_nil, or_false, Cell.text.injEq]
        at member
      rcases member with rfl | rfl | rfl | rfl | rfl | rfl <;> decide
    rw [List.contains_eq_mem, decide_eq_false_iff_not]
    intro member
    have absent := unread _ member _ rfl
    rw [isoDate_isoformat] at absent
    cases absent

/-- The records of a schedule are the same however it is passed. -/
theorem changeRecords_write (asOf : Date) (schedule : Schedule) (shape : Shape) :
    changeRecords (shape.write asOf schedule) = schedule.map fun change =>
      shape.record asOf change := by
  cases shape with
  | dayKeyed =>
    simp only [Shape.write, changeRecords]
    rw [if_neg, List.map_map]
    · rfl
    · simp only [List.any_map, List.any_eq_true, not_exists, not_and, Bool.not_eq_true]
      exact fun _ _ => rfl
  | dateKeyed form =>
    simp only [Shape.write, changeRecords]
    rw [if_neg, List.map_map]
    · rfl
    · simp only [List.any_map, List.any_eq_true, not_exists, not_and, Bool.not_eq_true]
      exact fun change _ => not_changeKey change.1 form
  | _ => rfl

theorem calendarDate_write (date : Date) (form : DateForm) :
    calendarDate (form.write date) = .ok date := by
  cases form with
  | date => rfl
  | text =>
    unfold DateForm.write calendarDate
    simp only [isoDate_isoformat]
    rfl

theorem dateDay_write {asOf date : Date} (form : DateForm) (after : asOf ≤ date) :
    dateDay (form.write date) asOf = .ok (daysFrom asOf date) := by
  unfold dateDay
  rw [calendarDate_write]
  exact if_neg (not_lt.mpr (Date.toOrdinal_strictMono.monotone after))

theorem write_ne_none (date : Date) (form : DateForm) : form.write date ≠ .none := by
  cases form <;> nofun

/-- A day that is written is read. -/
theorem readChange_day (asOf : Option Date) (day : Nat) (bound : ℚ) :
    readChange asOf (.int day) .none (.number bound) = .ok ⟨day, bound⟩ := rfl

/-- A date that is written apart from the day is read. -/
theorem readChange_date {asOf date : Date} (form : DateForm) (bound : ℚ) (after : asOf ≤ date) :
    readChange (some asOf) .none (form.write date) (.number bound) =
      .ok ⟨daysFrom asOf date, bound⟩ := by
  unfold readChange
  rw [if_neg nofun, if_neg (fun both => both.1 rfl), if_neg (fun given => given rfl),
    if_neg (write_ne_none date form)]
  simp only [dateDay_write form after]
  rfl

/-- A date that is written as the day too is refused. -/
theorem readChange_both (asOf : Option Date) (date : Date) (form : DateForm) (bound : ℚ) :
    readChange asOf (form.write date) (form.write date) (.number bound) =
      .error (.valueError "A threshold change cannot provide both day and date.") := by
  unfold readChange
  rw [if_neg nofun, if_pos ⟨write_ne_none date form, write_ne_none date form⟩]

theorem readNamed_day (key : DayName) (bound : ThresholdName) (day threshold : Cell) :
    readNamed [(named key.text, day), (named bound.text, threshold)]
        ["effective_day", "day", "day_offset"] = day ∧
      readNamed [(named key.text, day), (named bound.text, threshold)]
        ["effective_date", "effective_on", "date"] = .none ∧
      readNamed [(named key.text, day), (named bound.text, threshold)]
        ["threshold", "threshold_used", "value"] = threshold := by
  cases key <;> cases bound <;> exact ⟨rfl, rfl, rfl⟩

theorem readNamed_date (key : DateName) (bound : ThresholdName) (date threshold : Cell) :
    readNamed [(named key.text, date), (named bound.text, threshold)]
        ["effective_day", "day", "day_offset"] = .none ∧
      readNamed [(named key.text, date), (named bound.text, threshold)]
        ["effective_date", "effective_on", "date"] = date ∧
      readNamed [(named key.text, date), (named bound.text, threshold)]
        ["threshold", "threshold_used", "value"] = threshold := by
  cases key <;> cases bound <;> exact ⟨rfl, rfl, rfl⟩

theorem dateOfPair_write (date : Date) (form : DateForm) :
    dateOfPair (form.write date) = form.write date := by
  cases form <;> rfl

/-- Every shape but a pair with its date gives the change back. -/
theorem changeRecordOf_record {asOf : Date} {change : Date × ℚ} {shape : Shape}
    (apart : ¬ shape.ByDatePair) (after : asOf ≤ change.1) :
    changeRecordOf (some asOf) (shape.record asOf change) =
      .ok ⟨daysFrom asOf change.1, change.2⟩ := by
  cases shape with
  | dayObjects => rfl
  | dateObjects => exact if_neg (not_lt.mpr (Date.toOrdinal_strictMono.monotone after))
  | dayMappings key bound =>
    obtain ⟨day, date, threshold⟩ :=
      readNamed_day key bound (.int (daysFrom asOf change.1)) (.number change.2)
    unfold Shape.record changeRecordOf
    simp only [day, date, threshold]
    exact readChange_day _ _ _
  | dateMappings key bound form =>
    obtain ⟨day, date, threshold⟩ :=
      readNamed_date key bound (form.write change.1) (.number change.2)
    unfold Shape.record changeRecordOf
    simp only [day, date, threshold]
    exact readChange_date form change.2 after
  | dayPairs => exact readChange_day (some asOf) (daysFrom asOf change.1) change.2
  | dayKeyed => exact readChange_day (some asOf) (daysFrom asOf change.1) change.2
  | datePairs form => exact absurd trivial apart
  | dateKeyed form => exact absurd trivial apart

/-- A pair with its date is refused. -/
theorem changeRecordOf_datePair {asOf : Date} {change : Date × ℚ} {shape : Shape}
    (paired : shape.ByDatePair) :
    changeRecordOf (some asOf) (shape.record asOf change) =
      .error (.valueError "A threshold change cannot provide both day and date.") := by
  have refused : ∀ form : DateForm, changeRecordOf (some asOf)
      (.sequence [form.write change.1, .number change.2]) =
      .error (.valueError "A threshold change cannot provide both day and date.") := by
    intro form
    unfold changeRecordOf
    simp only [dateOfPair_write]
    exact readChange_both (some asOf) change.1 form change.2
  cases shape with
  | datePairs form => exact refused form
  | dateKeyed form => exact refused form
  | _ => cases paired

/-! ## One schedule, one crossing -/

section

variable {items : List PathItem} {path : List PathPoint} {threshold : ℚ} {direction : Direction}
  {asOf : Date} {schedule : Schedule} {shape : Shape}

/-- All shapes but the pairs with a date denote the schedule. -/
theorem firstCrossingWith_write (apart : ¬ shape.ByDatePair)
    (after : ∀ change ∈ schedule, asOf ≤ change.1) :
    firstCrossingWith items threshold direction (some asOf) (shape.write asOf schedule) =
      firstCrossingWith items threshold direction (some asOf)
        (Shape.dateObjects.write asOf schedule) := by
  have same : ∀ horizon,
      (changeRecords (shape.write asOf schedule)).mapM (normaliseRecord (some asOf) horizon) =
      (changeRecords (Shape.dateObjects.write asOf schedule)).mapM
        (normaliseRecord (some asOf) horizon) := by
    intro horizon
    rw [changeRecords_write, changeRecords_write, List.mapM_map, List.mapM_map]
    refine mapM_congr_forall₂ (R := Eq) (List.forall₂_refl schedule) ?_
    rintro change member _ rfl
    have plain : changeRecordOf (some asOf) (Shape.dateObjects.record asOf change) =
        .ok ⟨daysFrom asOf change.1, change.2⟩ :=
      changeRecordOf_record nofun (after change member)
    unfold normaliseRecord
    rw [Function.comp_apply, Function.comp_apply, changeRecordOf_record apart (after change member),
      plain]
  unfold firstCrossingWith normaliseArgument
  simp only [same]

/-- What `_change_record` raises on a pair with its date. -/
def BothGiven (error : PyError) : Prop :=
  error = .valueError "A threshold change cannot provide both day and date."

theorem not_bothGiven_horizon (day horizon : Nat) :
    ¬ BothGiven (.valueError
      s!"threshold change day {day} is outside the forecast horizon 0..{horizon}.") := by
  intro same
  have texts := PyError.valueError.inj same
  have first := congrArg (fun text => text.toList.head?) texts
  simp only [String.toList_append, List.append_assoc] at first
  cases first

theorem not_raises_crossingOver (points : List ThresholdPoint) :
    ¬ Raises BothGiven (crossingOver path threshold direction (some asOf) points) := by
  unfold crossingOver
  simp only
  split
  · rw [raises_bind_iff_of_not]
    · rintro ⟨date, _, raised⟩
      exact not_raises_pure _ raised
    · unfold crossingDate
      split
      · exact not_raises_ok _
      · split
        · exact not_raises_ok _
        · rw [raises_error_iff]
          nofun
  · exact not_raises_pure _
  · exact not_raises_pure _

theorem not_bothGiven_oneADay :
    ¬ BothGiven (.valueError "Only one threshold change may take effect on a forecast day.") := by
  unfold BothGiven
  decide

/-- Objects are never refused as pairs with their date are. -/
theorem not_raises_objects (after : ∀ change ∈ schedule, asOf ≤ change.1) :
    ¬ Raises BothGiven (normaliseArgument (Shape.dateObjects.write asOf schedule) (some asOf)
      (path.length - 1)) := by
  unfold normaliseArgument
  rw [changeRecords_write, raises_bind_iff_of_not]
  · rintro ⟨points, _, raised⟩
    simp only at raised
    split at raised
    · exact not_raises_ok _ raised
    · exact not_bothGiven_oneADay (raises_error_iff.mp raised)
  · rw [raises_mapM_iff]
    rintro ⟨before, record, rest, split, _, raised⟩
    have member : record ∈ schedule.map fun change => Shape.dateObjects.record asOf change := by
      rw [split]
      exact List.mem_append_right before List.mem_cons_self
    obtain ⟨change, listed, rfl⟩ := List.mem_map.mp member
    have plain : changeRecordOf (some asOf) (Shape.dateObjects.record asOf change) =
        .ok ⟨daysFrom asOf change.1, change.2⟩ :=
      changeRecordOf_record nofun (after change listed)
    unfold normaliseRecord at raised
    rw [plain, raises_bind_iff_of_not (not_raises_ok _)] at raised
    obtain ⟨point, _, raised⟩ := raised
    simp only at raised
    split at raised
    · exact not_bothGiven_horizon _ _ (raises_error_iff.mp raised)
    · exact not_raises_ok _ raised

/-- The first pair with its date is refused. -/
theorem raises_datePair (paired : shape.ByDatePair) (change : Date × ℚ) (rest : Schedule) :
    Raises BothGiven (normaliseArgument (shape.write asOf (change :: rest)) (some asOf)
      (path.length - 1)) := by
  unfold normaliseArgument
  rw [changeRecords_write, raises_bind_iff]
  left
  rw [raises_mapM_iff]
  refine ⟨[], shape.record asOf change, rest.map fun change => shape.record asOf change, rfl,
    nofun, ?_⟩
  unfold normaliseRecord
  rw [changeRecordOf_datePair paired, raises_bind_iff]
  exact .inl (raises_error_iff.mpr rfl)

/-- A schedule gives one crossing in all the shapes it can be written in, exactly when no change
    is written as a pair with its date. -/
theorem firstCrossingWith_write_iff (read : normalisePath items = .ok path)
    (after : ∀ change ∈ schedule, asOf ≤ change.1) :
    firstCrossingWith items threshold direction (some asOf) (shape.write asOf schedule) =
        firstCrossingWith items threshold direction (some asOf)
          (Shape.dateObjects.write asOf schedule) ↔
      ¬ shape.ByDatePair ∨ schedule = [] := by
  constructor
  · intro same
    by_cases paired : shape.ByDatePair
    · right
      cases schedule with
      | nil => rfl
      | cons change rest =>
        have raised : Raises BothGiven (firstCrossingWith items threshold direction (some asOf)
            (shape.write asOf (change :: rest))) := by
          unfold firstCrossingWith
          rw [read]
          exact raises_bind_iff.mpr (.inr ⟨path, rfl,
            raises_bind_iff.mpr (.inl (raises_datePair paired change rest))⟩)
        rw [same] at raised
        unfold firstCrossingWith at raised
        rw [read, raises_bind_iff_of_not (not_raises_ok path)] at raised
        obtain ⟨_, same', raised⟩ := raised
        cases same'
        rw [raises_bind_iff_of_not (not_raises_objects after)] at raised
        obtain ⟨points, _, raised⟩ := raised
        exact absurd raised (not_raises_crossingOver points)
    · exact .inl paired
  · rintro (apart | rfl)
    · exact firstCrossingWith_write apart after
    · have empty : changeRecords (shape.write asOf []) =
          changeRecords (Shape.dateObjects.write asOf []) := by
        rw [changeRecords_write, changeRecords_write]
        rfl
      unfold firstCrossingWith normaliseArgument
      rw [empty]

theorem firstOfMay_valid : 1 ≤ 2026 ∧ 2026 ≤ 9999 ∧ 1 ≤ 5 ∧ 5 ≤ 12 ∧ 1 ≤ 1 ∧
    1 ≤ daysInMonth 2026 5 := by decide

/-- The first of May 2026. -/
def firstOfMay : Date := ⟨2026, 5, 1, firstOfMay_valid⟩

/-- A threshold that falls on the day of the forecast, written as a pair with that date. -/
theorem datePair_refused :
    ¬ ∀ (items : List PathItem) (path : List PathPoint) (threshold : ℚ) (direction : Direction)
      (asOf : Date) (schedule : Schedule) (shape : Shape), normalisePath items = .ok path →
      (∀ change ∈ schedule, asOf ≤ change.1) →
        firstCrossingWith items threshold direction (some asOf) (shape.write asOf schedule) =
          firstCrossingWith items threshold direction (some asOf)
            (Shape.dateObjects.write asOf schedule) := by
  intro claimed
  have same := claimed [.value (some 1)] [⟨0, some 1, 0, 0⟩] 3 .max firstOfMay [(firstOfMay, 2)]
    (.datePairs .date) rfl (by simp)
  have returned := congrArg (fun outcome => outcome.toOption.isSome) same
  have objects : (firstCrossingWith [.value (some 1)] 3 .max (some firstOfMay)
      (Shape.dateObjects.write firstOfMay [(firstOfMay, 2)])).toOption.isSome = true := by
    decide
  rw [objects] at returned
  cases returned

/-- The same change as a mapping from the key `day`. -/
theorem dayMapping_read :
    firstCrossingWith [.value (some 1)] 3 .max (some firstOfMay)
        ((Shape.dayMappings .day .threshold).write firstOfMay [(firstOfMay, 2)]) =
        firstCrossingWith [.value (some 1)] 3 .max (some firstOfMay)
          (Shape.dateObjects.write firstOfMay [(firstOfMay, 2)]) ↔
      ¬ (Shape.dayMappings .day .threshold).ByDatePair ∨ [(firstOfMay, (2 : ℚ))] = [] :=
  @firstCrossingWith_write_iff _ [⟨0, some 1, 0, 0⟩] _ _ _ _ _ rfl (by simp)

end

end Forecast

end CovenantRadar
