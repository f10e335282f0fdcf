import CovenantRadar.Approvals.Requests

/-!
# Service levels of a case

Source `domain/cases/sla.py`: threshold T11 and the deadline it gives a warning band.
-/

namespace CovenantRadar

/-- The microseconds of an hour. -/
def hourMicroseconds : Nat := 3600 * 10 ^ 6

theorem hourMicroseconds_pos : 0 < hourMicroseconds := by decide

theorem dayMicroseconds_pos : 0 < dayMicroseconds := by decide

/-- `instant + timedelta(hours=hours)`; `none` past `datetime.max`, where Python raises
    `OverflowError`. -/
def UtcInstant.addHours (instant : UtcInstant) (hours : Nat) : Option UtcInstant :=
  let total := instant.microsecond + hours * hourMicroseconds
  (instant.date.addDays (total / dayMicroseconds)).map fun date =>
    ⟨date, total % dayMicroseconds, Nat.mod_lt _ dayMicroseconds_pos⟩

theorem UtcInstant.ticks_addHours {instant later : UtcInstant} {hours : Nat}
    (shifted : instant.addHours hours = some later) :
    later.ticks = instant.ticks + hours * hourMicroseconds := by
  obtain ⟨date, days, rfl⟩ := Option.map_eq_some_iff.mp shifted
  have ordinals := Date.toOrdinal_addDays days
  have parts := Nat.div_add_mod (instant.microsecond + hours * hourMicroseconds) dayMicroseconds
  simp only [ticks, ordinals]
  zify at parts
  push_cast
  linear_combination parts

namespace Cases

/-- Source `_BANDS`. -/
inductive Band where
  | act
  | amber
  | watch
  deriving DecidableEq, Repr

namespace Band

def value : Band → Text
  | act => "act".toList
  | amber => "amber".toList
  | watch => "watch".toList

/-- Source `_band`, on a text. -/
def read (raw : Text) : Except DomainError Band :=
  match [act, amber, watch].find? fun band => band.value = Text.lower (Text.strip raw) with
  | some band => .ok band
  | none => .error (.validationError "Case band must be one of act, amber, watch." "case.band")

end Band

/-- Source `SlaThresholds`, with the checks of `__post_init__`. -/
structure SlaThresholds where
  actSlaHours : Nat
  amberSlaHours : Nat
  watchSlaHours : Nat
  positive : 0 < actSlaHours ∧ 0 < amberSlaHours ∧ 0 < watchSlaHours
  ordered : actSlaHours ≤ amberSlaHours ∧ amberSlaHours ≤ watchSlaHours

/-- Source `sla_hours`. -/
def slaHours (band : Band) (thresholds : SlaThresholds) : Nat :=
  match band with
  | .act => thresholds.actSlaHours
  | .amber => thresholds.amberSlaHours
  | .watch => thresholds.watchSlaHours

/-- Source `BusinessCalendar`: `add_hours`, or what it raises. -/
abbrev BusinessCalendar := UtcInstant → Nat → Except DomainError UtcInstant

/-- A result, or the `OverflowError` of a date past `datetime.max`. -/
def orOverflow {α : Type} : Option α → Except DomainError α
  | some value => .ok value
  | none => .error ⟨.raised, "date value out of range".toList, none⟩

theorem orOverflow_eq_ok_iff {α : Type} {result : Option α} {value : α} :
    orOverflow result = .ok value ↔ result = some value := by
  cases result <;> simp [orOverflow]

/-- Source `ElapsedHoursCalendar`. -/
def elapsedHoursCalendar : BusinessCalendar := fun startedAt hours =>
  orOverflow (startedAt.addHours hours)

/-- Source `SlaDeadline`, with the check of `__post_init__` on its dates. -/
structure SlaDeadline where
  band : Band
  hours : Nat
  startedAt : UtcInstant
  dueAt : UtcInstant
  ordered : startedAt.ticks ≤ dueAt.ticks

/-- Source `derive_sla`. -/
def deriveSla (band : Band) (startedAt : UtcInstant) (thresholds : SlaThresholds)
    (calendar : BusinessCalendar) : Except DomainError SlaDeadline := do
  let hours := slaHours band thresholds
  let due ← calendar startedAt hours
  if ordered : startedAt.ticks ≤ due.ticks then .ok ⟨band, hours, startedAt, due, ordered⟩
  else .error (.validationError "due_at must not precede started_at." "case.due_at")

/-- Source `is_overdue`: the due instant itself is overdue. -/
def isOverdue (due now : UtcInstant) : Bool := due.ticks ≤ now.ticks

theorem slaHours_pos (band : Band) (thresholds : SlaThresholds) : 0 < slaHours band thresholds := by
  obtain ⟨act, amber, watch⟩ := thresholds.positive
  cases band <;> assumption

theorem deriveSla_eq_ok {band : Band} {startedAt : UtcInstant} {thresholds : SlaThresholds}
    {calendar : BusinessCalendar} {deadline : SlaDeadline}
    (returned : deriveSla band startedAt thresholds calendar = .ok deadline) :
    deadline.hours = slaHours band thresholds ∧
      calendar startedAt (slaHours band thresholds) = .ok deadline.dueAt := by
  unfold deriveSla at returned
  obtain ⟨due, added, rest⟩ := Except.bind_eq_ok_iff.mp returned
  split_ifs at rest with ordered
  have same := Except.ok.inj rest
  subst same
  exact ⟨rfl, added⟩

/-- The default calendar gives a deadline as long as the due date is a date. -/
theorem deriveSla_elapsed_returns {band : Band} {startedAt due : UtcInstant}
    {thresholds : SlaThresholds}
    (shifted : startedAt.addHours (slaHours band thresholds) = some due) :
    ∃ deadline, deriveSla band startedAt thresholds elapsedHoursCalendar = .ok deadline ∧
      deadline.dueAt = due := by
  have added : elapsedHoursCalendar startedAt (slaHours band thresholds) = .ok due :=
    orOverflow_eq_ok_iff.mpr shifted
  have ticks := UtcInstant.ticks_addHours shifted
  have ordered : startedAt.ticks ≤ due.ticks := by
    rw [ticks]
    exact le_add_of_nonneg_right (mul_nonneg (Int.natCast_nonneg _) (Int.natCast_nonneg _))
  refine ⟨⟨band, slaHours band thresholds, startedAt, due, ordered⟩, ?_, rfl⟩
  unfold deriveSla
  rw [Except.bind_eq_ok_iff]
  exact ⟨due, added, dif_pos ordered⟩

end Cases

end CovenantRadar
