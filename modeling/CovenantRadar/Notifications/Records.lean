import CovenantRadar.Cases.Records
import CovenantRadar.Notifications.Templates

/-!
# Notifications and those they are for

Source `db/models/workflow.py`, `ports/notifier.py` and `notifications/preferences.py`: the row of a
notification, the message an adapter is handed and its result, the preferences of a recipient, and
what decides who is active and who sees a subject.
-/

namespace CovenantRadar

namespace Notifications

/-- `OverflowError: date value out of range`. -/
def outOfRange : DomainError := ⟨.raised, "date value out of range".toList, none⟩

/-- An instant that a computation gives, or the error it raises. -/
def inRange (instant : Option UtcInstant) : Except DomainError UtcInstant :=
  instant.elim (.error outOfRange) .ok

/-! ## Rows -/

/-- Source `NotificationState`. -/
inductive NotificationState where
  | pending
  | sent
  | suppressed
  | failed
  | deadLettered
  deriving DecidableEq

/-- Source `NotificationChannel`. -/
inductive NotificationChannel where
  | inApp
  | email
  | webhook
  deriving DecidableEq

/-- Source `Notification`: the row of `db/models/workflow.py`. -/
structure Notification where
  id : Uuid
  recipientId : Uuid
  channel : NotificationChannel
  template : Text
  subject : Option (Text × Uuid)
  payload : Option JsonMapping
  state : NotificationState
  scheduledFor : Option UtcInstant
  sentAt : Option UtcInstant
  attempts : Nat
  lastError : Option Text
  deadLetteredAt : Option UtcInstant

/-- The table of the notifications. -/
abbrev NotificationTable := KeyedTable Notification.id

theorem noEntries_readsBack : Json.ReadsBack (.obj []) := trivial

theorem noEntries_distinct : Json.distinctKeys (.obj []) = true := rfl

/-- `row.payload or {}`. -/
def Notification.values (row : Notification) : JsonMapping :=
  row.payload.getD ⟨[], noEntries_readsBack, noEntries_distinct⟩

/-! ## Messages and results -/

/-- Source `OutboundMessage`. -/
structure OutboundMessage where
  recipientId : Uuid
  channel : NotificationChannel
  template : Text
  subject : Text
  body : Text
  payload : JsonMapping
  reference : Option (Text × Uuid)
  scheduledFor : Option UtcInstant
  attempt : Nat

/-- Source `OutboundMessage.__post_init__`, on the reference of the subject. -/
def normalizeReference : Option (Text × Uuid) → Except DomainError (Option (Text × Uuid))
  | none => .ok none
  | some (type, id) => do
      let text ← boundedText type "subject_type" 50
      return some (text.lower, id)

/-- Source `OutboundMessage`, as it is built for a row. -/
def OutboundMessage.make (row : Notification) (rendered : RenderedNotification) :
    Except DomainError OutboundMessage := do
  let template ← boundedText rendered.template "template" 100
  let subject ← boundedText rendered.subject "subject" 500
  let body ← boundedText rendered.body "body" 100000
  let reference ← normalizeReference row.subject
  return ⟨row.recipientId, row.channel, template, subject, body, rendered.payload, reference,
    row.scheduledFor, row.attempts + 1⟩

/-- Source `DeliveryResult`: a sent delivery carries no error, a dead-lettered one carries one. -/
inductive DeliveryResult where
  | sent
  | retry (error : Option Text) (retryAfterSeconds : Option Nat)
  | deadLettered (error : Text)
  deriving DecidableEq

/-- `result.error`. -/
def DeliveryResult.error : DeliveryResult → Option Text
  | .sent => none
  | .retry error _ => error
  | .deadLettered error => some error

/-- `result.retry_after_seconds`. -/
def DeliveryResult.retryAfterSeconds : DeliveryResult → Option Nat
  | .retry _ seconds => seconds
  | _ => none

/-! ## Preferences -/

/-- Source `DigestFrequency`. -/
inductive DigestFrequency where
  | immediate
  | morning
  | daily
  | weekly
  deriving DecidableEq

/-- The quiet hours of a preference, in microseconds of the day. -/
structure QuietHours where
  start : Nat
  stop : Nat
  startInDay : start < dayMicroseconds
  stopInDay : stop < dayMicroseconds
  differ : start ≠ stop

/-- Source `NotificationPreference`. -/
structure NotificationPreference where
  template : Text
  enabled : Bool
  quietHours : Option QuietHours
  digestFrequency : DigestFrequency

/-- Source `NON_SUPPRESSIBLE_TEMPLATES`. -/
def nonSuppressibleTemplates : List String := ["security_alert", "system_failure"]

/-- Source `NotificationPreference.allows`. -/
def NotificationPreference.allows (preference : NotificationPreference)
    (templateNonSuppressible : Bool) : Bool :=
  preference.enabled || templateNonSuppressible ||
    (nonSuppressibleTemplates.map String.toList).contains preference.template

/-- The offset of `Asia/Kolkata`, in microseconds. -/
def istOffset : Int := 19800 * 10 ^ 6

/-- Source `_in_quiet_window`. -/
def inQuietWindow (value : Nat) (hours : QuietHours) : Bool :=
  if hours.start < hours.stop then decide (hours.start ≤ value ∧ value < hours.stop)
  else decide (hours.start ≤ value ∨ value < hours.stop)

/-- Source `_quiet_end`, of a local time. -/
def quietEnd (now : UtcInstant) (hours : QuietHours) : Option UtcInstant :=
  let date := if hours.stop < hours.start ∧ hours.start ≤ now.microsecond then now.date.next
    else some now.date
  date.map fun date => ⟨date, hours.stop, hours.stopInDay⟩

/-- Source `NotificationPreference.deferred_until`. -/
def NotificationPreference.deferredUntil (preference : NotificationPreference)
    (instant : UtcInstant) : Except DomainError (Option UtcInstant) :=
  match preference.quietHours with
  | none => .ok none
  | some hours => do
      let now ← inRange (instant.plus istOffset)
      if inQuietWindow now.microsecond hours then do
        let stop ← inRange (quietEnd now hours)
        let resumed ← inRange (stop.plus (-istOffset))
        return some resumed
      else return none

theorem nine_inDay : 9 * 3600 * 10 ^ 6 < dayMicroseconds := by decide

/-- Nine o'clock on a date. -/
def nineOn (date : Date) : UtcInstant := ⟨date, 9 * 3600 * 10 ^ 6, nine_inDay⟩

/-- Nine o'clock on a date, or a number of days later where that is not after the time. -/
def nextNine (now : UtcInstant) (date : Date) (days : Nat) : Option UtcInstant :=
  if (nineOn date).ticks ≤ now.ticks then (date.addDays days).map nineOn else some (nineOn date)

/-- Source `_next_digest_window`, of a local time. -/
def nextDigestWindow (now : UtcInstant) : DigestFrequency → Option UtcInstant
  | .immediate => some now
  | .morning | .daily => nextNine now now.date 1
  | .weekly =>
      let weekday := (now.date.toOrdinal + 6) % 7
      (now.date.addDays ((7 - weekday) % 7)).bind fun monday => nextNine now monday 7

/-- Source `_defer_quiet`, of a local time. -/
def deferQuiet (candidate : UtcInstant) : Option QuietHours → Option UtcInstant
  | none => some candidate
  | some hours =>
      if inQuietWindow candidate.microsecond hours then quietEnd candidate hours else some candidate

/-- Source `NotificationPreference.schedule_for`. -/
def NotificationPreference.scheduleFor (preference : NotificationPreference)
    (instant : UtcInstant) : Except DomainError UtcInstant := do
  let now ← inRange (instant.plus istOffset)
  let candidate ← inRange (nextDigestWindow now preference.digestFrequency)
  let deferred ← inRange (deferQuiet candidate preference.quietHours)
  inRange (deferred.plus (-istOffset))

/-! ## Who may be told -/

/-- Source `AppUser`, as a dispatcher reads it. -/
structure AppUser where
  id : Uuid
  isActive : Bool

/-- Who is active, what each may do and see, and where each subject belongs. -/
structure Directory where
  users : KeyedTable AppUser.id
  permissions : Uuid → Except DomainError (List Security.Permission)
  resolveScope : Uuid → List Security.Permission → Except DomainError Cases.Scope
  ownershipPath : Text → Uuid → Option Text

/-- Source `_SUBJECT_MODELS`. -/
def subjectModels : List String :=
  ["borrower", "case", "certificate_request", "covenant", "covenant_version", "document",
    "evidence_item", "facility", "forecast", "memo", "triage_entry"]

/-- Whether a recipient exists and is active. -/
def Directory.isActive (directory : Directory) (recipient : Uuid) : Bool :=
  (directory.users.find recipient).any AppUser.isActive

/-- Source `_permissions_for` and `_recipient_scope`. -/
def Directory.recipientScope (directory : Directory) (recipient : Uuid) :
    Except DomainError Cases.Scope := do
  let permissions ← directory.permissions recipient
  let scope ← directory.resolveScope recipient permissions
  if scope.principalId = recipient then .ok scope
  else .error ⟨.validationError, "Recipient scope does not belong to the recipient.".toList, none⟩

/-- Source `_subject_visible`. -/
def Directory.subjectVisible (directory : Directory) (subject : Text × Uuid)
    (scope : Cases.Scope) : Bool :=
  let type := subject.1.strip.lower
  (subjectModels.map String.toList).contains type &&
    (directory.ownershipPath type subject.2).any scope.includes

/-- Whether a recipient sees a subject. -/
def Directory.sees (directory : Directory) (recipient : Uuid) (subject : Text × Uuid) : Bool :=
  match directory.recipientScope recipient with
  | .ok scope => directory.subjectVisible subject scope
  | .error _ => false

end Notifications

end CovenantRadar
