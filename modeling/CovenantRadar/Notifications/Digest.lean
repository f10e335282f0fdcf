import CovenantRadar.Notifications.Service

/-!
# The digest dispatcher

Source `notifications/digest.py`: the email rows of a window are bundled into one digest for each
recipient, and the outcome of a digest is recorded on each of its rows.
-/

namespace CovenantRadar

namespace Notifications

/-! ## Assembling -/

/-- Source `DigestWindow`: its start is inclusive and its end exclusive. -/
structure DigestWindow where
  start : UtcInstant
  stop : UtcInstant
  ordered : start.ticks < stop.ticks

/-- Whether a row awaits a digest of a window. -/
def Notification.awaits (row : Notification) (window : DigestWindow) : Bool :=
  decide (row.channel = .email) && decide (row.state = .pending) &&
    row.scheduledFor.any fun due =>
      decide (window.start.ticks ≤ due.ticks) && decide (due.ticks < window.stop.ticks)

/-- Source `DigestEntry`. -/
structure DigestEntry where
  notificationId : Uuid
  template : Text
  title : Text
  summary : Text
  occurredAt : UtcInstant
  subject : Option (Text × Uuid)

/-- Source `EmailDigest`. -/
structure EmailDigest where
  recipientId : Uuid
  recipientEmail : Text
  window : DigestWindow
  entries : List DigestEntry

/-- Source `EmailDigest.notification_ids`. -/
def EmailDigest.notificationIds (digest : EmailDigest) : List Uuid :=
  digest.entries.map DigestEntry.notificationId

/-- What the digest dispatcher is given. -/
structure DigestDeliveryService where
  registry : TemplateRegistry
  settings : DeliverySettings
  maxEntries : Nat
  sender : EmailDigest → Except Text DeliveryResult
  alertRaises : Notification → Option Text

/-- Source `DigestAssembler._query_notifications`. -/
def queryNotifications (table : NotificationTable) (window : DigestWindow) (maxEntries : Nat) :
    List Notification :=
  selectRows table (fun row => row.awaits window) Notification.dueTicks (maxEntries + 1)

/-- Source `_row_optional_text`, on the reference of the subject. -/
def entrySubject : Option (Text × Uuid) → Except DomainError (Option (Text × Uuid))
  | none => .ok none
  | some (type, id) =>
      if type.strip = [] then .error (.validationError
        "Notification subject_type must be non-blank text." "subject_type")
      else .ok (some (type.strip.lower, id))

/-- A row rendered for a digest. -/
def renderEntry (registry : TemplateRegistry) (row : Notification) :
    Except DomainError RenderedNotification := do
  let template ← registry.get row.template
  template.render row.values

/-- Source `DigestAssembler._entry`. -/
def digestEntry (registry : TemplateRegistry) (row : Notification) :
    Except DomainError DigestEntry :=
  if row.template.strip = [] then
    .error (.validationError "Notification template must be non-blank text." "template")
  else match renderEntry registry row with
    | .error _ => .error ⟨.validationError, "Notification ".toList ++ row.id.str ++
        " cannot be rendered for email delivery.".toList, some "payload".toList⟩
    | .ok rendered => do
        let subject ← entrySubject row.subject
        match row.scheduledFor with
        | none => .error ⟨.validationError, "Notification ".toList ++ row.id.str ++
            " has no scheduling timestamp.".toList, some "scheduled_for".toList⟩
        | some occurredAt =>
            if rendered.subject.strip = [] then
              .error (.validationError "DigestEntry.title must be non-blank text." "title")
            else if rendered.body.strip = [] then
              .error (.validationError "DigestEntry.summary must be non-blank text." "summary")
            else .ok ⟨row.id, rendered.template, rendered.subject.strip, rendered.body.strip,
              occurredAt, subject⟩

/-- The entries of one recipient, in order. -/
def sortEntries (entries : List DigestEntry) : List DigestEntry :=
  (entries.insertionSort fun a b => a.notificationId.int ≤ b.notificationId.int).insertionSort
    fun a b => a.occurredAt.ticks ≤ b.occurredAt.ticks

/-- Source `DigestAssembler.assemble`, for the rows of a window and the addresses of recipients. -/
def assemble (service : DigestDeliveryService) (table : NotificationTable) (window : DigestWindow)
    (addresses : Uuid → Except DomainError Text) : Except DomainError (List EmailDigest) := do
  let rows := queryNotifications table window service.maxEntries
  let entries ← (rows.take service.maxEntries).mapM fun row => do
    let entry ← digestEntry service.registry row
    return (row.recipientId, entry)
  if service.maxEntries < rows.length then
    .error ⟨.validationError, "Digest assembly is limited to ".toList ++
      Text.ofNat service.maxEntries ++ " notification entries.".toList,
      some "notifications".toList⟩
  else do
    let digests ← (groupPairs entries).mapM fun group => do
      let email ← addresses group.1
      return EmailDigest.mk group.1 email window (sortEntries group.2)
    return digests.insertionSort fun a b => a.recipientId.int ≤ b.recipientId.int

/-! ## Sending -/

/-- Source `_row_error`. -/
def rowError (text : Text) : Text :=
  let oneLine : Text := text.map fun c => if c = '\r' ∨ c = '\n' then ' ' else c
  if (oneLine.strip.take 2000) = [] then "email digest delivery failed".toList
  else oneLine.strip.take 2000

/-- The result of a call of the sender; an error it raises asks for a retry. -/
def digestResult (answer : Except Text DeliveryResult) : DeliveryResult :=
  match answer with
  | .ok result => result
  | .error error => .retry (some (rowError error)) none

/-- The rows of a digest. -/
def digestRows (table : NotificationTable) (digest : EmailDigest) : List Notification :=
  digest.notificationIds.filterMap table.find

/-- The rows of a table, each replaced by a new one. -/
def putAll (table : NotificationTable) (rows : List Notification) : NotificationTable :=
  rows.foldl KeyedTable.put table

/-- A row of a digest that ends its retries; an alert that fails is raised. -/
def digestDeadLetter (service : DigestDeliveryService) (attempt : Nat) (now : UtcInstant)
    (reason : Text) (row : Notification) : Except DomainError Notification :=
  match service.alertRaises (row.deadLetter attempt now reason) with
  | none => .ok (row.deadLetter attempt now reason)
  | some error => .error ⟨.raised, error, none⟩

/-- The counter of a digest: one more than the highest of its rows. -/
def digestAttempt (rows : List Notification) : Nat :=
  (rows.map Notification.attempts).foldr max 0 + 1

/-- Source `DigestDeliveryService._persist_outcome`, on the rows. -/
def outcomeRows (service : DigestDeliveryService) (rows : List Notification)
    (result : DeliveryResult) (now : UtcInstant) : Except DomainError (List Notification) :=
  let attempt := digestAttempt rows
  if result = .sent then .ok (rows.map fun row => row.markSent attempt now)
  else
    let reason := rowError (result.error.getD "email digest delivery failed".toList)
    if endsRetries service.settings result attempt then
      rows.mapM (digestDeadLetter service attempt now reason)
    else do
      let again ← inRange (now.plus (retryDelay service.settings result attempt * 10 ^ 6))
      return rows.map fun row => row.reschedule attempt again reason

/-- Source `DigestDeliveryService._persist_outcome`. -/
def persistOutcome (service : DigestDeliveryService) (table : NotificationTable)
    (digest : EmailDigest) (result : DeliveryResult) (now : UtcInstant) :
    Except DomainError NotificationTable :=
  match digest.notificationIds.find? fun id => (table.find id).isNone with
  | some id => .error ⟨.externalServiceError,
      "Digest source notification disappeared during delivery: ".toList ++ id.str, none⟩
  | none =>
      match (digestRows table digest).find? fun row => decide (row.state ≠ .pending) with
      | some row => .error ⟨.externalServiceError,
          "Digest source notification is no longer pending: ".toList ++ row.id.str, none⟩
      | none => (outcomeRows service (digestRows table digest) result now).map (putAll table)

/-- One digest, sent and recorded. -/
def sendDigest (service : DigestDeliveryService) (now : UtcInstant) (table : NotificationTable)
    (digest : EmailDigest) : Sending :=
  let result := digestResult (service.sender digest)
  ((digestRows table digest).map fun row => ⟨row, true, none, result⟩,
    persistOutcome service table digest result now)

/-- Source `DigestDeliveryService.send_window`. -/
def sendWindow (service : DigestDeliveryService) (table : NotificationTable)
    (window : DigestWindow) (addresses : Uuid → Except DomainError Text) (now : UtcInstant) :
    Sending :=
  match assemble service table window addresses with
  | .error error => ([], .error error)
  | .ok digests => sendEach (sendDigest service now) table digests

end Notifications

end CovenantRadar
