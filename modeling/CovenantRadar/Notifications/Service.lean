import CovenantRadar.Notifications.Records

/-!
# The immediate dispatcher

Source `services/notifications.py`: queueing a notification for its recipients, sending the rows that
are due, and replaying dead letters. A call that raises leaves the table to be rolled back; what was
handed to the adapter before stays handed.
-/

namespace CovenantRadar

namespace Notifications

/-! ## Sending -/

/-- The bounds of a dispatcher. -/
structure DeliverySettings where
  retryBaseSeconds : Nat
  maxAttempts : Nat
  base : 1 ≤ retryBaseSeconds ∧ retryBaseSeconds ≤ 3600
  attempts : 1 ≤ maxAttempts ∧ maxAttempts ≤ 20

/-- An attempt to deliver a row: whether an adapter was handed it, the message it was handed where
    it was not a digest, and the result. -/
structure Attempt where
  notification : Notification
  handed : Bool
  message : Option OutboundMessage
  result : DeliveryResult

/-- The attempts of a call, and the table it leaves or the error it raises. -/
abbrev Sending := List Attempt × Except DomainError NotificationTable

/-- What the immediate dispatcher is given. -/
structure NotificationService where
  registry : TemplateRegistry
  settings : DeliverySettings
  notifier : Option (Uuid → OutboundMessage → Except Text DeliveryResult)
  alertFails : Notification → Option Text

/-- Source `_error_text`. -/
def errorText (text : Text) : Text :=
  (if text.strip = [] then "notification delivery failed".toList else text.strip).take 2000

/-- Source `_suppress`. -/
def Notification.suppress (row : Notification) (reason : Text) : Notification :=
  { row with
    state := .suppressed
    lastError := some (errorText reason) }

/-- What comes before the adapter is called: the row is kept from it, the message cannot be made, or
    the message is ready. -/
inductive Prepared where
  | kept (row : Notification)
  | failed (error : Text)
  | ready (message : OutboundMessage)

/-- Source `_send_one`, from the rendering on. -/
def prepareMessage (template : NotificationTemplate) (row : Notification) : Prepared :=
  match template.render row.values with
  | .error error => .kept (row.suppress error.message)
  | .ok rendered =>
      match OutboundMessage.make row rendered with
      | .error error => .failed (errorText error.message)
      | .ok message => .ready message

/-- Source `_send_one`, the check of the subject and the rendering. -/
def prepareVisible (directory : Directory) (template : NotificationTemplate) (row : Notification) :
    Except DomainError Prepared :=
  match row.subject with
  | none => .ok (prepareMessage template row)
  | some subject => do
      let scope ← directory.recipientScope row.recipientId
      let outOfScope := "recipient no longer has access to the notification subject".toList
      return if directory.subjectVisible subject scope then prepareMessage template row
        else .kept (row.suppress outOfScope)

/-- Source `_send_one`, up to the call of the adapter. -/
def prepare (registry : TemplateRegistry) (directory : Directory)
    (preferences : Uuid → Text → NotificationChannel → NotificationPreference) (now : UtcInstant)
    (row : Notification) : Except DomainError Prepared :=
  if !directory.isActive row.recipientId then
    .ok (.kept (row.suppress "recipient is inactive at delivery time".toList))
  else match registry.get row.template with
    | .error error => .ok (.kept (row.suppress error.message))
    | .ok template =>
        let preference := preferences row.recipientId template.name row.channel
        if !preference.allows template.nonSuppressible then
          .ok (.kept (row.suppress "notification disabled by recipient preference".toList))
        else do
          let deferred ← preference.deferredUntil now
          match deferred with
          | some resumed => return .kept { row with
              scheduledFor := some resumed
              lastError := some "notification deferred by recipient quiet hours".toList }
          | none => prepareVisible directory template row

/-- `min(retry_base_seconds * (2 ** (attempt - 1)), _MAX_RETRY_SECONDS)`, unless the result names a
    delay. -/
def retryDelay (settings : DeliverySettings) (result : DeliveryResult) (attempt : Nat) : Nat :=
  result.retryAfterSeconds.getD (min (settings.retryBaseSeconds * 2 ^ (attempt - 1)) 3600)

/-- A row after a failed attempt that ends its retries. -/
def Notification.deadLetter (row : Notification) (attempt : Nat) (now : UtcInstant)
    (reason : Text) : Notification :=
  { row with
    attempts := attempt
    state := .deadLettered
    deadLetteredAt := some now
    lastError := some reason }

/-- Source `_alert_dead_letter`: an alert that fails is noted. -/
def alertDeadLetter (service : NotificationService) (row : Notification) (reason : Text) :
    Notification :=
  match service.alertFails row with
  | none => row
  | some name => { row with
      lastError := some (errorText (reason ++ "; dead-letter alert failed: ".toList ++ name)) }

/-- Whether a result ends the retries: an explicit dead letter, or the last attempt. -/
def endsRetries (settings : DeliverySettings) (result : DeliveryResult) (attempt : Nat) : Bool :=
  match result with
  | .deadLettered _ => true
  | _ => decide (settings.maxAttempts ≤ attempt)

/-- A row that is to be sent again. -/
def Notification.reschedule (row : Notification) (attempt : Nat) (at' : UtcInstant)
    (reason : Text) : Notification :=
  { row with
    attempts := attempt
    state := .pending
    scheduledFor := some at'
    lastError := some reason }

/-- A row that was sent. -/
def Notification.markSent (row : Notification) (attempt : Nat) (now : UtcInstant) : Notification :=
  { row with
    attempts := attempt
    state := .sent
    sentAt := some now
    lastError := none }

/-- Source `_send_one`, after the call of the adapter. -/
def afterSending (service : NotificationService) (now : UtcInstant) (row : Notification)
    (result : DeliveryResult) : Except DomainError Notification :=
  let attempt := row.attempts + 1
  if result = .sent then .ok (row.markSent attempt now)
  else
    let reason := errorText (result.error.getD "notification delivery failed".toList)
    if endsRetries service.settings result attempt then
      .ok (alertDeadLetter service (row.deadLetter attempt now reason) reason)
    else do
      let again ← inRange (now.plus (retryDelay service.settings result attempt * 10 ^ 6))
      return row.reschedule attempt again reason

/-- The result of a call of the adapter; an error it raises asks for a retry. -/
def resultOf (answer : Except Text DeliveryResult) : DeliveryResult :=
  match answer with
  | .ok result => result
  | .error error => .retry (some (errorText error)) none

/-- Source `_send_one`. -/
def sendOne (service : NotificationService) (directory : Directory)
    (preferences : Uuid → Text → NotificationChannel → NotificationPreference) (now : UtcInstant)
    (notifier : Uuid → OutboundMessage → Except Text DeliveryResult) (row : Notification) :
    List Attempt × Except DomainError Notification :=
  match prepare service.registry directory preferences now row with
  | .error error => ([], .error error)
  | .ok (.kept kept) => ([], .ok kept)
  | .ok (.failed error) =>
      let result := DeliveryResult.retry (some error) none
      ([⟨row, false, none, result⟩], afterSending service now row result)
  | .ok (.ready message) =>
      let result := resultOf (notifier row.id message)
      ([⟨row, true, some message, result⟩], afterSending service now row result)

/-- Rows, or digests, one after the other, until one raises. -/
def sendEach {α : Type} (send : NotificationTable → α → Sending) :
    NotificationTable → List α → Sending
  | table, [] => ([], .ok table)
  | table, item :: items =>
      match send table item with
      | (attempts, .error error) => (attempts, .error error)
      | (attempts, .ok next) =>
          (attempts ++ (sendEach send next items).1, (sendEach send next items).2)

/-- A row that is sent in its table. -/
def sendIn (send : Notification → List Attempt × Except DomainError Notification)
    (table : NotificationTable) (row : Notification) : Sending :=
  ((send row).1, (send row).2.map table.put)

/-- `select(Notification).where(p).order_by(key, Notification.id).limit(limit)`. -/
def selectRows (table : NotificationTable) (p : Notification → Bool) (key : Notification → Int)
    (limit : Nat) : List Notification :=
  (((table.rows.filter p).insertionSort fun a b => a.id.int ≤ b.id.int).insertionSort
    fun a b => key a ≤ key b).take limit

/-- The order of the schedule. -/
def Notification.dueTicks (row : Notification) : Int := row.scheduledFor.elim 0 UtcInstant.ticks

/-- The rows that are due, in the order they are sent in. -/
def dueRows (table : NotificationTable) (now : UtcInstant) (limit : Nat) : List Notification :=
  selectRows table (fun row => decide (row.state = .pending) &&
    row.scheduledFor.any fun due => decide (due.ticks ≤ now.ticks)) Notification.dueTicks limit

/-- `ExternalServiceError("Notification delivery is not configured.")`. -/
def notConfigured : DomainError :=
  ⟨.externalServiceError, "Notification delivery is not configured.".toList, none⟩

/-- Source `NotificationService.send_due`. -/
def sendDue (service : NotificationService) (directory : Directory)
    (preferences : Uuid → Text → NotificationChannel → NotificationPreference)
    (table : NotificationTable) (limit : Nat) (now : UtcInstant) : Sending :=
  match service.notifier with
  | none => ([], .error notConfigured)
  | some notifier =>
      if limit < 1 ∨ 1000 < limit then
        ([], .error (.validationError "limit must be between 1 and 1000." "limit"))
      else sendEach (sendIn (sendOne service directory preferences now notifier)) table
        (dueRows table now limit)

/-! ## Replaying -/

/-- A dead letter that is to be sent again, with a fresh retry window. -/
def Notification.revive (row : Notification) (now : UtcInstant) : Notification :=
  { row with
    state := .pending
    attempts := 0
    scheduledFor := some now
    deadLetteredAt := none
    lastError := none }

/-- Source `NotificationService.replay_dead_letter`. -/
def replayDeadLetter (service : NotificationService) (directory : Directory)
    (preferences : Uuid → Text → NotificationChannel → NotificationPreference)
    (table : NotificationTable) (id : Uuid) (now : UtcInstant) : Sending :=
  match table.find id with
  | none => ([], .error (.notFound ("Notification ".toList ++ id.str ++
      " was not found.".toList)))
  | some row =>
      if row.state = .sent then ([], .ok table)
      else if row.state ≠ .deadLettered then
        ([], .error ⟨.validationError, "Notification ".toList ++ id.str ++
          " is not a dead letter.".toList, some "notification_id".toList⟩)
      else match service.notifier with
        | none => ([], .error notConfigured)
        | some notifier => sendIn (sendOne service directory preferences now notifier) table
            (row.revive now)

/-- Source `NotificationService.list_dead_letters`. -/
def deadLetters (table : NotificationTable) (limit : Nat) : List Notification :=
  selectRows table (fun row => decide (row.channel = .webhook) &&
    decide (row.state = .deadLettered)) (fun row => row.deadLetteredAt.elim 0 UtcInstant.ticks) limit

/-- Source `NotificationService.replay_dead_letters`. -/
def replayDeadLetters (service : NotificationService) (directory : Directory)
    (preferences : Uuid → Text → NotificationChannel → NotificationPreference)
    (table : NotificationTable) (limit : Nat) (now : UtcInstant) : Sending :=
  if limit < 1 ∨ 1000 < limit then
    ([], .error (.validationError "limit must be between 1 and 1000." "limit"))
  else sendEach
    (fun table row => replayDeadLetter service directory preferences table row.id now) table
    (deadLetters table limit)

end Notifications

end CovenantRadar
