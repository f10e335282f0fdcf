import CovenantRadar.Notifications.Digest

/-!
# Runs of the dispatchers

The notifications, the directory and the preferences under queueing, changes of who is active and
who sees what, and the calls of both dispatchers, in any order.
-/

namespace CovenantRadar

namespace Notifications

/-! ## Queueing -/

/-- What a call of `queue` is given, its recipients resolved. -/
structure QueueRequest where
  template : NotificationTemplate
  channel : NotificationChannel
  subject : Option (Text × Uuid)
  scheduledFor : Option UtcInstant
  recipients : List Uuid
  now : UtcInstant
  newId : Uuid → Uuid
  visiblePayload : Cases.Scope → Except DomainError (Option JsonMapping)

/-- What the dispatchers and their callers work on. -/
structure Office where
  notifications : NotificationTable
  directory : Directory
  preferences : Uuid → Text → NotificationChannel → NotificationPreference

/-- Source `_new_row`. -/
def newRow (request : QueueRequest) (recipient : Uuid) (payload : JsonMapping)
    (state : NotificationState) (scheduledFor : UtcInstant) (lastError : Option Text) :
    Notification where
  id := request.newId recipient
  recipientId := recipient
  channel := request.channel
  template := request.template.name
  subject := request.subject
  payload := some payload
  state := state
  scheduledFor := some scheduledFor
  sentAt := none
  attempts := 0
  lastError := lastError.map errorText
  deadLetteredAt := none

/-- A row that is suppressed as it is queued. -/
def suppressedRow (request : QueueRequest) (recipient : Uuid) (reason : String) : Notification :=
  newRow request recipient ⟨[], noEntries_readsBack, noEntries_distinct⟩ .suppressed request.now
    (some reason.toList)

/-- Source `NotificationService.queue`, for a payload the recipient sees. -/
def queueVisible (office : Office) (request : QueueRequest) (recipient : Uuid)
    (payload : JsonMapping) : Except DomainError Notification := do
  let _ ← request.template.render payload
  let preference := office.preferences recipient request.template.name request.channel
  if !preference.allows request.template.nonSuppressible then
    return suppressedRow request recipient "notification disabled by recipient preference"
  else do
    let base := request.scheduledFor.getD request.now
    let preferred ← preference.scheduleFor base
    let schedule := if base.ticks < preferred.ticks then preferred else base
    return newRow request recipient payload .pending schedule none

/-- Source `NotificationService.queue`, for what the disclosure policy leaves of the payload. -/
def queueFiltered (office : Office) (request : QueueRequest) (recipient : Uuid) :
    Option JsonMapping → Except DomainError Notification
  | none => .ok (suppressedRow request recipient
      "all notification content was removed by recipient scope")
  | some payload => queueVisible office request recipient payload

/-- Source `NotificationService.queue`, for one recipient. -/
def queueFor (office : Office) (request : QueueRequest) (recipient : Uuid) :
    Except DomainError Notification :=
  match office.directory.users.find recipient with
  | none => .error (.notFound ("Notification recipient ".toList ++ recipient.str ++
      " was not found.".toList))
  | some user =>
      if !user.isActive then
        .ok (suppressedRow request recipient "recipient is inactive at delivery time")
      else do
        let scope ← office.directory.recipientScope recipient
        if request.subject.any fun subject => !office.directory.subjectVisible subject scope then
          return suppressedRow request recipient
            "recipient no longer has access to the notification subject"
        else do
          let visible ← request.visiblePayload scope
          queueFiltered office request recipient visible

/-- A new row in the table. -/
def insertRow (table : NotificationTable) (row : Notification) :
    Except DomainError NotificationTable :=
  if fresh : table.find row.id = none then .ok (table.insert row fresh)
  else .error ⟨.raised, "UNIQUE constraint failed: notification.id".toList, none⟩

/-- Source `NotificationService.queue`. -/
def queue (office : Office) (request : QueueRequest) : Except DomainError NotificationTable := do
  let rows ← request.recipients.mapM (queueFor office request)
  rows.foldlM insertRow office.notifications

/-- A pending row that another service writes to the table itself. -/
structure WrittenRow where
  id : Uuid
  recipientId : Uuid
  channel : NotificationChannel
  template : Text
  subject : Option (Text × Uuid)
  payload : Option JsonMapping
  scheduledFor : Option UtcInstant

/-- The row as it is written. -/
def WrittenRow.notification (row : WrittenRow) : Notification where
  id := row.id
  recipientId := row.recipientId
  channel := row.channel
  template := row.template
  subject := row.subject
  payload := row.payload
  state := .pending
  scheduledFor := row.scheduledFor
  sentAt := none
  attempts := 0
  lastError := none
  deadLetteredAt := none

/-! ## Steps -/

/-- What happens: rows are queued or written, the directory or the preferences change, or one of the
    dispatchers is called. -/
inductive Op where
  | queue (request : QueueRequest)
  | write (rows : List WrittenRow)
  | changeDirectory (directory : Directory)
  | changePreferences
      (preferences : Uuid → Text → NotificationChannel → NotificationPreference)
  | sendDue (service : NotificationService) (limit : Nat) (now : UtcInstant)
  | replay (service : NotificationService) (id : Uuid) (now : UtcInstant)
  | replayAll (service : NotificationService) (limit : Nat) (now : UtcInstant)
  | sendWindow (service : DigestDeliveryService) (window : DigestWindow)
      (addresses : Uuid → Except DomainError Text) (now : UtcInstant)

/-- What a step does to the table. -/
def send (office : Office) : Op → Sending
  | .queue request => ([], queue office request)
  | .write rows => ([], (rows.map WrittenRow.notification).foldlM insertRow office.notifications)
  | .changeDirectory _ | .changePreferences _ => ([], .ok office.notifications)
  | .sendDue service limit now =>
      sendDue service office.directory office.preferences office.notifications limit now
  | .replay service id now =>
      replayDeadLetter service office.directory office.preferences office.notifications id now
  | .replayAll service limit now =>
      replayDeadLetters service office.directory office.preferences office.notifications limit now
  | .sendWindow service window addresses now =>
      sendWindow service office.notifications window addresses now

/-- The attempts of a step. -/
def attemptsOf (office : Office) (op : Op) : List Attempt := (send office op).1

/-- The directory after a step. -/
def directoryAfter (office : Office) : Op → Directory
  | .changeDirectory directory => directory
  | _ => office.directory

/-- The preferences after a step. -/
def preferencesAfter (office : Office) :
    Op → Uuid → Text → NotificationChannel → NotificationPreference
  | .changePreferences preferences => preferences
  | _ => office.preferences

/-- The office after a step: what a step that raises wrote is rolled back. -/
def step (office : Office) (op : Op) : Office where
  notifications := match (send office op).2 with
    | .ok table => table
    | .error _ => office.notifications
  directory := directoryAfter office op
  preferences := preferencesAfter office op

/-- The office after steps one after the other. -/
def run (office : Office) (ops : List Op) : Office := ops.foldl step office

/-- The attempts of steps one after the other. -/
def attemptsOver : Office → List Op → List Attempt
  | _, [] => []
  | office, op :: ops => attemptsOf office op ++ attemptsOver (step office op) ops

/-- An office without notifications. -/
def opened (directory : Directory)
    (preferences : Uuid → Text → NotificationChannel → NotificationPreference) : Office :=
  ⟨KeyedTable.empty, directory, preferences⟩

end Notifications

end CovenantRadar
