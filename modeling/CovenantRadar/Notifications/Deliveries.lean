import CovenantRadar.Notifications.Rows

/-!
# What is delivered, and what becomes of a notification

Over a run of both dispatchers: who is active and sees the subject of what is handed to an adapter,
and how often a notification failed before it is dead-lettered. The digest dispatcher looks at neither
the recipient nor the subject, and records the highest counter of a digest on each of its rows.
-/

namespace CovenantRadar

namespace Notifications

/-! ## Deliveries -/

/-- What is handed to an adapter over a run, and who is active and sees what then. -/
def deliveries : Office → List Op → List (Directory × Notification)
  | _, [] => []
  | office, op :: ops =>
      ((attemptsOf office op).filter Attempt.handed).map
        (fun a => (office.directory, a.notification)) ++ deliveries (step office op) ops

/-- Whether each row a window is called for may be delivered. -/
def Op.CarefulIn (office : Office) : Op → Prop
  | .sendWindow _ window _ _ => ∀ row ∈ office.notifications.rows, row.awaits window = true →
      office.directory.mayReceive row
  | _ => True

/-- A run whose windows are called only for rows that may be delivered. -/
def CarefulRun : Office → List Op → Prop
  | _, [] => True
  | office, op :: ops => op.CarefulIn office ∧ CarefulRun (step office op) ops

theorem SentFrom.mayReceive {service : NotificationService} {directory : Directory}
    {preferences : Uuid → Text → NotificationChannel → NotificationPreference} {now : UtcInstant}
    {table : NotificationTable} {a : Attempt}
    (sent : SentFrom service directory preferences now table a) :
    directory.mayReceive a.notification := by
  obtain ⟨_, _, _, _, _, made⟩ := sent
  obtain ⟨same, may⟩ := sendOne_mayReceive made
  rw [same]
  exact may

/-- What a careful step attempts may be delivered. -/
theorem attemptsOf_mayReceive {office : Office} {op : Op} {a : Attempt}
    (careful : op.CarefulIn office) (made : a ∈ attemptsOf office op) :
    office.directory.mayReceive a.notification := by
  cases op with
  | queue => cases made
  | write => cases made
  | changeDirectory => cases made
  | changePreferences => cases made
  | sendDue => exact (sendDue_sentFrom made).mayReceive
  | replay => exact (replayDeadLetter_sentFrom made).mayReceive
  | replayAll => exact (replayDeadLetters_sentFrom made).mayReceive
  | sendWindow => exact sendWindow_mayReceive careful made

/-- What a careful run delivers may be delivered. -/
theorem deliveries_mayReceive {office : Office} {ops : List Op} (careful : CarefulRun office ops) :
    ∀ delivery ∈ deliveries office ops, delivery.1.mayReceive delivery.2 := by
  induction ops generalizing office with
  | nil => exact fun delivery listed => absurd listed List.not_mem_nil
  | cons op ops ih =>
    intro delivery listed
    rcases List.mem_append.mp listed with now | later
    · obtain ⟨a, handed, rfl⟩ := List.mem_map.mp now
      exact attemptsOf_mayReceive careful.1 (List.mem_filter.mp handed).1
    · exact ih careful.2 delivery later

/-! ## An hour of digests -/

theorem june_valid : 1 ≤ 2026 ∧ 2026 ≤ 9999 ∧ 1 ≤ 6 ∧ 6 ≤ 12 ∧
    1 ≤ 1 ∧ 1 ≤ daysInMonth 2026 6 := by decide

theorem minute_inDay (n : Fin 60) : n.val * 60 * 10 ^ 6 < dayMicroseconds := by
  unfold dayMicroseconds
  omega

/-- A minute after midnight on 1 June 2026. -/
def juneMinute (n : Fin 60) : UtcInstant :=
  ⟨⟨2026, 6, 1, june_valid⟩, n.val * 60 * 10 ^ 6, minute_inDay n⟩

theorem juneHour_ordered : (juneMinute 0).ticks < (juneMinute 59).ticks := by decide

theorem twoAttempts_base : 1 ≤ 60 ∧ 60 ≤ 3600 := by decide

theorem twoAttempts_attempts : 1 ≤ 2 ∧ 2 ≤ 20 := by decide

/-- A digest dispatcher of two attempts whose sender always gives the same result. -/
def digestsOf (result : DeliveryResult) : DigestDeliveryService where
  registry := ⟨[⟨"due".toList, [.literal "Due".toList], [.literal "Due.".toList], [], false⟩],
    List.nodup_singleton _⟩
  settings := ⟨60, 2, twoAttempts_base, twoAttempts_attempts⟩
  maxEntries := 10
  sender _ := .ok result
  alertRaises _ := none

/-- An email to the only user. -/
def dueRow (n : Nat) : WrittenRow where
  id := Uuid.ofInt n
  recipientId := Uuid.ofInt 1
  channel := .email
  template := "due".toList
  subject := none
  payload := none
  scheduledFor := some (juneMinute 0)

/-- The digests of the hour. -/
def callDigests (result : DeliveryResult) : Op :=
  .sendWindow (digestsOf result) ⟨juneMinute 0, juneMinute 59, juneHour_ordered⟩
    (fun _ => .ok "user@bank.example".toList) (juneMinute 0)

/-- The start of the hour. -/
def juneStart : UtcInstant := juneMinute 0

/-- One user, active or not. -/
def oneUser (active : Bool) : Directory where
  users := ⟨[⟨Uuid.ofInt 1, active⟩], List.nodup_singleton _⟩
  permissions _ := .ok []
  resolveScope _ _ := .error outOfRange
  ownershipPath _ _ := none

/-- Preferences that keep nothing back. -/
def allowAll : Uuid → Text → NotificationChannel → NotificationPreference :=
  fun _ name _ => ⟨name, true, none, .immediate⟩

/-- An email to a user who stays active. -/
theorem activeUser_receives :
    (deliveries (opened (oneUser true) allowAll) [.write [dueRow 1], callDigests .sent]).length = 1 ∧
      ∀ delivery ∈ deliveries (opened (oneUser true) allowAll) [.write [dueRow 1], callDigests .sent],
        delivery.1.mayReceive delivery.2 := by
  refine ⟨rfl, deliveries_mayReceive ⟨trivial, fun row listed _ => ?_, trivial⟩⟩
  rw [List.mem_singleton.mp (show row ∈ [(dueRow 1).notification] from listed)]
  exact ⟨rfl, fun _ subject => nomatch subject⟩

/-- An email to a user who is deactivated before the digest is sent all the same. -/
theorem inactiveUser_receives : ¬ ∀ directory preferences ops,
    ∀ delivery ∈ deliveries (opened directory preferences) ops,
      delivery.1.mayReceive delivery.2 := by
  intro claimed
  have sent : (oneUser false, (dueRow 1).notification) ∈ deliveries (opened (oneUser true) allowAll)
      [.write [dueRow 1], .changeDirectory (oneUser false), callDigests .sent] :=
    List.mem_singleton_self (oneUser false, (dueRow 1).notification)
  have told := claimed _ _ _ _ sent
  cases told.1

/-! ## One row -/

/-- A row that is queued or written: it was not tried. -/
structure Notification.Untried (row : Notification) : Prop where
  attempts : row.attempts = 0
  state : row.state = .pending ∨ row.state = .suppressed

/-- What a step does to a row with the attempts it makes of it. -/
inductive RowStep (rules : CallRules) (as : List Attempt) :
    Option Notification → Option Notification → Prop
  | same {row : Option Notification} : RowStep rules as row row
  | added {row : Notification} (untried : row.Untried) : RowStep rules as none (some row)
  | updated {row row' : Notification} (updated : Updated rules row as row') :
      RowStep rules as (some row) (some row')

theorem Made.row {rules : CallRules} {table next : NotificationTable} {ids : List Uuid}
    {as : List Attempt} (made : Made rules table ids as next) (distinct : ids.Nodup) (id : Uuid) :
    RowStep rules (attemptsAt id as) (table.find id) (next.find id) := by
  by_cases mine : id ∈ ids
  · obtain ⟨row, row', found, left, updated⟩ := made.find_of_mem distinct mine
    rw [found, left]
    exact .updated updated
  · rw [(made.find_of_notMem mine).1]
    exact .same

theorem suppressedRow_untried (request : QueueRequest) (recipient : Uuid) (reason : String) :
    (suppressedRow request recipient reason).Untried := ⟨rfl, Or.inr rfl⟩

/-- A row that is queued is pending or suppressed. -/
theorem queueFor_untried {office : Office} {request : QueueRequest} {recipient : Uuid}
    {row : Notification} (queued : queueFor office request recipient = .ok row) : row.Untried := by
  unfold queueFor at queued
  split at queued
  · cases queued
  · split_ifs at queued with inactive
    · cases queued
      exact suppressedRow_untried ..
    · obtain ⟨scope, _, queued⟩ := Except.bind_eq_ok_iff.mp queued
      split_ifs at queued with hidden
      · cases queued
        exact suppressedRow_untried ..
      · obtain ⟨visible, _, queued⟩ := Except.bind_eq_ok_iff.mp queued
        cases visible with
        | none =>
          cases queued
          exact suppressedRow_untried ..
        | some payload =>
          obtain ⟨_, _, queued⟩ := Except.bind_eq_ok_iff.mp queued
          simp only at queued
          split_ifs at queued with disabled
          · cases queued
            exact suppressedRow_untried ..
          · obtain ⟨_, _, queued⟩ := Except.bind_eq_ok_iff.mp queued
            cases queued
            exact ⟨rfl, Or.inl rfl⟩

/-- Rows that are added leave the others as they are. -/
theorem foldlM_insertRow {rows : List Notification} {table next : NotificationTable}
    (untried : ∀ row ∈ rows, row.Untried) (added : rows.foldlM insertRow table = .ok next)
    (id : Uuid) : next.find id = table.find id ∨
      table.find id = none ∧ ∃ row, next.find id = some row ∧ row.Untried := by
  induction rows generalizing table with
  | nil =>
    cases added
    exact Or.inl rfl
  | cons row rows ih =>
    rw [List.foldlM_cons] at added
    obtain ⟨mid, inserted, added⟩ := Except.bind_eq_ok_iff.mp added
    have rest := ih (fun other listed => untried other (List.mem_cons_of_mem _ listed)) added
    unfold insertRow at inserted
    split_ifs at inserted with fresh
    cases inserted
    rw [KeyedTable.find_insert fresh] at rest
    split_ifs at rest with here
    · rcases rest with kept | ⟨absent, _⟩
      · exact Or.inr ⟨here ▸ fresh, row, kept, untried row List.mem_cons_self⟩
      · cases absent
    · exact rest

theorem foldlM_insertRow_row {rules : CallRules} {rows : List Notification}
    {table next : NotificationTable} (untried : ∀ row ∈ rows, row.Untried)
    (added : rows.foldlM insertRow table = .ok next) (id : Uuid) :
    RowStep rules [] (table.find id) (next.find id) := by
  rcases foldlM_insertRow untried added id with kept | ⟨absent, row, found, untried⟩
  · rw [kept]
    exact .same
  · rw [absent, found]
    exact .added untried

/-! ## One step -/

/-- The bound of the dispatcher a step calls. -/
def Op.maxAttempts : Op → Nat
  | .sendDue service _ _ => service.settings.maxAttempts
  | .replay service _ _ => service.settings.maxAttempts
  | .replayAll service _ _ => service.settings.maxAttempts
  | .sendWindow service _ _ _ => service.settings.maxAttempts
  | _ => 0

/-- Whether the rows of each digest of a step have equal counters. -/
def Op.EvenIn (office : Office) : Op → Prop
  | .sendWindow service window addresses _ =>
      EvenDigests service office.notifications window addresses
  | _ => True

/-- Whether a step replays a notification. -/
def Op.Replays : Op → Uuid → Prop
  | .replay _ replayed _ => fun id => id = replayed
  | .replayAll _ _ _ => fun _ => True
  | _ => fun _ => False

/-- A step as a call. -/
def Op.rules (office : Office) (op : Op) : CallRules := ⟨op.maxAttempts, op.EvenIn office, op.Replays⟩

/-- What a step that returns does to a row. -/
theorem send_row {office : Office} {op : Op} {as : List Attempt} {next : NotificationTable}
    (sent : send office op = (as, .ok next)) (id : Uuid) :
    RowStep (op.rules office) (attemptsAt id as) (office.notifications.find id) (next.find id) := by
  cases op with
  | queue request =>
    obtain ⟨rfl, queued⟩ := Prod.mk.inj sent
    obtain ⟨rows, resolved, added⟩ := Except.bind_eq_ok_iff.mp queued
    refine foldlM_insertRow_row (fun row listed => ?_) added id
    obtain ⟨recipient, _, queued⟩ := (forall₂_exists (mapM_eq_ok_iff.mp resolved)).2 row listed
    exact queueFor_untried queued
  | write rows =>
    obtain ⟨rfl, added⟩ := Prod.mk.inj sent
    refine foldlM_insertRow_row (fun row listed => ?_) added id
    obtain ⟨written, _, rfl⟩ := List.mem_map.mp listed
    exact ⟨rfl, Or.inl rfl⟩
  | changeDirectory =>
    cases sent
    exact .same
  | changePreferences =>
    cases sent
    exact .same
  | sendDue =>
    obtain ⟨ids, distinct, made⟩ := sendDue_made sent
    exact made.row distinct id
  | replay service replayed now =>
    have allowed : (Op.replay service replayed now).Replays replayed := rfl
    rcases replayDeadLetter_made allowed sent with ⟨_, rfl, _⟩ | made
    · exact .same
    · exact made.row (List.nodup_singleton replayed) id
  | replayAll =>
    obtain ⟨ids, distinct, made⟩ := replayDeadLetters_made (fun _ => trivial) sent
    exact made.row distinct id
  | sendWindow =>
    obtain ⟨ids, distinct, made⟩ := sendWindow_made sent
    exact made.row distinct id

/-- What a step does to a row: nothing, where it raises. -/
theorem step_row (office : Office) (op : Op) (id : Uuid) :
    RowStep (op.rules office) (attemptsAt id (attemptsOf office op))
      (office.notifications.find id) ((step office op).notifications.find id) := by
  unfold attemptsOf step
  cases sent : send office op with
  | mk as result =>
    cases result with
    | error error => exact .same
    | ok next => exact send_row sent id

/-! ## Counters -/

/-- The failed deliveries among attempts. -/
def failed (as : List Attempt) : Nat := as.countP fun a => decide (a.result ≠ .sent)

theorem failed_append (as bs : List Attempt) : failed (as ++ bs) = failed as + failed bs :=
  List.countP_append

theorem failed_singleton {a : Attempt} (failure : a.result ≠ .sent) : failed [a] = 1 := by
  simp [failed, failure]

/-- Whether a row is in order after so many failed deliveries: its counter is no higher, and it is a
    dead letter only by an attempt that says so or by the bound. -/
structure Accounted (maxAttempts failures : Nat) (as : List Attempt) (row : Notification) :
    Prop where
  counter : row.state = .pending → row.attempts ≤ failures
  cause : row.state = .deadLettered →
    (∃ a ∈ as, ∃ error, a.result = .deadLettered error) ∨ maxAttempts ≤ failures

theorem Handled.accounted {maxAttempts attempt failures : Nat} {row row' : Notification}
    {as : List Attempt} (handled : Handled maxAttempts attempt row as row')
    (counted : row.attempts ≤ failures) (bounded : attempt ≤ failures + 1) :
    Accounted maxAttempts (failures + failed as) as row' := by
  cases handled with
  | kept same attempts state =>
    refine ⟨fun _ => attempts ▸ counted, fun dead => ?_⟩
    rw [dead] at state
    rcases state with other | other <;> cases other
  | sent here same state result =>
    refine ⟨fun pending => ?_, fun dead => ?_⟩
    · cases state.symm.trans pending
    · cases state.symm.trans dead
  | @deadLettered a row' here same state failure why =>
    refine ⟨fun pending => ?_, fun _ => ?_⟩
    · cases state.symm.trans pending
    · rw [failed_singleton failure]
      rcases why with ⟨error, explicit⟩ | spent
      · exact Or.inl ⟨a, List.mem_singleton_self a, error, explicit⟩
      · exact Or.inr (spent.trans bounded)
  | retried here same state attempts failure =>
    rw [failed_singleton failure]
    refine ⟨fun _ => attempts ▸ bounded, fun dead => ?_⟩
    cases state.symm.trans dead

theorem Updated.accounted {rules : CallRules} {row row' : Notification} {as : List Attempt}
    {failures : Nat} (updated : Updated rules row as row') (even : rules.even)
    (counted : row.state = .pending → row.attempts ≤ failures) :
    Accounted rules.maxAttempts (failures + failed as) as row' := by
  cases updated with
  | pending attempt count state handled =>
    have bound := counted state
    exact handled.accounted bound (by rw [count even]; omega)
  | replayed now allowed state handled =>
    exact handled.accounted (Nat.zero_le _) (by omega)

/-- A row that a step changes is in order after it. -/
theorem RowStep.accounted {rules : CallRules} {as : List Attempt} {failures : Nat}
    {found left : Option Notification} (row : RowStep rules as found left) (even : rules.even)
    (counted : ∀ row ∈ found, row.state = .pending → row.attempts ≤ failures) :
    left = found ∨ ∀ row' ∈ left, Accounted rules.maxAttempts (failures + failed as) as row' := by
  cases row with
  | same => exact Or.inl rfl
  | @added row untried =>
    refine Or.inr fun row' same => ?_
    cases same
    refine ⟨fun _ => by rw [untried.attempts]; exact Nat.zero_le _, fun dead => ?_⟩
    have state := untried.state
    rw [dead] at state
    rcases state with other | other <;> cases other
  | @updated row row' updated =>
    refine Or.inr fun other same => ?_
    cases same
    exact updated.accounted even (counted row rfl)

/-! ## Runs -/

/-- The failed deliveries of a notification over a run. -/
def failures (office : Office) (ops : List Op) (id : Uuid) : Nat :=
  failed (attemptsAt id (attemptsOver office ops))

/-- A run whose digests always have even counters. -/
def EvenRun : Office → List Op → Prop
  | _, [] => True
  | office, op :: ops => op.EvenIn office ∧ EvenRun (step office op) ops

/-- No counter of a pending row is above the failed deliveries of the row. -/
def Counted (office : Office) (count : Uuid → Nat) : Prop :=
  ∀ id, ∀ row ∈ office.notifications.find id, row.state = .pending → row.attempts ≤ count id

theorem step_counted {office : Office} {op : Op} {count : Uuid → Nat} (even : op.EvenIn office)
    (counted : Counted office count) : Counted (step office op) fun id =>
      count id + failed (attemptsAt id (attemptsOf office op)) := by
  intro id row found pending
  rcases (step_row office op id).accounted even (counted id) with same | accounted
  · rw [same] at found
    exact (counted id row found pending).trans (Nat.le_add_right _ _)
  · exact (accounted row found).counter pending

theorem attemptsOver_append (office : Office) (before after : List Op) :
    attemptsOver office (before ++ after) =
      attemptsOver office before ++ attemptsOver (run office before) after := by
  induction before generalizing office with
  | nil => rfl
  | cons op before ih =>
    rw [List.cons_append, attemptsOver, attemptsOver, ih, List.append_assoc]
    rfl

theorem failures_append (office : Office) (before after : List Op) (id : Uuid) :
    failures office (before ++ after) id =
      failures office before id + failures (run office before) after id := by
  unfold failures
  rw [← failed_append, attemptsOver_append]
  exact congrArg failed (List.filter_append ..)

theorem failures_cons (office : Office) (op : Op) (ops : List Op) (id : Uuid) :
    failures office (op :: ops) id =
      failed (attemptsAt id (attemptsOf office op)) + failures (step office op) ops id := by
  unfold failures attemptsAt
  rw [attemptsOver, List.filter_append, failed_append]

theorem run_counted {office : Office} {ops : List Op} {count : Uuid → Nat}
    (even : EvenRun office ops) (counted : Counted office count) :
    Counted (run office ops) fun id => count id + failures office ops id := by
  induction ops generalizing office count with
  | nil => exact counted
  | cons op ops ih =>
    intro id row found pending
    have bound : row.attempts ≤ count id + failed (attemptsAt id (attemptsOf office op)) +
        failures (step office op) ops id :=
      ih even.2 (step_counted even.1 counted) id row found pending
    rw [add_assoc, ← failures_cons] at bound
    exact bound

theorem evenRun_append {office : Office} {before after : List Op} :
    EvenRun office (before ++ after) ↔ EvenRun office before ∧ EvenRun (run office before) after := by
  induction before generalizing office with
  | nil => exact (and_iff_right trivial).symm
  | cons op before ih =>
    rw [List.cons_append, EvenRun, EvenRun, ih, and_assoc]
    rfl

/-- A row that is not pending changes only where it is a dead letter and replayed. -/
theorem RowStep.settled {rules : CallRules} {as : List Attempt} {row : Notification}
    {left : Option Notification} (change : RowStep rules as (some row) left)
    (settled : row.state ≠ .pending)
    (alone : row.state = .deadLettered → ¬ rules.replays row.id) : left = some row := by
  cases change with
  | same => rfl
  | updated updated =>
    cases updated with
    | pending _ _ state => exact absurd state settled
    | replayed _ allowed state => exact absurd allowed (alone state)

theorem run_settled {office : Office} {ops : List Op} {id : Uuid} {row : Notification}
    (found : office.notifications.find id = some row) (settled : row.state ≠ .pending)
    (alone : row.state = .deadLettered → ∀ op ∈ ops, ¬ op.Replays id) :
    (run office ops).notifications.find id = some row := by
  induction ops generalizing office with
  | nil => exact found
  | cons op ops ih =>
    refine ih ?_ fun dead other listed => alone dead other (List.mem_cons_of_mem _ listed)
    have change := step_row office op id
    rw [found] at change
    obtain rfl := (KeyedTable.find_eq_some_iff.mp found).2
    exact change.settled settled fun dead => alone dead op List.mem_cons_self

/-- The content of the notifications never changes. -/
theorem step_content {office : Office} (op : Op) {id : Uuid} {row : Notification}
    (found : office.notifications.find id = some row) :
    ∃ row', (step office op).notifications.find id = some row' ∧ row'.content = row.content := by
  have change := step_row office op id
  rw [found] at change
  generalize (step office op).notifications.find id = left at change
  cases change with
  | same => exact ⟨row, rfl, rfl⟩
  | updated updated => exact ⟨_, rfl, updated.same.1⟩

/-- Over a run no notification is lost, its content stays, and it stays as it is once it is sent or
    suppressed. -/
theorem run_keeps {office : Office} (ops : List Op) {id : Uuid} {row : Notification}
    (found : office.notifications.find id = some row) :
    ∃ row', (run office ops).notifications.find id = some row' ∧ row'.content = row.content ∧
      (row.state = .sent ∨ row.state = .suppressed → row' = row) := by
  have kept : ∃ row', (run office ops).notifications.find id = some row' ∧
      row'.content = row.content := by
    induction ops generalizing office row with
    | nil => exact ⟨row, found, rfl⟩
    | cons op ops ih =>
      obtain ⟨next, left, same⟩ := step_content op found
      obtain ⟨row', last, same'⟩ := ih left
      exact ⟨row', last, same'.trans same⟩
  obtain ⟨row', last, same⟩ := kept
  refine ⟨row', last, same, fun settled => ?_⟩
  have stays := @run_settled office ops id row found (by rintro state; simp [state] at settled)
    (by rintro state; simp [state] at settled)
  exact Option.some.inj (last.symm.trans stays)

/-- An email that is written before its digest is sent. -/
theorem run_keeps_due : ∃ row, (run (step (opened (oneUser true) allowAll) (.write [dueRow 1]))
    [callDigests .sent]).notifications.find (Uuid.ofInt 1) = some row ∧
      row.content = (dueRow 1).notification.content := by
  obtain ⟨row, last, same, _⟩ := @run_keeps (step (opened (oneUser true) allowAll)
    (.write [dueRow 1])) [callDigests .sent] (Uuid.ofInt 1) (dueRow 1).notification rfl
  exact ⟨row, last, same⟩

/-- What the dispatchers owe a notification: it is dead-lettered by an attempt that says so or after
    the bound of failed deliveries of its own, it stays as it is once it is sent, and a dead letter
    stays as it is until it is replayed. -/
structure Disciplined (office : Office) (ops : List Op) : Prop where
  cause : ∀ before op after, ops = before ++ op :: after → ∀ id row,
    (step (run office before) op).notifications.find id = some row → row.state = .deadLettered →
      (run office before).notifications.find id = some row ∨
      (∃ a ∈ attemptsAt id (attemptsOf (run office before) op), ∃ error,
        a.result = .deadLettered error) ∨
      op.maxAttempts ≤ failures office (before ++ [op]) id
  sent : ∀ before after, ops = before ++ after → ∀ id row,
    (run office before).notifications.find id = some row → row.state = .sent →
      (run office ops).notifications.find id = some row
  deadLettered : ∀ before after, ops = before ++ after → ∀ id row,
    (run office before).notifications.find id = some row → row.state = .deadLettered →
      (∀ op ∈ after, ¬ op.Replays id) → (run office ops).notifications.find id = some row

theorem run_append (office : Office) (before after : List Op) :
    run office (before ++ after) = run (run office before) after := List.foldl_append ..

/-- Where the digests have even counters, the dispatchers keep what they owe. -/
theorem disciplined_of_even {directory : Directory}
    {preferences : Uuid → Text → NotificationChannel → NotificationPreference} {ops : List Op}
    (even : EvenRun (opened directory preferences) ops) :
    Disciplined (opened directory preferences) ops where
  cause := by
    rintro before op after rfl id row found dead
    obtain ⟨early, now, _⟩ := evenRun_append.mp even
    have none : Counted (opened directory preferences) fun _ => 0 :=
      fun _ row found => nomatch found
    have counted := run_counted early none
    rcases (step_row _ op id).accounted now (counted id) with same | accounted
    · exact Or.inl (same ▸ found)
    refine Or.inr ?_
    have split : failures (opened directory preferences) (before ++ [op]) id =
        0 + failures (opened directory preferences) before id +
          failed (attemptsAt id (attemptsOf (run (opened directory preferences) before) op)) := by
      rw [failures_append, failures_cons, zero_add]
      rfl
    rw [split]
    exact (accounted row found).cause dead
  sent := by
    rintro before after rfl id row found sent
    rw [run_append]
    refine run_settled found (fun pending => ?_) fun dead => ?_
    · cases sent.symm.trans pending
    · cases sent.symm.trans dead
  deadLettered := by
    rintro before after rfl id row found dead alone
    rw [run_append]
    refine run_settled found (fun pending => ?_) fun _ => alone
    cases dead.symm.trans pending

/-- A notification that fails twice is a dead letter. -/
theorem failsTwice_deadLettered :
    ((run (opened (oneUser true) allowAll) [.write [dueRow 1], callDigests (.retry none none),
      callDigests (.retry none none)]).notifications.find (Uuid.ofInt 1)).map Notification.state =
        some .deadLettered ∧
      Disciplined (opened (oneUser true) allowAll) [.write [dueRow 1], callDigests (.retry none none),
        callDigests (.retry none none)] := by
  refine ⟨rfl, disciplined_of_even ⟨trivial, ?_, ?_, trivial⟩⟩
  · intro digests assembled digest listed
    obtain rfl := Except.ok.inj assembled
    obtain rfl := List.mem_singleton.mp listed
    intro row listed
    obtain rfl := List.mem_singleton.mp listed
    rfl
  · intro digests assembled digest listed
    obtain rfl := Except.ok.inj assembled
    obtain rfl := List.mem_singleton.mp listed
    intro row listed
    obtain rfl := List.mem_singleton.mp listed
    rfl

/-- A notification that joins the digest of one that failed before is a dead letter after its first
    failure. -/
theorem failsOnce_deadLettered : ¬ ∀ directory preferences ops,
    Disciplined (opened directory preferences) ops := by
  intro claimed
  have owed := (claimed (oneUser true) allowAll
    [.write [dueRow 1], callDigests (.retry none none), .write [dueRow 2],
      callDigests (.retry none none)]).cause
    [.write [dueRow 1], callDigests (.retry none none), .write [dueRow 2]]
    (callDigests (.retry none none)) [] rfl (Uuid.ofInt 2) _ rfl rfl
  rcases owed with before | ⟨a, made, error, explicit⟩ | spent
  · cases congrArg (Option.map Notification.state) before
  · obtain rfl := List.mem_singleton.mp (show a ∈ [_] from made)
    cases explicit
  · exact absurd spent (show ¬ 2 ≤ 1 by decide)

/-! ## Bundles -/

/-- A window that is assembled bundles every row that awaits it, each once, in the one digest of its
    recipient. -/
theorem assemble_bundles {table : NotificationTable} {service : DigestDeliveryService}
    {window : DigestWindow} {addresses : Uuid → Except DomainError Text} {digests : List EmailDigest}
    (assembled : assemble service table window addresses = .ok digests) :
    (digests.map EmailDigest.recipientId).Nodup ∧
      (digests.flatMap EmailDigest.notificationIds).Perm
        ((table.rows.filter (·.awaits window)).map Notification.id) ∧
      ∀ digest ∈ digests, ∀ id ∈ digest.notificationIds, ∃ row, table.find id = some row ∧
        row.recipientId = digest.recipientId := by
  obtain ⟨pairs, made, grouped⟩ := assemble_pairs assembled
  obtain ⟨distinct, rows⟩ := assemble_rows assembled
  refine ⟨?_, ?_, fun digest isDigest id listed => ?_⟩
  · have keys := grouped.map Prod.fst
    rw [List.map_map, List.map_map] at keys
    exact keys.nodup_iff.mpr (nodup_keys_groupPairs pairs)
  · have awaiting : ((table.rows.filter (·.awaits window)).map Notification.id).Nodup :=
      table.distinct.sublist (List.filter_sublist.map _)
    refine (List.perm_ext_iff_of_nodup distinct awaiting).mpr fun id => ⟨fun bundled => ?_, ?_⟩
    · obtain ⟨digest, isDigest, listed⟩ := List.mem_flatMap.mp bundled
      obtain ⟨row, found, awaits, _⟩ := rows digest isDigest id listed
      obtain ⟨stored, rfl⟩ := KeyedTable.find_eq_some_iff.mp found
      exact List.mem_map_of_mem (List.mem_filter.mpr ⟨stored, awaits⟩)
    · rintro listed
      obtain ⟨row, isRow, rfl⟩ := List.mem_map.mp listed
      -- a window with more rows than it may hold is refused, so none is left out
      have selected : row ∈ queryNotifications table window service.maxEntries := by
        obtain ⟨_, _, assembled⟩ := Except.bind_eq_ok_iff.mp assembled
        split_ifs at assembled with tooMany
        unfold queryNotifications selectRows at tooMany ⊢
        rw [List.length_take] at tooMany
        rw [List.take_of_length_le (by omega), List.mem_insertionSort, List.mem_insertionSort]
        exact isRow
      obtain ⟨pair, isPair, _, isId⟩ := (forall₂_exists made).1 row selected
      have inGroup : pair.2 ∈ (pairs.filter (fun other => other.1 = pair.1)).map Prod.snd :=
        List.mem_map_of_mem (List.mem_filter.mpr ⟨isPair, decide_eq_true rfl⟩)
      have group := mem_groupPairs.mpr ⟨List.ne_nil_of_mem inGroup, rfl⟩
      obtain ⟨digest, isDigest, same⟩ := List.mem_map.mp (grouped.mem_iff.mpr
        (List.mem_map_of_mem group))
      refine List.mem_flatMap.mpr ⟨digest, isDigest, List.mem_map.mpr ⟨pair.2, ?_, isId⟩⟩
      rw [(Prod.mk.inj same).2]
      exact mem_sortEntries.mpr inGroup
  · obtain ⟨row, found, _, recipient⟩ := rows digest isDigest id listed
    exact ⟨row, found, recipient⟩

/-- Two emails to one user are one digest. -/
theorem assemble_bundles_two : ∃ digests, assemble (digestsOf .sent)
    (step (opened (oneUser true) allowAll) (.write [dueRow 1, dueRow 2])).notifications
      ⟨juneMinute 0, juneMinute 59, juneHour_ordered⟩ (fun _ => .ok []) = .ok digests ∧
    (digests.map EmailDigest.recipientId).Nodup :=
  ⟨_, rfl, (@assemble_bundles (step (opened (oneUser true) allowAll)
    (.write [dueRow 1, dueRow 2])).notifications (digestsOf .sent)
      ⟨juneMinute 0, juneMinute 59, juneHour_ordered⟩ (fun _ => .ok []) _ rfl).1⟩

end Notifications

end CovenantRadar
