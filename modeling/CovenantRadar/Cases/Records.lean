import CovenantRadar.Cases.Lifecycle
import CovenantRadar.Cases.Sla
import CovenantRadar.Misc.KeyedTable

/-!
# The rows of the case workflow

Source `db/models/workflow.py`, `db/repositories/case.py` and `db/scoping.py`: the cases, their
append-only history, the queued notifications, and the reference data a case mutation reads.
-/

namespace CovenantRadar

namespace Cases

/-- Source `Scope`: the portfolio authority of one request. -/
structure Scope where
  principalId : Uuid
  exactPaths : List Text
  descendantPaths : List Text

/-- Source `Scope.predicate`, on one path. -/
def Scope.includes (scope : Scope) (path : Text) : Bool :=
  scope.exactPaths.contains path || scope.descendantPaths.any fun root => root.isPrefixOf path

/-- A borrower, with the path of its portfolio. -/
structure Borrower where
  id : Uuid
  reference : Text
  portfolioPath : Text

/-- A persisted triage row. -/
structure TriageEntry where
  id : Uuid
  borrowerId : Uuid
  band : Band
  runId : Uuid

/-- A role of a user in a portfolio: the row of the joins of `_role_mapped_users`. -/
structure RoleGrant where
  userId : Uuid
  roleCode : Text
  scopePath : Text
  includeDescendants : Bool

/-- What a case mutation reads and does not write. -/
structure Directory where
  borrowers : KeyedTable Borrower.id
  triageEntries : KeyedTable TriageEntry.id
  activeUsers : List Uuid
  roleGrants : List RoleGrant

/-- Source `Case`. -/
structure Case where
  id : Uuid
  reference : Text
  borrowerId : Uuid
  openedFromRunId : Option Uuid
  state : CaseState
  bandAtOpen : Band
  assigneeId : Option Uuid
  dueAt : Option UtcInstant
  slaHours : Option Nat
  closedAt : Option UtcInstant
  closureReason : Option Text
  closureNote : Option Text
  createdAt : UtcInstant
  updatedAt : UtcInstant
  version : Nat

/-- The payload of a history row, by event type. -/
inductive CaseEventPayload where
  | opened (band : Band) (runId : Option Uuid) (slaHours : Nat) (dueAt : UtcInstant)
      (assigneeId : Uuid)
  | reopened (band : Band) (runId : Option Uuid) (slaHours : Nat) (dueAt : UtcInstant)
      (assigneeId : Uuid) (priorCaseId : Uuid)
  | assigneeFallback (assigneeId : Uuid) (administratorIds : List Uuid)
  | bandChanged (fromBand toBand : Band) (runId : Option Uuid) (slaHours : Nat)
      (dueAt : UtcInstant)
  | stateChanged (fromState toState : CaseState) (closureReasonRecorded : Bool)
  | slaBreached (dueAt overdueAt : UtcInstant) (assigneeId : Uuid)

namespace CaseEventPayload

/-- `payload.get("from_state")` and `payload.get("to_state")`. -/
def states : CaseEventPayload → Option (CaseState × CaseState)
  | stateChanged fromState toState _ => some (fromState, toState)
  | _ => none

end CaseEventPayload

/-- Source `CaseEvent`. -/
structure CaseEvent where
  caseId : Uuid
  payload : CaseEventPayload
  actorId : Uuid
  occurredAt : UtcInstant

/-- The templates of the notifications of a case. -/
inductive Template where
  | assigneeFallback
  | slaBreach
  deriving DecidableEq, Repr

/-- The payload of a notification. -/
structure NotificationPayload where
  caseReference : Text
  caseId : Uuid
  borrowerId : Uuid
  assigneeId : Option Uuid
  dueAt : Option UtcInstant
  overdueAt : Option UtcInstant

/-- Source `Notification`, of a case. -/
structure Notification where
  recipientId : Uuid
  template : Template
  subjectId : Uuid
  payload : NotificationPayload
  createdAt : UtcInstant

/-- The tables a case mutation writes. -/
structure CaseBook where
  cases : KeyedTable Case.id
  events : List CaseEvent
  notifications : List Notification

namespace CaseBook

/-- The tables before the first case. -/
def empty : CaseBook := ⟨KeyedTable.empty, [], []⟩

/-- `session.add(case)` and the flush: the identifier and the reference are unique. -/
def insertCase (book : CaseBook) (case : Case) : Except DomainError CaseBook :=
  if fresh : book.cases.find case.id = none then
    if book.cases.rows.any fun row => row.reference = case.reference then
      .error ⟨.raised, "IntegrityError".toList, none⟩
    else .ok { book with cases := book.cases.insert case fresh }
  else .error ⟨.raised, "IntegrityError".toList, none⟩

/-- The flush of a changed row. -/
def putCase (book : CaseBook) (case : Case) : CaseBook :=
  { book with cases := book.cases.put case }

/-- Source `add_event`. -/
def addEvent (book : CaseBook) (event : CaseEvent) : CaseBook :=
  { book with events := book.events ++ [event] }

@[simp] theorem events_putCase (book : CaseBook) (case : Case) :
    (book.putCase case).events = book.events := rfl

@[simp] theorem notifications_putCase (book : CaseBook) (case : Case) :
    (book.putCase case).notifications = book.notifications := rfl

@[simp] theorem notifications_addEvent (book : CaseBook) (event : CaseEvent) :
    (book.addEvent event).notifications = book.notifications := rfl

theorem insertCase_eq_ok {book after : CaseBook} {case : Case}
    (inserted : book.insertCase case = .ok after) :
    ∃ fresh : book.cases.find case.id = none,
      after = { book with cases := book.cases.insert case fresh } ∧
        case.reference ∉ book.cases.rows.map Case.reference := by
  unfold insertCase at inserted
  split_ifs at inserted with fresh taken
  refine ⟨fresh, (Except.ok.inj inserted).symm, ?_⟩
  rintro member
  obtain ⟨row, listed, same⟩ := List.mem_map.mp member
  exact taken (List.any_eq_true.mpr ⟨row, listed, by simpa using same⟩)

theorem row_eq_of_id {book : CaseBook} {row other : Case} (listed : row ∈ book.cases.rows)
    (listed' : other ∈ book.cases.rows) (same : other.id = row.id) : other = row := by
  have found := KeyedTable.find_of_mem listed'
  rw [same, KeyedTable.find_of_mem listed] at found
  exact (Option.some.inj found).symm

variable (directory : Directory) (scope : Scope)

/-- Whether the scope of a request includes the portfolio of a case. -/
def inScope (case : Case) : Bool :=
  match directory.borrowers.find case.borrowerId with
  | some borrower => scope.includes borrower.portfolioPath
  | none => false

/-- Source `lock_borrower`. -/
def lockBorrower (id : Uuid) : Option Borrower :=
  (directory.borrowers.find id).filter fun borrower => scope.includes borrower.portfolioPath

/-- Source `get_for_update`. -/
def getForUpdate (book : CaseBook) (id : Uuid) : Option Case :=
  (book.cases.find id).filter (inScope directory scope)

/-- Source `by_reference`, on a stripped reference. -/
def byReference (book : CaseBook) (reference : Text) : Option Case :=
  book.cases.rows.find? fun case => case.reference = reference && inScope directory scope case

/-- The order of `open_cases_for_borrower`. -/
def createdKey (case : Case) : Int ×ₗ Nat := toLex (case.createdAt.ticks, case.id.int)

/-- Source `open_cases_for_borrower`. -/
def openCasesForBorrower (book : CaseBook) (borrowerId : Uuid) : List Case :=
  (book.cases.rows.filter fun case =>
    case.borrowerId = borrowerId && case.state != .closed &&
      inScope directory scope case).insertionSort fun a b => createdKey a ≤ createdKey b

/-- The order of `overdue`. -/
def overdueKey (case : Case) : WithBot Int ×ₗ (Int ×ₗ Nat) :=
  toLex (case.dueAt.map UtcInstant.ticks, createdKey case)

/-- `Case.due_at <= now`, false without a due date. -/
def isDue (case : Case) (now : UtcInstant) : Bool :=
  match case.dueAt with
  | some due => isOverdue due now
  | none => false

theorem isDue_eq_true_iff {row : Case} {now : UtcInstant} :
    isDue row now = true ↔ ∃ due, row.dueAt = some due ∧ due.ticks ≤ now.ticks := by
  unfold isDue
  cases row.dueAt <;> simp [isOverdue]

/-- Source `overdue`. -/
def overdue (book : CaseBook) (now : UtcInstant) : List Case :=
  (book.cases.rows.filter fun case =>
    case.state != .closed && isDue case now &&
      inScope directory scope case).insertionSort fun a b => overdueKey a ≤ overdueKey b

/-- Source `references_for_borrower`. -/
def referencesForBorrower (book : CaseBook) (borrowerId : Uuid) : List Text :=
  (book.cases.rows.filter fun case => case.borrowerId = borrowerId).map Case.reference

/-- The order of `_latest_closed_case`, its last row first. -/
def closedKey (case : Case) : WithBot Int ×ₗ (Int ×ₗ Nat) :=
  toLex (case.closedAt.map UtcInstant.ticks, createdKey case)

/-- Source `_latest_closed_case`. -/
def latestClosedCase (book : CaseBook) (borrowerId : Uuid) : Option Case :=
  maxBy closedKey (book.cases.rows.filter fun case =>
    case.borrowerId = borrowerId && case.state == .closed)

end CaseBook

end Cases

end CovenantRadar
