import CovenantRadar.Cases.Service

/-!
# Runs of the case workflow

The calls of the case service and the case step of the nightly run (source `services/nightly.py`,
`_run_update_cases`), one after the other, and what each of them does to the tables.
-/

namespace CovenantRadar

namespace Cases

open Security

/-- Source `_case_reference`. -/
def nightlyReference (borrowerId : Uuid) (sequence : Nat) : Text :=
  if sequence ≤ 1 then hexBase borrowerId else hexBase borrowerId ++ '-' :: Text.ofNat sequence

/-- A triage row of tonight's run, with the identifier its case would get. -/
structure NightlyEntry where
  entry : TriageEntry
  newId : Uuid

/-- Source `_run_update_cases`, the row of a new case. -/
def nightlyCase (assigneeId : Option Uuid) (instant : UtcInstant) (book : CaseBook)
    (nightly : NightlyEntry) : Case where
  id := nightly.newId
  reference := nightlyReference nightly.entry.borrowerId
    ((book.referencesForBorrower nightly.entry.borrowerId).length + 1)
  borrowerId := nightly.entry.borrowerId
  openedFromRunId := some nightly.entry.runId
  state := .open'
  bandAtOpen := nightly.entry.band
  assigneeId := assigneeId
  dueAt := none
  slaHours := none
  closedAt := none
  closureReason := none
  closureNote := none
  createdAt := instant
  updatedAt := instant
  version := 1

/-- Source `_run_update_cases`, one turn of its loop: a case that fails to open is isolated. -/
def nightlyStep (assigneeId : Option Uuid) (instant : UtcInstant) (book : CaseBook)
    (nightly : NightlyEntry) : CaseBook :=
  if book.cases.rows.any fun case =>
      case.borrowerId = nightly.entry.borrowerId && case.state != .closed then book
  else
    match book.insertCase (nightlyCase assigneeId instant book nightly) with
    | .ok inserted => inserted
    | .error _ => book

/-- Source `_run_update_cases`. -/
def runUpdateCases (assigneeId : Option Uuid) (instant : UtcInstant) (entries : List NightlyEntry)
    (book : CaseBook) : CaseBook :=
  (entries.filter fun nightly => nightly.entry.band = .act).foldl
    (nightlyStep assigneeId instant) book

/-- One call on the workflow, with what it reads. -/
inductive Call where
  | openOrUpdate (directory : Directory) (principal : Principal) (source : TriageSource)
      (assigneeId : Option Uuid) (scope : Option Scope) (instant : UtcInstant) (id : Uuid)
  | transitionCase (directory : Directory) (principal : Principal) (key : CaseKey) (target : Text)
      (reason note : Option Text) (expectedVersion : Option Int) (scope : Option Scope)
      (instant : UtcInstant)
  | escalateOverdue (directory : Directory) (principal : Principal) (scope : Option Scope)
      (instant : UtcInstant)
  | updateCases (assigneeId : Option Uuid) (instant : UtcInstant) (entries : List NightlyEntry)

namespace Call

/-- When a call is made. -/
def instant : Call → UtcInstant
  | openOrUpdate _ _ _ _ _ instant _ => instant
  | transitionCase _ _ _ _ _ _ _ _ instant => instant
  | escalateOverdue _ _ _ instant => instant
  | updateCases _ instant _ => instant

/-- The tables a call leaves, or what it raises. -/
def run (service : CaseService) (book : CaseBook) : Call → Except DomainError CaseBook
  | openOrUpdate directory principal source assigneeId scope instant id =>
    (service.openOrUpdate directory principal source assigneeId scope instant id book).map Prod.snd
  | transitionCase directory principal key target reason note expectedVersion scope instant =>
    (service.transitionCase directory principal key target reason note expectedVersion scope
      instant book).map Prod.snd
  | escalateOverdue directory principal scope instant =>
    (service.escalateOverdue directory principal scope instant book).map Prod.snd
  | updateCases assigneeId instant entries => .ok (runUpdateCases assigneeId instant entries book)

/-- The tables after a call: a call that raises changes nothing. -/
def after (service : CaseService) (book : CaseBook) (call : Call) : CaseBook :=
  match call.run service book with
  | .ok book => book
  | .error _ => book

end Call

/-- The tables after a run. -/
def runCalls (service : CaseService) (book : CaseBook) (calls : List Call) : CaseBook :=
  calls.foldl (Call.after service) book

namespace CaseEventPayload

/-- Whether a history row records a change of state. -/
def isStateChange : CaseEventPayload → Bool
  | stateChanged _ _ _ => true
  | slaBreached _ _ _ => true
  | _ => false

/-- The state a history row leads to, by the table of permitted transitions. A breach is always
    a transition to escalated. -/
def advance (source : CaseState) : CaseEventPayload → Option CaseState
  | stateChanged fromState toState _ =>
    if fromState = source ∧ toState ∈ permittedTransitions source then some toState else none
  | slaBreached _ _ _ =>
    if .escalated ∈ permittedTransitions source then some .escalated else none
  | _ => some source

theorem advance_of_not_stateChange {payload : CaseEventPayload} (source : CaseState)
    (neutral : payload.isStateChange = false) : payload.advance source = some source := by
  cases payload with
  | stateChanged fromState toState recorded => cases neutral
  | slaBreached dueAt overdueAt assigneeId => cases neutral
  | opened | reopened | assigneeFallback | bandChanged => rfl

theorem advance_ne {payload : CaseEventPayload} {source target : CaseState}
    (changes : payload.isStateChange = true) (advanced : payload.advance source = some target) :
    target ≠ source := by
  cases payload with
  | stateChanged fromState toState recorded =>
    obtain ⟨permitted, same⟩ := Option.ite_none_right_eq_some.mp advanced
    cases same
    exact CaseTransition.changes ⟨source, _, permitted.2⟩
  | slaBreached dueAt overdueAt assigneeId =>
    obtain ⟨permitted, same⟩ := Option.ite_none_right_eq_some.mp advanced
    cases same
    exact CaseTransition.changes ⟨source, .escalated, permitted⟩
  | opened | reopened | assigneeFallback | bandChanged => cases changes

end CaseEventPayload

/-! ## What one write does -/

/-- A case is opened. -/
structure Opened (book after : CaseBook) (row : Case) : Prop where
  fresh : row.id ∉ book.cases.rows.map Case.id
  rows : after.cases.rows = book.cases.rows ++ [row]
  state : row.state = .open'
  noneOpen : ∀ other ∈ book.cases.rows, other.borrowerId = row.borrowerId → other.state = .closed
  unused : row.reference ∉ book.cases.rows.map Case.reference
  events : ∃ added, after.events = book.events ++ added ∧
    ∀ event ∈ added, event.caseId = row.id ∧ event.payload.isStateChange = false

/-- A case is rewritten, with one history row. -/
structure Rewritten (book after : CaseBook) (row row' : Case) (payload : CaseEventPayload) :
    Prop where
  found : book.cases.find row.id = some row
  id : row'.id = row.id
  borrowerId : row'.borrowerId = row.borrowerId
  reference : row'.reference = row.reference
  cases : after.cases = book.cases.put row'
  notClosed : row.state ≠ .closed
  advanced : payload.advance row.state = some row'.state
  events : ∃ actorId instant, after.events = book.events ++ [⟨row.id, payload, actorId, instant⟩]

/-- A case changes its state, and neither its deadline nor its band. -/
structure Moved (book after : CaseBook) (row row' : Case) (payload : CaseEventPayload) : Prop
    extends Rewritten book after row row' payload where
  changes : payload.isStateChange = true
  due : row'.dueAt = row.dueAt
  band : row'.bandAtOpen = row.bandAtOpen

/-- What the writes of a call do to the tables. -/
inductive Effect (service : CaseService) (instant : UtcInstant) (book after : CaseBook) : Prop where
  | opened {row : Case} (opening : Opened book after row)
  | banded {row row' : Case} {payload : CaseEventPayload} {deadline : SlaDeadline}
      (rewriting : Rewritten book after row row' payload)
      (neutral : payload.isStateChange = false) (differs : row.bandAtOpen ≠ row'.bandAtOpen)
      (derived : deriveSla row'.bandAtOpen instant service.slaThresholds service.calendar =
        .ok deadline)
      (due : row'.dueAt = some deadline.dueAt)
  | moved {row row' : Case} {payload : CaseEventPayload} (moving : Moved book after row row' payload)

/-! ## A small book -/

theorem workday_valid (day : Fin 28) : 1 ≤ 2026 ∧ 2026 ≤ 9999 ∧ 1 ≤ 1 ∧ 1 ≤ 12 ∧
    1 ≤ day.val + 1 ∧ day.val + 1 ≤ daysInMonth 2026 1 := by
  have days : daysInMonth 2026 1 = 31 := by decide
  omega

theorem workday_first : 0 < 28 := by decide

theorem workday_second : 1 < 28 := by decide

theorem workday_inDay : 43200 * 10 ^ 6 < dayMicroseconds := by decide

/-- Noon of a day in January 2026. -/
def workday (day : Fin 28) : UtcInstant where
  date := ⟨2026, 1, day.val + 1, workday_valid day⟩
  microsecond := 43200 * 10 ^ 6
  inDay := workday_inDay

theorem sampleHours_positive : 0 < 24 ∧ 0 < 72 ∧ 0 < 168 := by decide

theorem sampleHours_ordered : 24 ≤ 72 ∧ 72 ≤ 168 := by decide

/-- A service with one day for act and three for amber, and no notifier. -/
def sampleService : CaseService where
  slaThresholds := ⟨24, 72, 168, sampleHours_positive, sampleHours_ordered⟩
  calendar := elapsedHoursCalendar
  scopeResolver := fun principal => ⟨principal.id, [], []⟩
  notify := fun _ _ _ => .ok ()
  assigneeResolver := none
  defaultOwnerId := none
  defaultOwnerResolver := none
  administratorIds := []

/-- A borrower in the one portfolio. -/
def sampleBorrower (id : Nat) (reference : String) : Borrower :=
  ⟨Uuid.ofInt id, reference.toList, "retail/".toList⟩

theorem sampleBorrowers_distinct :
    ([sampleBorrower 1 "ACME", sampleBorrower 2 "BOLT"].map Borrower.id).Nodup := by decide

/-- Two borrowers and one active user. -/
def sampleDirectory : Directory where
  borrowers := ⟨[sampleBorrower 1 "ACME", sampleBorrower 2 "BOLT"], sampleBorrowers_distinct⟩
  triageEntries := .empty
  activeUsers := [Uuid.ofInt 50]
  roleGrants := []

/-- Who makes the calls. -/
def sampleOfficer : Principal := ⟨Uuid.ofInt 40, [.updateCase], .user⟩

/-- The officer's scope, the one portfolio. -/
def sampleScope : Option Scope := some ⟨Uuid.ofInt 40, ["retail/".toList], []⟩

/-- The officer opens or updates the case of a borrower. -/
def sampleWarning (borrower : Nat) (band : String) (day : Fin 28) : Call :=
  .openOrUpdate sampleDirectory sampleOfficer
    (.details (some (Uuid.ofInt borrower)) (some band.toList) none) (some (Uuid.ofInt 50))
    sampleScope (workday day) (Uuid.ofInt (100 + borrower))

/-- The officer sweeps the overdue cases. -/
def sampleSweep (day : Fin 28) : Call :=
  .escalateOverdue sampleDirectory sampleOfficer sampleScope (workday day)

end Cases

end CovenantRadar
