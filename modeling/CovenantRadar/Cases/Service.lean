import CovenantRadar.Cases.Records

/-!
# The case service

Source `services/cases.py`: the three operations that write the case workflow. Each runs in a
savepoint, so one that raises leaves the tables as they were.
-/

namespace CovenantRadar

namespace Cases

open Security

/-- Source `_CASE_REFERENCE_MAX_LENGTH`. -/
def caseReferenceMaxLength : Nat := 20

/-- `value[:stop]`, where a negative stop counts from the end. -/
def upTo (value : Text) (stop : Int) : Text :=
  if 0 ≤ stop then value.take stop.toNat else value.take (value.length + stop).toNat

/-- The first twelve hexadecimal digits of an identifier, in capitals. -/
def hexBase (id : Uuid) : Text := "C-".toList ++ Text.upper ((Text.hex 32 id.int).take 12)

/-- Source `_next_reference`, the reference of a borrower's first case. -/
def referenceBase (borrower : Borrower) : Text :=
  if caseReferenceMaxLength < ("C-".toList ++ borrower.reference).length then hexBase borrower.id
  else "C-".toList ++ borrower.reference

/-- Source `_next_reference`, the candidate of a suffix. -/
def suffixed (base : Text) (suffix : Nat) : Text :=
  let suffixText := '-' :: Text.ofNat suffix
  upTo base ((caseReferenceMaxLength : Int) - suffixText.length) ++ suffixText

/-- Source `_next_reference`. No two suffixes give one candidate, so the loop ends by the time it
    has tried one more than there are references. -/
def nextReference (base : Text) (existing : List Text) : Text :=
  if existing.contains base then
    (((List.range' 2 (existing.length + 1)).map (suffixed base)).find? fun candidate =>
      !existing.contains candidate).getD base
  else base

/-- Source `CaseService`: what it is constructed with. `notify` does nothing without a
    notifier. -/
structure CaseService where
  slaThresholds : SlaThresholds
  calendar : BusinessCalendar
  scopeResolver : Principal → Scope
  notify : Template → List Uuid → NotificationPayload → Except DomainError Unit
  assigneeResolver : Option (Borrower → Band → Option Uuid)
  defaultOwnerId : Option Uuid
  defaultOwnerResolver : Option (Borrower → Option Uuid)
  administratorIds : List Uuid

/-- Source `_Assignment`. -/
structure Assignment where
  assigneeId : Uuid
  usedFallback : Bool
  administrators : List Uuid

/-- What `open_or_update` is given: a persisted triage row, or its details. -/
inductive TriageSource where
  | entry (id : Uuid)
  | details (borrowerId : Option Uuid) (band : Option Text) (runId : Option Uuid)

/-- What `open_or_update` needs to know of its source. -/
structure TriageDetails where
  borrowerId : Uuid
  band : Band
  runId : Option Uuid

/-- A case by its identifier or by its reference, a text that no UUID is read from. -/
inductive CaseKey where
  | id (caseId : Uuid)
  | reference (text : Text)

/-- `str(case_or_reference)`. -/
def CaseKey.label : CaseKey → Text
  | .id caseId => caseId.str
  | .reference text => text

/-- Source `_RELATIONSHIP_MANAGER_ROLE`. -/
def relationshipManagerRole : List Text := ["relationship_manager".toList]

/-- Source `_ADMINISTRATOR_ROLES`. -/
def administratorRoles : List Text := ["administrator".toList, "admin".toList]

/-- Whether a grant covers a portfolio. -/
def RoleGrant.covers (grant : RoleGrant) (path : Text) : Bool :=
  if grant.includeDescendants then grant.scopePath.isPrefixOf path else path == grant.scopePath

/-- Source `_role_mapped_users`. -/
def roleMappedUsers (directory : Directory) (borrower : Borrower) (roleCodes : List Text) :
    List Uuid :=
  let rows := directory.roleGrants.filter fun grant =>
    directory.activeUsers.contains grant.userId && roleCodes.contains grant.roleCode &&
      grant.covers borrower.portfolioPath
  (rows.map RoleGrant.userId).insertionSort fun a b => a.int ≤ b.int

/-- `ValidationError` on the assignee. -/
def assigneeError (who : String) (id : Uuid) : DomainError :=
  ⟨.validationError, who.toList ++ id.str ++ " is not an active user.".toList,
    some "case.assignee_id".toList⟩

/-- Source `_append_event`. -/
def appendEvent (book : CaseBook) (case : Case) (payload : CaseEventPayload) (actorId : Uuid)
    (instant : UtcInstant) : CaseBook :=
  book.addEvent ⟨case.id, payload, actorId, instant⟩

/-- Whether the breach or fallback of a case was queued for a recipient before. -/
def queued (book : CaseBook) (recipientId : Uuid) (template : Template) (caseId : Uuid) : Bool :=
  book.notifications.any fun row =>
    row.recipientId = recipientId && row.template = template && row.subjectId = caseId

/-- Source `_queue_and_notify`, for one recipient. -/
def queueFor (case : Case) (template : Template) (payload : NotificationPayload)
    (instant : UtcInstant) (book : CaseBook) (recipientId : Uuid) : CaseBook :=
  if queued book recipientId template case.id then book
  else
    { book with
      notifications := book.notifications ++ [⟨recipientId, template, case.id, payload, instant⟩] }

namespace CaseService

variable (service : CaseService) (directory : Directory)

/-- Source `_authorized_context`. -/
def authorizedContext (principal : Principal) (scope : Option Scope) (permission : Permission) :
    Except DomainError Scope := do
  authorize principal permission
  let resolved := scope.getD (service.scopeResolver principal)
  if resolved.principalId = principal.id then .ok resolved
  else
    .error ⟨.authorizationError,
      "The resolved scope does not belong to the authenticated principal.".toList, none⟩

/-- Source `_assignment`, the default owner where no portfolio mapping names an assignee. -/
def fallbackAssignment (borrower : Borrower) : Except DomainError Assignment :=
  let resolved := service.defaultOwnerResolver.bind fun resolver => resolver borrower
  let administrators := roleMappedUsers directory borrower administratorRoles
  match (resolved.or service.defaultOwnerId).or administrators.head? with
  | none =>
    .error (.conflict ("Borrower ".toList ++ borrower.id.str ++
      " has no portfolio assignee and no active default owner.".toList))
  | some owner =>
    if directory.activeUsers.contains owner then
      .ok ⟨owner, true, (service.administratorIds ++ administrators).eraseDups⟩
    else
      .error (.conflict ("Borrower ".toList ++ borrower.id.str ++
        " has no portfolio assignee and no active default owner.".toList))

/-- Source `_assignment`. -/
def assignment (borrower : Borrower) (band : Band) (explicitAssigneeId : Option Uuid) :
    Except DomainError Assignment :=
  match explicitAssigneeId with
  | some assignee =>
    if directory.activeUsers.contains assignee then .ok ⟨assignee, false, []⟩
    else .error (assigneeError "Assignee " assignee)
  | none =>
    match service.assigneeResolver.bind fun resolver => resolver borrower band with
    | some mapped =>
      if directory.activeUsers.contains mapped then .ok ⟨mapped, false, []⟩
      else .error (assigneeError "Mapped assignee " mapped)
    | none =>
      match roleMappedUsers directory borrower relationshipManagerRole with
      | mapped :: _ => .ok ⟨mapped, false, []⟩
      | [] => service.fallbackAssignment directory borrower

/-- Source `_load_triage`. -/
def loadTriage (scope : Scope) (id : Uuid) : Except DomainError TriageEntry :=
  match (directory.triageEntries.find id).filter fun entry =>
      (CaseBook.lockBorrower directory scope entry.borrowerId).isSome with
  | some entry => .ok entry
  | none =>
    .error (.notFound ("Triage entry ".toList ++ id.str ++
      " was not found within the current scope.".toList))

/-- Source `_triage_details`. -/
def triageDetails (scope : Scope) : TriageSource → Except DomainError TriageDetails
  | .entry id =>
    (loadTriage directory scope id).map fun entry => ⟨entry.borrowerId, entry.band, some entry.runId⟩
  | .details none _ _ => .error (.validationError "borrower_id is required." "borrower_id")
  | .details (some _) none _ => .error (.validationError "band is required." "band")
  | .details (some borrowerId) (some band) runId =>
    (Band.read band).map fun band => ⟨borrowerId, band, runId⟩

/-- Source `_queue_and_notify`. -/
def queueAndNotify (case : Case) (template : Template) (recipientIds : List Uuid)
    (payload : NotificationPayload) (instant : UtcInstant) (book : CaseBook) :
    Except DomainError CaseBook :=
  let recipients := recipientIds.eraseDups
  if recipients = [] then
    .error (.conflict ("Case ".toList ++ case.reference ++
      " has no valid notification recipient.".toList))
  else
    (service.notify template recipients payload).map fun _ =>
      recipients.foldl (queueFor case template payload instant) book

/-- Source `_update_band`, the row after the change. -/
def bandedRow (case : Case) (band : Band) (deadline : SlaDeadline) (instant : UtcInstant) : Case :=
  { case with
    bandAtOpen := band
    slaHours := some deadline.hours
    dueAt := some deadline.dueAt
    updatedAt := instant
    version := case.version + 1 }

/-- Source `_update_band`. -/
def updateBand (case : Case) (band : Band) (runId : Option Uuid) (actorId : Uuid)
    (instant : UtcInstant) (book : CaseBook) : Except DomainError (Case × CaseBook) := do
  let deadline ← deriveSla band instant service.slaThresholds service.calendar
  let updated := bandedRow case band deadline instant
  .ok (updated, appendEvent (book.putCase updated) updated
    (.bandChanged case.bandAtOpen band runId deadline.hours deadline.dueAt) actorId instant)

/-- Source `open_or_update`, the row of a new case. -/
def newCase (borrower : Borrower) (band : Band) (runId : Option Uuid) (assigneeId id : Uuid)
    (deadline : SlaDeadline) (instant : UtcInstant) (book : CaseBook) : Case where
  id := id
  reference := nextReference (referenceBase borrower) (book.referencesForBorrower borrower.id)
  borrowerId := borrower.id
  openedFromRunId := runId
  state := .open'
  bandAtOpen := band
  assigneeId := some assigneeId
  dueAt := some deadline.dueAt
  slaHours := some deadline.hours
  closedAt := none
  closureReason := none
  closureNote := none
  createdAt := instant
  updatedAt := instant
  version := 1

/-- Source `open_or_update`, the first history row of a case. -/
def openingPayload (band : Band) (runId : Option Uuid) (deadline : SlaDeadline) (assigneeId : Uuid)
    (prior : Option Case) : CaseEventPayload :=
  match prior with
  | some prior => .reopened band runId deadline.hours deadline.dueAt assigneeId prior.id
  | none => .opened band runId deadline.hours deadline.dueAt assigneeId

/-- Source `open_or_update`, what the fallback assignment of a case adds. -/
def announceFallback (case : Case) (assignment : Assignment) (actorId : Uuid)
    (instant : UtcInstant) (book : CaseBook) : Except DomainError CaseBook :=
  if assignment.usedFallback then
    service.queueAndNotify case .assigneeFallback
      (if assignment.administrators = [] then [assignment.assigneeId]
        else assignment.administrators)
      ⟨case.reference, case.id, case.borrowerId, case.assigneeId, none, none⟩ instant
      (appendEvent book case (.assigneeFallback assignment.assigneeId assignment.administrators)
        actorId instant)
  else .ok book

/-- Source `open_or_update`, for a borrower without an open case. -/
def openCase (borrower : Borrower) (band : Band) (runId assigneeId : Option Uuid) (actorId : Uuid)
    (instant : UtcInstant) (id : Uuid) (book : CaseBook) : Except DomainError (Case × CaseBook) := do
  let assignment ← service.assignment directory borrower band assigneeId
  let deadline ← deriveSla band instant service.slaThresholds service.calendar
  let case := newCase borrower band runId assignment.assigneeId id deadline instant book
  let inserted ← book.insertCase case
  let announced ← service.announceFallback case assignment actorId instant
    (appendEvent inserted case (openingPayload band runId deadline assignment.assigneeId
      (book.latestClosedCase borrower.id)) actorId instant)
  .ok (case, announced)

/-- Source `open_or_update`, under the lock of the borrower. -/
def openOrUpdateLocked (borrower : Borrower) (band : Band) (runId assigneeId : Option Uuid)
    (scope : Scope) (actorId : Uuid) (instant : UtcInstant) (id : Uuid) (book : CaseBook) :
    Except DomainError (Case × CaseBook) :=
  match CaseBook.openCasesForBorrower directory scope book borrower.id with
  | [] => service.openCase directory borrower band runId assigneeId actorId instant id book
  | [current] =>
    if current.bandAtOpen = band then .ok (current, book)
    else service.updateBand current band runId actorId instant book
  | cases =>
    .error (.conflict ("Borrower ".toList ++ borrower.id.str ++ " has ".toList ++
      Text.ofNat cases.length ++ " open cases; exactly one is permitted.".toList))

/-- Source `open_or_update`; `id` is the identifier a new case gets. -/
def openOrUpdate (principal : Principal) (source : TriageSource) (assigneeId : Option Uuid)
    (scope : Option Scope) (instant : UtcInstant) (id : Uuid) (book : CaseBook) :
    Except DomainError (Option Case × CaseBook) := do
  let scope ← service.authorizedContext principal scope .updateCase
  let details ← triageDetails directory scope source
  if details.band = .watch then .ok (none, book)
  else
    match CaseBook.lockBorrower directory scope details.borrowerId with
    | none =>
      .error (.notFound ("Borrower ".toList ++ details.borrowerId.str ++
        " was not found within the current scope.".toList))
    | some borrower =>
      (service.openOrUpdateLocked directory borrower details.band details.runId assigneeId scope
        principal.id instant id book).map fun result => (some result.1, result.2)

/-- Source `_locked_case`. -/
def lockedCase (scope : Scope) (key : CaseKey) (book : CaseBook) : Except DomainError Case :=
  let missing : Except DomainError Case :=
    .error (.notFound ("Case ".toList ++ key.label ++
      " was not found within the current scope.".toList))
  match key with
  | .id id =>
    match CaseBook.getForUpdate directory scope book id with
    | some case => .ok case
    | none => missing
  | .reference reference =>
    if Text.strip reference = [] then
      .error (.validationError "case id or reference is required." "case")
    else
      match CaseBook.byReference directory scope book (Text.strip reference) with
      | some case => .ok case
      | none => missing

/-- Source `transition_case`, the check of the expected version. -/
def checkVersion (case : Case) : Option Int → Except DomainError Unit
  | none => .ok ()
  | some expected =>
    if expected < 1 then
      .error (.validationError "expected_version must be a positive integer." "version")
    else if (case.version : Int) ≠ expected then
      .error (.conflict ("Case ".toList ++ case.reference ++ " changed; expected version ".toList ++
        Text.ofInt expected ++ ", found ".toList ++ Text.ofNat case.version ++ ['.']))
    else .ok ()

/-- Source `_closure_reason`. -/
def closureReason : Option Text → Except DomainError (Option Text)
  | none => .ok none
  | some reason => (validateClosureReason (some reason)).map some

/-- Source `_CLOSURE_NOTE_MAX_LENGTH`. -/
def closureNoteMaxLength : Nat := 4000

/-- Source `_closure_note`. -/
def closureNote : Option Text → Except DomainError (Option Text)
  | none => .ok none
  | some note =>
    if closureNoteMaxLength < (Text.strip note).length then
      .error (.validationError "A closure note must be at most 4000 characters."
        "case.closure_note")
    else .ok (if Text.strip note = [] then none else some (Text.strip note))

/-- Source `transition_case`, the row after the change. -/
def transitioned (case : Case) (change : CaseTransition) (reason note : Option Text)
    (instant : UtcInstant) : Case :=
  if change.toState = .closed then
    { case with
      state := change.toState
      updatedAt := instant
      version := case.version + 1
      closedAt := some instant
      closureReason := reason
      closureNote := note }
  else
    { case with state := change.toState, updatedAt := instant, version := case.version + 1 }

/-- Source `transition_case`. -/
def transitionCase (principal : Principal) (key : CaseKey) (target : Text)
    (reason note : Option Text) (expectedVersion : Option Int) (scope : Option Scope)
    (instant : UtcInstant) (book : CaseBook) : Except DomainError (Case × CaseBook) := do
  let scope ← service.authorizedContext principal scope .updateCase
  let case ← lockedCase directory scope key book
  checkVersion case expectedVersion
  let reason ← closureReason reason
  let note ← closureNote note
  let target ← validateState target
  let change ← transitionResult case.state target reason
  let updated := transitioned case change reason note instant
  .ok (updated, appendEvent (book.putCase updated) updated
    (.stateChanged change.fromState change.toState (change.toState = .closed)) principal.id instant)

/-- Source `escalate_overdue`, the row after the change. -/
def escalatedRow (case : Case) (change : CaseTransition) (instant : UtcInstant) : Case :=
  { case with state := change.toState, updatedAt := instant, version := case.version + 1 }

/-- Source `escalate_overdue`, for a case that is due and neither closed nor escalated. -/
def escalateCase (case : Case) (due : UtcInstant) (actorId : Uuid) (instant : UtcInstant)
    (book : CaseBook) : Except DomainError (Case × CaseBook) := do
  let change ← transitionResult case.state .escalated none
  let updated := escalatedRow case change instant
  match case.assigneeId with
  | none =>
    .error (.conflict ("Case ".toList ++ case.reference ++
      " has no assignee; overdue escalation is refused.".toList))
  | some assignee =>
    (service.queueAndNotify updated .slaBreach [assignee]
      ⟨case.reference, case.id, case.borrowerId, none, some due, some instant⟩ instant
      (appendEvent (book.putCase updated) updated (.slaBreached due instant assignee) actorId
        instant)).map fun book => (updated, book)

/-- Source `escalate_overdue`, one turn of its loop. -/
def escalateStep (scope : Scope) (actorId : Uuid) (instant : UtcInstant)
    (progress : List Case × CaseBook) (candidate : Case) :
    Except DomainError (List Case × CaseBook) :=
  match CaseBook.getForUpdate directory scope progress.2 candidate.id with
  | none => .ok progress
  | some case =>
    match case.dueAt with
    | none => .ok progress
    | some due =>
      if case.state = .closed ∨ isOverdue due instant = false ∨ case.state = .escalated then
        .ok progress
      else
        (service.escalateCase case due actorId instant progress.2).map fun result =>
          (progress.1 ++ [result.1], result.2)

/-- Source `escalate_overdue`. -/
def escalateOverdue (principal : Principal) (scope : Option Scope) (instant : UtcInstant)
    (book : CaseBook) : Except DomainError (List Case × CaseBook) := do
  let scope ← service.authorizedContext principal scope .updateCase
  (CaseBook.overdue directory scope book instant).foldlM
    (service.escalateStep directory scope principal.id instant) ([], book)

end CaseService

end Cases

end CovenantRadar
