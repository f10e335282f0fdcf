import CovenantRadar.Approvals.Runs
import CovenantRadar.Registry.Tables

/-!
# The covenant registry

Source `services/registry.py`: registering, amending and retiring covenants, directly or through
the approval workflow. Every call is one transaction: it returns the state it commits, or raises
and leaves nothing.
-/

namespace CovenantRadar

namespace Registry

open Approvals Security

variable {ρ : Type}

/-- Source `COVENANT_REGISTRATION_OPERATION`. -/
def covenantRegistration : Text := "covenant_registration".toList

/-- Source `COVENANT_AMENDMENT_OPERATION`. -/
def covenantAmendment : Text := "covenant_amendment".toList

/-- Source `COVENANT_RETIREMENT_OPERATION`. -/
def covenantRetirement : Text := "covenant_retirement".toList

/-- What a covenant's request is about. -/
structure Payload where
  covenantId : Uuid
  versionId : Uuid

/-- What a call finds around the registry: the time, what each principal sees, and the tests of
    the covenant engine. -/
structure Context where
  now : UtcInstant
  scopeOf : Uuid → Scope
  tests : List CovenantTest

/-! ## Checks -/

/-- Source `_required_text`. -/
def requiredText (value : Text) (field : String) (maximum : Nat) : Except DomainError Text :=
  let clean := Text.strip value
  let invalid (what : Text) : Except DomainError Text :=
    .error ⟨.validationError, field.toList ++ what, some field.toList⟩
  if clean = [] then invalid " is required.".toList
  else if maximum < clean.length then
    invalid (" must be at most ".toList ++ Text.ofNat maximum ++ " characters.".toList)
  else if clean.any fun c => isControl c || c.toNat == 127 then
    invalid " contains an invalid control character.".toList
  else .ok clean

/-- Source `_registering_user_id`. -/
def registeringUserId (principal : Principal) (operation : String) : Except DomainError Uuid :=
  if principal.kind = .user then .ok principal.id
  else
    .error ⟨.validationError, "Only an authenticated user, not an API key, may ".toList ++
      operation.toList ++ ['.'], some "principal".toList⟩

/-- `validate_cure_period(terms.frequency, terms.cure_days)`. -/
def validateTerms (terms : CovenantVersionTerms) : Except DomainError Unit :=
  (Covenants.validateCurePeriod terms.frequency terms.cureDays).mapError fun error =>
    ⟨.validationError, error.message, some error.field⟩

/-- Source `_ranges_overlap`. -/
def rangesOverlap (fromA : Date) (toA : Option Date) (fromB : Date) (toB : Option Date) : Bool :=
  if toA.any (· ≤ fromB) then false
  else if toB.any (· ≤ fromA) then false
  else true

/-- Source `_validate_no_overlap`. -/
def validateNoOverlap (covenant : Covenant) (current : CovenantVersion)
    (historical : List CovenantVersion) (terms : CovenantVersionTerms) : Except DomainError Unit :=
  let conflict (what : Text) : DomainError :=
    ⟨.conflict, "Covenant ".toList ++ covenant.reference ++ ": the proposed version ".toList ++
      Text.ofNat (current.versionNo + 1) ++ what, some "covenant_version.effective_from".toList⟩
  if terms.effectiveFrom ≤ current.effectiveFrom then
    .error (conflict ("'s effective_from (".toList ++ terms.effectiveFrom.isoformat ++
      ") does not come after version ".toList ++ Text.ofNat current.versionNo ++
      "'s own effective_from (".toList ++ current.effectiveFrom.isoformat ++
      "); the ranges overlap.".toList))
  else
    historical.forM fun version =>
      if rangesOverlap terms.effectiveFrom terms.effectiveTo version.effectiveFrom
          version.effectiveTo then
        .error (conflict ("'s effective range overlaps version ".toList ++
          Text.ofNat version.versionNo ++ "'s (".toList ++ version.effectiveFrom.isoformat ++
          " to ".toList ++ (version.effectiveTo.map Date.isoformat).getD "open".toList ++
          ").".toList))
      else .ok ()

/-- Source `_refuse_open_cure`. -/
def refuseOpenCure (context : Context) (tables : Tables) (covenantId : Uuid) :
    Except DomainError Unit :=
  let openTest := context.tests.find? fun test =>
    (tables.versions.find test.covenantVersionId).any (fun version =>
      version.covenantId = covenantId) &&
    decide (test.verdict = "breach_cure_open".toList) &&
    test.cureEndsOn.all fun last => context.now.date ≤ last
  match openTest with
  | none => .ok ()
  | some test =>
    .error (.conflict ("Covenant retirement is refused while cure state ".toList ++
      Text.repr test.verdict ++ " is open through ".toList ++
      (test.cureEndsOn.map Date.isoformat).getD "an undated window".toList ++ ['.']))

/-! ## What an approval applies -/

/-- Source `_apply_registration_approval`. -/
def applyRegistrationApproval (context : Context) (request : Request Payload) (checkerId : Uuid)
    (tables : Tables) : Except DomainError Tables :=
  match tables.version (context.scopeOf checkerId) request.payload.versionId with
  | none => .error (.notFound
      "The covenant version for this approval was not found in the current scope.".toList)
  | some version =>
    if version.covenantId ≠ request.payload.covenantId then
      .error (.notFound
        "The covenant version for this approval was not found in the current scope.".toList)
    else if version.status.isAwaiting then .ok (tables.activate version)
    else
      .error (.conflict ("Covenant version ".toList ++ Text.ofNat version.versionNo ++
        " is ".toList ++ version.status.value ++ "; only a draft can be approved.".toList))

/-- Source `_apply_amendment_approval`, once the version and its covenant are found. -/
def applyAmendment (covenant : Covenant) (versions : List CovenantVersion)
    (version : CovenantVersion) (tables : Tables) : Except DomainError Tables :=
  match versions.filter fun item => item.status = .live with
  | [current] =>
    if version.versionNo ≤ current.versionNo ∨ version.effectiveFrom ≤ current.effectiveFrom then
      .error (.conflict ("Covenant ".toList ++ covenant.reference ++
        " amendment version ".toList ++ Text.ofNat version.versionNo ++
        " is no longer the next effective version.".toList))
    else .ok ((tables.closeAndSupersede current version.effectiveFrom).activate version)
  | _ =>
    .error (.conflict ("Covenant ".toList ++ covenant.reference ++
      " must have exactly one live version before approval.".toList))

/-- Source `_apply_amendment_approval`. -/
def applyAmendmentApproval (context : Context) (request : Request Payload) (checkerId : Uuid)
    (tables : Tables) : Except DomainError Tables :=
  let scope := context.scopeOf checkerId
  match tables.version scope request.payload.versionId with
  | none => .error (.notFound
      "The covenant amendment for this approval was not found in the current scope.".toList)
  | some version =>
    if version.covenantId ≠ request.payload.covenantId then
      .error (.notFound
        "The covenant amendment for this approval was not found in the current scope.".toList)
    else if version.status.isAwaiting then
      match tables.covenant scope version.covenantId with
      | none => .error (.notFound
          "The covenant for this amendment was not found in the current scope.".toList)
      | some covenant =>
        applyAmendment covenant (tables.forCovenant scope covenant.id) version tables
    else
      .error (.conflict ("Covenant amendment version ".toList ++ Text.ofNat version.versionNo ++
        " is ".toList ++ version.status.value ++ "; only a pending amendment can be approved.".toList))

/-- Source `_apply_retirement`. -/
def applyRetirement (context : Context) (covenant : Covenant) (version : CovenantVersion)
    (tables : Tables) : Except DomainError Tables :=
  match refuseOpenCure context tables covenant.id with
  | .error error => .error error
  | .ok () =>
    if covenant.isActive = false ∨ version.status ≠ .live then
      .error (.conflict ("Covenant ".toList ++ covenant.reference ++
        " is already retired or not live.".toList))
    else .ok (tables.retire covenant version)

/-- Source `_apply_retirement_approval`. -/
def applyRetirementApproval (context : Context) (request : Request Payload) (checkerId : Uuid)
    (tables : Tables) : Except DomainError Tables :=
  let scope := context.scopeOf checkerId
  match tables.covenant scope request.payload.covenantId,
      tables.version scope request.payload.versionId with
  | some covenant, some version =>
    if version.covenantId ≠ covenant.id then
      .error (.notFound
        "The covenant retirement for this approval was not found in the current scope.".toList)
    else applyRetirement context covenant version tables
  | _, _ => .error (.notFound
      "The covenant retirement for this approval was not found in the current scope.".toList)

/-- Source `_wire_approval_callbacks`: an operation is proposed and approved with these
    permissions. -/
def covenantOperation (name : Text)
    (callback : Request Payload → Uuid → Tables → Except DomainError Tables) :
    ApprovalOperation Tables Payload where
  name := name
  proposePermission := .registerCovenant
  approvePermission := .approveCovenant
  distinct := registerCovenant_ne_approveCovenant
  callback := callback

/-- Source `_wire_approval_callbacks`, the operations on covenants and versions. -/
def operations (context : Context) : List (ApprovalOperation Tables Payload) :=
  [covenantOperation covenantRegistration (applyRegistrationApproval context),
    covenantOperation covenantAmendment (applyAmendmentApproval context),
    covenantOperation covenantRetirement (applyRetirementApproval context)]

/-! ## The service -/

/-- Source `RegistryService`. With the control enabled there is always an approval service. -/
structure RegistryService (ρ : Type) where
  repository : Repository ρ Payload
  makerCheckerEnabled : Bool
  settings : Option Settings
  wired : makerCheckerEnabled = true → settings.isSome = true

/-- The tables of the registry and the requests about them. -/
abbrev RegistryState (ρ : Type) : Type := Approvals.State ρ Tables Payload

namespace RegistryService

variable (service : RegistryService ρ)

/-- Source `_approval_workflow_configured`: the settings of the workflow, when there is one. -/
def workflow : Option Settings := if service.makerCheckerEnabled then service.settings else none

/-- Source `_approval_required`. -/
def approvalRequired (operation : Text) : Bool :=
  service.workflow.any fun settings => settings.isEnabled operation

/-- Source `_initial_status`. -/
def initialStatus : VersionStatus := if service.makerCheckerEnabled then .draft else .live

/-- `self.approvals`, with the callbacks of this call. -/
def approvals (context : Context) (settings : Settings) : Approvals.Service ρ Tables Payload where
  repository := service.repository
  settings := settings
  operations := operations context

/-- The transaction of a call of the approval service: committed, or rolled back. -/
def commit {α : Type} (outcome : Approvals.Outcome ρ Tables Payload α) :
    Except DomainError (RegistryState ρ) :=
  match outcome with
  | (.error error, _) => .error error
  | (.ok _, state) => .ok state

/-- Source `_submit_approval`. -/
def submitApproval (context : Context) (operation : Text) (subject : Approvals.Service.Subject)
    (payload : Payload) (maker : Principal) (requestId : Uuid) (state : RegistryState ρ) :
    Except DomainError (RegistryState ρ) :=
  match service.workflow with
  | none => .ok state
  | some settings =>
    commit ((service.approvals context settings).submit operation subject payload maker requestId
      context.now state)

/-- The identifiers `new_id()` gives to a call. -/
structure NewIds where
  covenant : Uuid
  version : Uuid
  request : Uuid

/-- Source `_new_version_row`. -/
def newVersionRow (id covenantId : Uuid) (versionNo : Nat) (terms : CovenantVersionTerms)
    (status : VersionStatus) : CovenantVersion where
  id := id
  covenantId := covenantId
  versionNo := versionNo
  frequency := terms.frequency
  cureDays := terms.cureDays
  effectiveFrom := terms.effectiveFrom
  effectiveTo := terms.effectiveTo
  status := status

/-- Source `_write_context` with `_registering_user_id`: who may write. -/
def authorizeWriter (principal : Principal) (operation : String) : Except DomainError Unit :=
  authorize principal .registerCovenant >>= fun _ =>
    (registeringUserId principal operation).map fun _ => ()

/-- Source `register`. -/
def register (context : Context) (principal : Principal) (facilityId : Uuid)
    (reference name covenantClass : Text) (terms : CovenantVersionTerms) (ids : NewIds)
    (state : RegistryState ρ) : Except DomainError (RegistryState ρ) := do
  authorizeWriter principal "register or amend a covenant"
  validateTerms terms
  if context.scopeOf principal.id facilityId then
    let reference ← requiredText reference "covenant.reference" 20
    let name ← requiredText name "covenant.name" 300
    let covenantClass ← requiredText covenantClass "covenant.covenant_class" 50
    let covenant : Covenant :=
      { id := ids.covenant, reference, facilityId, name, covenantClass, isActive := true }
    let tables ← state.aggregate.addCovenant covenant
    let version := newVersionRow ids.version covenant.id 1 terms service.initialStatus
    let tables ← tables.addVersion version ("Covenant ".toList ++ Text.repr reference ++
      " version 1 conflicts with an existing row.".toList)
    service.submitApproval context covenantRegistration ⟨"covenant_version".toList, version.id⟩
      ⟨covenant.id, version.id⟩ principal ids.request { state with aggregate := tables }
  else
    .error (.notFound ("Facility ".toList ++ facilityId.str ++
      " was not found within the current scope.".toList))

/-- `raise NotFound(...)`, for a reference that names no covenant in scope. -/
def covenantNotFound (reference : Text) : DomainError :=
  .notFound ("Covenant ".toList ++ Text.repr reference ++
    " was not found within the current scope.".toList)

/-- Source `amend`, the version that is amended: the live one under the workflow, which also
    refuses a second amendment while one waits, and otherwise the last one. -/
def currentVersion (covenant : Covenant) (versions : List CovenantVersion) :
    Except DomainError CovenantVersion :=
  let conflict (what : Text) : Except DomainError CovenantVersion :=
    .error (.conflict ("Covenant ".toList ++ covenant.reference ++ what))
  match versions.getLast? with
  | none => conflict " has no version to amend.".toList
  | some last =>
    if service.workflow.isSome then
      match (versions.filter fun version => version.status.isAwaiting).getLast? with
      | some pending => conflict (" already has a pending amendment (version ".toList ++
          Text.ofNat pending.versionNo ++ ").".toList)
      | none =>
        match (versions.filter fun version => version.status = .live).getLast? with
        | none => conflict " cannot be amended until a version is live.".toList
        | some current => .ok current
    else .ok last

/-- Source `amend`, the status of the new version. -/
def amendedStatus : VersionStatus :=
  if service.approvalRequired covenantAmendment then .pendingApproval
  else if service.workflow.isSome then .draft
  else .live

/-- Source `amend`. -/
def amend (context : Context) (principal : Principal) (reference : Text)
    (terms : CovenantVersionTerms) (ids : NewIds) (state : RegistryState ρ) :
    Except DomainError (RegistryState ρ) := do
  authorizeWriter principal "register or amend a covenant"
  validateTerms terms
  let scope := context.scopeOf principal.id
  match state.aggregate.byReference scope reference with
  | none => .error (covenantNotFound reference)
  | some covenant =>
    let versions := state.aggregate.forCovenant scope covenant.id
    let current ← service.currentVersion covenant versions
    validateNoOverlap covenant current versions.dropLast terms
    -- without the workflow the amendment is applied at once
    let tables := if service.workflow.isSome then state.aggregate
      else state.aggregate.closeAndSupersede current terms.effectiveFrom
    let version := newVersionRow ids.version covenant.id (current.versionNo + 1) terms
      service.amendedStatus
    let tables ← tables.addVersion version ("Covenant ".toList ++ covenant.reference ++
      " version ".toList ++ Text.ofNat version.versionNo ++
      " conflicts with an existing row.".toList)
    service.submitApproval context covenantAmendment ⟨"covenant_version".toList, version.id⟩
      ⟨covenant.id, version.id⟩ principal ids.request { state with aggregate := tables }

/-- Source `_pending_requests_in_scope`. -/
def pendingRequestsInScope (scope : Scope) (state : RegistryState ρ) : List (Request Payload) :=
  if service.settings.isSome then
    (service.repository.listPending state.rows).filter fun request =>
      (request.state == .pending) &&
      [covenantRegistration, covenantAmendment, covenantRetirement].contains request.operation &&
      (if request.subjectType = "covenant".toList then
        (state.aggregate.covenant scope request.subjectId).isSome
      else if request.subjectType = "covenant_version".toList then
        (state.aggregate.version scope request.subjectId).isSome
      else false)
  else []

/-- Source `retire`. -/
def retire (context : Context) (principal : Principal) (reference : Text) (ids : NewIds)
    (state : RegistryState ρ) : Except DomainError (RegistryState ρ) := do
  authorizeWriter principal "retire a covenant"
  let scope := context.scopeOf principal.id
  match state.aggregate.byReference scope reference with
  | none => .error (covenantNotFound reference)
  | some covenant =>
    let versions := state.aggregate.forCovenant scope covenant.id
    match (versions.filter fun version => version.status = .live).getLast? with
    | none => .error (.conflict ("Covenant ".toList ++ covenant.reference ++
        " has no live version to retire.".toList))
    | some version =>
      refuseOpenCure context state.aggregate covenant.id
      if service.approvalRequired covenantRetirement then
        if (service.pendingRequestsInScope scope state).any fun request =>
            decide (request.operation = covenantRetirement) &&
            decide (request.payload.covenantId = covenant.id) then
          .error (.conflict ("Covenant ".toList ++ covenant.reference ++
            " already has a pending retirement approval.".toList))
        else
          service.submitApproval context covenantRetirement ⟨"covenant".toList, covenant.id⟩
            ⟨covenant.id, version.id⟩ principal ids.request state
      else
        let tables ← applyRetirement context covenant version state.aggregate
        return { state with aggregate := tables }

/-- Source `decide_approval`. -/
def decideApproval (context : Context) (principal : Principal) (requestId : Uuid)
    (approved : Bool) (reason : Option Text) (state : RegistryState ρ) :
    Except DomainError (RegistryState ρ) :=
  match service.settings with
  | none => .error (.validationError "Maker-checker is not configured." "approval")
  | some settings =>
    if principal.kind ≠ .user then
      .error (.authorizationError
        "Only an authenticated user may decide a covenant approval.".toList "principal")
    else
      match authorize principal .approveCovenant with
      | .error error => .error error
      | .ok () =>
        if (service.pendingRequestsInScope (context.scopeOf principal.id) state).any fun request =>
            request.id = requestId then
          commit ((service.approvals context settings).decide requestId principal approved reason
            context.now state)
        else
          .error (.notFound ("Maker-checker request ".toList ++ requestId.str ++
            " was not found within the current scope.".toList))

/-- Source `approve_covenant`. -/
def approveCovenant (context : Context) (principal : Principal) (reference : Text)
    (approved : Bool) (reason : Option Text) (state : RegistryState ρ) :
    Except DomainError (RegistryState ρ) := do
  authorize principal .approveCovenant
  let scope := context.scopeOf principal.id
  match state.aggregate.byReference scope reference with
  | none => .error (covenantNotFound reference)
  | some covenant =>
    match (service.pendingRequestsInScope scope state).filter fun request =>
        request.payload.covenantId = covenant.id with
    | [] => .error (.notFound ("No pending approval was found for covenant ".toList ++
        Text.repr reference ++ " within the current scope.".toList))
    | request :: _ => service.decideApproval context principal request.id approved reason state

/-- Source `live_at`. -/
def liveAt (context : Context) (principal : Principal) (facilityId : Uuid) (asOf : Date)
    (state : RegistryState ρ) : Except DomainError (List CovenantVersion) :=
  (authorize principal .viewCovenant).map fun _ =>
    (state.aggregate.effectiveAt (context.scopeOf principal.id) facilityId asOf).filter
      fun version => version.status = .live

end RegistryService

end Registry

end CovenantRadar
