import CovenantRadar.Registry.Service

/-!
# What a call of the registry does

The calls of the registry as one step function, and the few kinds of change a successful call
amounts to, each with the guards that let it happen.
-/

namespace CovenantRadar

namespace Registry

open Approvals Security

variable {ρ : Type} {service : RegistryService ρ} {state state' : RegistryState ρ}
  {tables tables' : Tables} {allowed : Covenant → Prop}

/-! ## Calls -/

/-- A call of the registry or of the approval service it shares its transaction with. -/
inductive Call where
  | register (context : Context) (principal : Principal) (facilityId : Uuid)
      (reference name covenantClass : Text) (terms : CovenantVersionTerms)
      (ids : RegistryService.NewIds)
  | amend (context : Context) (principal : Principal) (reference : Text)
      (terms : CovenantVersionTerms) (ids : RegistryService.NewIds)
  | retire (context : Context) (principal : Principal) (reference : Text)
      (ids : RegistryService.NewIds)
  | decideApproval (context : Context) (principal : Principal) (requestId : Uuid) (approved : Bool)
      (reason : Option Text)
  | approveCovenant (context : Context) (principal : Principal) (reference : Text)
      (approved : Bool) (reason : Option Text)
  | expire (context : Context) (requestId : Uuid)
  | expirePending (context : Context) (clock : Nat → UtcInstant) (batchId : Uuid)
  | listPending (context : Context) (checker : Principal)

/-- The state a call commits. -/
def Call.step (service : RegistryService ρ) (state : RegistryState ρ) :
    Call → Except DomainError (RegistryState ρ)
  | register context principal facilityId reference name covenantClass terms ids =>
    service.register context principal facilityId reference name covenantClass terms ids state
  | amend context principal reference terms ids =>
    service.amend context principal reference terms ids state
  | retire context principal reference ids => service.retire context principal reference ids state
  | decideApproval context principal requestId approved reason =>
    service.decideApproval context principal requestId approved reason state
  | approveCovenant context principal reference approved reason =>
    service.approveCovenant context principal reference approved reason state
  | expire context requestId =>
    match service.settings with
    | none => .ok state
    | some settings => RegistryService.commit
        ((service.approvals context settings).expire requestId context.now state)
  | expirePending context clock batchId =>
    match service.settings with
    | none => .ok state
    | some settings => RegistryService.commit
        ((service.approvals context settings).expirePending clock batchId state)
  | listPending context checker =>
    match service.settings with
    | none => .ok state
    | some settings => RegistryService.commit
        ((service.approvals context settings).listPending checker context.now state)

/-- A call amends an allowed covenant, if it amends one. -/
def Call.Amends (state : RegistryState ρ) (allowed : Covenant → Prop) : Call → Prop
  | amend context principal reference _ _ => ∀ covenant,
      state.aggregate.byReference (context.scopeOf principal.id) reference = some covenant →
      allowed covenant
  | _ => True

theorem Call.amends_any (call : Call) (state : RegistryState ρ) :
    call.Amends state fun _ => True := by
  cases call <;> simp [Call.Amends]

/-! ## Changes of the tables -/

/-- A version is added. -/
structure Appended (tables tables' : Tables) (version : CovenantVersion) : Prop where
  fresh : tables.versions.find version.id = none
  find : ∀ id, tables'.versions.find id =
    if id = version.id then some version else tables.versions.find id
  listed : ∀ covenantId, tables'.versionsOf covenantId = tables.versionsOf covenantId ++
    if version.covenantId = covenantId then [version] else []

/-- A version is updated, in its status and its end only. -/
structure Updated (tables tables' : Tables) (version version' : CovenantVersion) : Prop where
  found : tables.versions.find version.id = some version
  id : version'.id = version.id
  covenantId : version'.covenantId = version.covenantId
  versionNo : version'.versionNo = version.versionNo
  effectiveFrom : version'.effectiveFrom = version.effectiveFrom
  find : ∀ id, tables'.versions.find id =
    if id = version.id then some version' else tables.versions.find id
  listed : ∀ covenantId, tables'.versionsOf covenantId = (tables.versionsOf covenantId).map
    fun row => if row.id = version.id then version' else row

theorem updated_putVersion {version version' : CovenantVersion}
    (found : tables.versions.find version.id = some version) (id : version'.id = version.id)
    (covenantId : version'.covenantId = version.covenantId)
    (versionNo : version'.versionNo = version.versionNo)
    (effectiveFrom : version'.effectiveFrom = version.effectiveFrom) :
    Updated tables (tables.putVersion version') version version' where
  found := found
  id := id
  covenantId := covenantId
  versionNo := versionNo
  effectiveFrom := effectiveFrom
  find := by
    intro other
    rw [← id]
    exact KeyedTable.find_put (by rw [id]; exact found) other
  listed := by
    intro other
    rw [← id]
    refine Tables.versionsOf_putVersion other ?_
    intro old found'
    rw [id, found] at found'
    cases found'
    exact covenantId.symm

theorem appended_addVersion {version : CovenantVersion} {conflict : Text}
    (added : tables.addVersion version conflict = .ok tables') :
    Appended tables tables' version ∧ tables'.covenants = tables.covenants := by
  obtain ⟨fresh, covenants, find, listed⟩ := Tables.addVersion_eq_ok added
  exact ⟨⟨fresh, find, listed⟩, covenants⟩

/-- An added version that is updated at once is added as it is then. -/
theorem Appended.updated {tables'' : Tables} {version version' : CovenantVersion}
    (appended : Appended tables tables' version) (updated : Updated tables' tables'' version version') :
    Appended tables tables'' version' where
  fresh := by
    rw [updated.id]
    exact appended.fresh
  find := by
    intro id
    rw [updated.find, appended.find, updated.id]
    by_cases same : id = version.id <;> simp [same]
  listed := by
    intro covenantId
    have untouched : ∀ row ∈ tables.versionsOf covenantId, row.id ≠ version.id := by
      intro row listed same
      have found := (Tables.mem_versionsOf_iff.mp listed).1
      rw [same, appended.fresh] at found
      cases found
    rw [updated.listed, appended.listed, List.map_append, updated.covenantId]
    congr 1
    · exact (List.map_congr_left fun row listed => if_neg (untouched row listed)).trans
        (List.map_id _)
    · by_cases same : version.covenantId = covenantId <;> simp [same]

/-- An update of another version and an addition, in either order. -/
theorem Appended.swap {tables'' : Tables} {version current current' : CovenantVersion}
    (appended : Appended tables tables' version) (other : current.id ≠ version.id)
    (updated : Updated tables' tables'' current current') :
    Updated tables (tables.putVersion current') current current' ∧
      Appended (tables.putVersion current') tables'' version := by
  have found : tables.versions.find current.id = some current := by
    have found := updated.found
    rwa [appended.find, if_neg other] at found
  have first := updated_putVersion found updated.id updated.covenantId updated.versionNo
    updated.effectiveFrom
  refine ⟨first, ⟨?_, ?_, ?_⟩⟩
  · rw [first.find, if_neg (Ne.symm other)]
    exact appended.fresh
  · intro id
    rw [updated.find, appended.find, first.find]
    by_cases here : id = current.id
    · subst here
      rw [if_pos rfl, if_neg other, if_pos rfl]
    · simp [here]
  · intro covenantId
    rw [updated.listed, appended.listed, first.listed, List.map_append]
    congr 1
    by_cases same : version.covenantId = covenantId
    · simp [same, Ne.symm other]
    · simp [same]

/-! ## Changes of the requests -/

/-- The stored requests stay as they are. -/
def SameRequests (service : RegistryService ρ) (state state' : RegistryState ρ) : Prop :=
  ∀ id, service.repository.getForUpdate state'.rows id =
    service.repository.getForUpdate state.rows id

/-- A request is stored. -/
structure Asked (service : RegistryService ρ) (state state' : RegistryState ρ)
    (request : Request Payload) : Prop where
  submitted : request.Submitted
  fresh : service.repository.getForUpdate state.rows request.id = none
  stored : ∀ id, service.repository.getForUpdate state'.rows id =
    if id = request.id then some request else service.repository.getForUpdate state.rows id

/-- A pending request is approved, rejected or expired. -/
structure Settled (service : RegistryService ρ) (state state' : RegistryState ρ)
    (request request' : Request Payload) : Prop where
  found : service.repository.getForUpdate state.rows request.id = some request
  pending : request.state = .pending
  operation : request'.operation = request.operation
  payload : request'.payload = request.payload
  settled : request'.state ≠ .pending
  stored : ∀ id, service.repository.getForUpdate state'.rows id =
    if id = request.id then some request' else service.repository.getForUpdate state.rows id

/-! ## The kinds of change -/

/-- The version that an amendment closes. -/
def CovenantVersion.closedAt (version : CovenantVersion) (effectiveTo : Date) : CovenantVersion :=
  { version with effectiveTo := some effectiveTo, status := .superseded }

/-- The version in force. -/
def CovenantVersion.activated (version : CovenantVersion) : CovenantVersion :=
  { version with status := .live }

/-- The version of a retired covenant. -/
def CovenantVersion.retiredRow (version : CovenantVersion) : CovenantVersion :=
  { version with status := .retired }

/-- What a successful call makes of the state, where amendments are of allowed covenants; an expiry
    sweep is several of them. -/
inductive Effect (service : RegistryService ρ) (allowed : Covenant → Prop)
    (state state' : RegistryState ρ) : Prop where
  | unchanged (tables : state'.aggregate = state.aggregate)
      (requests : SameRequests service state state')
  | retirementAsked {request : Request Payload} (tables : state'.aggregate = state.aggregate)
      (asked : Asked service state state' request)
      (operation : request.operation = covenantRetirement)
  | dismissed {request request' : Request Payload} (tables : state'.aggregate = state.aggregate)
      (settled : Settled service state state' request request')
      (refused : request'.state ≠ .approved)
  | registered {covenant : Covenant} {version : CovenantVersion} {tables : Tables}
      (added : state.aggregate.addCovenant covenant = .ok tables)
      (active : covenant.isActive = true)
      (appended : Appended tables state'.aggregate version)
      (covenants : state'.aggregate.covenants = tables.covenants)
      (owner : version.covenantId = covenant.id) (first : version.versionNo = 1)
      (requests : version.status.isAwaiting = true ∧ service.workflow.isSome = true ∧
          (∃ request, Asked service state state' request ∧
            request.operation = covenantRegistration ∧
            request.payload = ⟨covenant.id, version.id⟩) ∨
        version.status = .live ∧ SameRequests service state state')
  | proposed {scope : Scope} {covenant : Covenant} {current version : CovenantVersion}
      {request : Request Payload}
      (configured : service.workflow.isSome = true)
      (seen : state.aggregate.covenant scope covenant.id = some covenant)
      (amendable : service.currentVersion covenant
        (state.aggregate.forCovenant scope covenant.id) = .ok current)
      (appended : Appended state.aggregate state'.aggregate version)
      (covenants : state'.aggregate.covenants = state.aggregate.covenants)
      (owner : version.covenantId = covenant.id)
      (number : version.versionNo = current.versionNo + 1)
      (awaiting : version.status.isAwaiting = true)
      (asked : Asked service state state' request)
      (operation : request.operation = covenantAmendment)
      (payload : request.payload = ⟨covenant.id, version.id⟩)
  | amended {scope : Scope} {covenant : Covenant} {current version : CovenantVersion}
      {tables : Tables}
      (permitted : allowed covenant)
      (seen : state.aggregate.covenant scope covenant.id = some covenant)
      (amendable : service.currentVersion covenant
        (state.aggregate.forCovenant scope covenant.id) = .ok current)
      (closed : Updated state.aggregate tables current (current.closedAt version.effectiveFrom))
      (appended : Appended tables state'.aggregate version)
      (covenants : state'.aggregate.covenants = state.aggregate.covenants)
      (owner : version.covenantId = covenant.id)
      (number : version.versionNo = current.versionNo + 1)
      (later : current.effectiveFrom < version.effectiveFrom)
      (live : version.status = .live)
      (requests : SameRequests service state state')
  | amendmentApproved {scope : Scope} {covenant : Covenant} {current version : CovenantVersion}
      {tables : Tables} {request request' : Request Payload}
      (seen : state.aggregate.covenant scope covenant.id = some covenant)
      (only : (state.aggregate.forCovenant scope covenant.id).filter (fun item =>
        item.status = .live) = [current])
      (closed : Updated state.aggregate tables current (current.closedAt version.effectiveFrom))
      (activated : Updated tables state'.aggregate version version.activated)
      (covenants : state'.aggregate.covenants = state.aggregate.covenants)
      (owner : version.covenantId = covenant.id)
      (number : current.versionNo < version.versionNo)
      (later : current.effectiveFrom < version.effectiveFrom)
      (awaiting : version.status.isAwaiting = true)
      (settled : Settled service state state' request request')
      (approved : request'.state = .approved)
      (operation : validatedOperation request.operation = .ok covenantAmendment)
      (payload : request.payload = ⟨covenant.id, version.id⟩)
  | registrationApproved {version : CovenantVersion} {request request' : Request Payload}
      (activated : Updated state.aggregate state'.aggregate version version.activated)
      (covenants : state'.aggregate.covenants = state.aggregate.covenants)
      (awaiting : version.status.isAwaiting = true)
      (settled : Settled service state state' request request')
      (approved : request'.state = .approved)
      (operation : validatedOperation request.operation = .ok covenantRegistration)
      (payload : request.payload = ⟨version.covenantId, version.id⟩)
  | retired {covenant : Covenant} {version : CovenantVersion}
      (found : state.aggregate.covenants.find covenant.id = some covenant)
      (active : covenant.isActive = true)
      (owner : version.covenantId = covenant.id)
      (live : version.status = .live)
      (updated : Updated state.aggregate state'.aggregate version version.retiredRow)
      (covenants : ∀ id, state'.aggregate.covenants.find id =
        if id = covenant.id then some { covenant with isActive := false }
        else state.aggregate.covenants.find id)
      (requests : SameRequests service state state' ∨ ∃ request request',
        Settled service state state' request request' ∧ request'.state = .approved ∧
          validatedOperation request.operation = .ok covenantRetirement)

/-! ## The callbacks -/

theorem mem_forCovenant_iff {scope : Scope} {covenantId : Uuid} {version : CovenantVersion} :
    version ∈ tables.forCovenant scope covenantId ↔
      (tables.covenant scope covenantId).isSome = true ∧ version ∈ tables.versionsOf covenantId := by
  unfold Tables.forCovenant
  by_cases visible : (tables.covenant scope covenantId).isSome = true
  · rw [if_pos visible, List.mem_insertionSort]
    simp [visible]
  · rw [if_neg visible]
    simp [visible]

theorem not_or_le {a b : Nat} {c d : Date} (passed : ¬ (a ≤ b ∨ c ≤ d)) : b < a ∧ d < c :=
  ⟨not_le.mp fun low => passed (.inl low), not_le.mp fun low => passed (.inr low)⟩

theorem applyRegistrationApproval_eq_ok {context : Context} {request : Request Payload}
    {checkerId : Uuid}
    (applied : applyRegistrationApproval context request checkerId tables = .ok tables') :
    ∃ version, request.payload = ⟨version.covenantId, version.id⟩ ∧
      version.status.isAwaiting = true ∧ tables'.covenants = tables.covenants ∧
      Updated tables tables' version version.activated := by
  unfold applyRegistrationApproval at applied
  cases seen : tables.version (context.scopeOf checkerId) request.payload.versionId with
  | none =>
    rw [seen] at applied
    cases applied
  | some version =>
    simp only [seen] at applied
    split_ifs at applied with other awaiting
    cases applied
    obtain ⟨found, _⟩ := Tables.version_eq_some seen
    obtain ⟨listed, same⟩ := KeyedTable.find_eq_some_iff.mp found
    have payload : request.payload = ⟨version.covenantId, version.id⟩ := by
      rw [not_not.mp other, same]
    refine ⟨version, payload, awaiting, rfl, ?_⟩
    exact updated_putVersion (by rw [same]; exact found) rfl rfl rfl rfl

theorem applyAmendment_eq_ok {scope : Scope} {covenant : Covenant} {version : CovenantVersion}
    (found : tables.versions.find version.id = some version)
    (applied : applyAmendment covenant (tables.forCovenant scope covenant.id) version tables =
      .ok tables') :
    ∃ current between, (tables.forCovenant scope covenant.id).filter (fun item =>
        item.status = .live) = [current] ∧
      current.versionNo < version.versionNo ∧ current.effectiveFrom < version.effectiveFrom ∧
      tables'.covenants = tables.covenants ∧
      Updated tables between current (current.closedAt version.effectiveFrom) ∧
      Updated between tables' version version.activated := by
  unfold applyAmendment at applied
  split at applied
  · rename_i current only
    split_ifs at applied with stale
    cases applied
    obtain ⟨number, later⟩ := not_or_le stale
    have listed : current ∈ (tables.forCovenant scope covenant.id).filter (fun item =>
        item.status = .live) := by
      rw [only]
      exact List.mem_singleton_self current
    have listed' := (mem_forCovenant_iff.mp (List.mem_of_mem_filter listed)).2
    have current' := (Tables.mem_versionsOf_iff.mp listed').1
    have apart : version.id ≠ current.id := by
      intro same
      rw [same, current'] at found
      cases found
      exact lt_irrefl _ number
    refine ⟨current, _, only, number, later, rfl,
      updated_putVersion current' rfl rfl rfl rfl, updated_putVersion ?_ rfl rfl rfl rfl⟩
    have closed : Updated tables _ current (current.closedAt version.effectiveFrom) :=
      updated_putVersion current' rfl rfl rfl rfl
    rw [closed.find, if_neg apart, found]
  · cases applied

theorem applyAmendmentApproval_eq_ok {context : Context} {request : Request Payload}
    {checkerId : Uuid}
    (applied : applyAmendmentApproval context request checkerId tables = .ok tables') :
    ∃ version covenant current between, request.payload = ⟨covenant.id, version.id⟩ ∧
      version.covenantId = covenant.id ∧ version.status.isAwaiting = true ∧
      tables.versions.find version.id = some version ∧
      tables.covenant (context.scopeOf checkerId) covenant.id = some covenant ∧
      (tables.forCovenant (context.scopeOf checkerId) covenant.id).filter (fun item =>
        item.status = .live) = [current] ∧
      current.versionNo < version.versionNo ∧ current.effectiveFrom < version.effectiveFrom ∧
      tables'.covenants = tables.covenants ∧
      Updated tables between current (current.closedAt version.effectiveFrom) ∧
      Updated between tables' version version.activated := by
  unfold applyAmendmentApproval at applied
  cases seen : tables.version (context.scopeOf checkerId) request.payload.versionId with
  | none =>
    simp only [seen] at applied
    cases applied
  | some version =>
    simp only [seen] at applied
    split_ifs at applied with other awaiting
    cases visible : tables.covenant (context.scopeOf checkerId) version.covenantId with
    | none =>
      rw [visible] at applied
      cases applied
    | some covenant =>
      simp only [visible] at applied
      obtain ⟨found, _⟩ := Tables.version_eq_some seen
      obtain ⟨_, same⟩ := KeyedTable.find_eq_some_iff.mp found
      obtain ⟨_, owner⟩ := KeyedTable.find_eq_some_iff.mp (Tables.covenant_eq_some_iff.mp visible).1
      rw [← same] at found
      obtain ⟨current, between, only, number, later, covenants, closed, activated⟩ :=
        applyAmendment_eq_ok found applied
      refine ⟨version, covenant, current, between, ?_, owner.symm, awaiting, found, ?_, only, number,
        later, covenants, closed, activated⟩
      · rw [owner, not_not.mp other, same]
      · rw [owner]
        exact visible

theorem applyRetirement_eq_ok {context : Context} {covenant : Covenant}
    {version : CovenantVersion} (found : tables.covenants.find covenant.id = some covenant)
    (found' : tables.versions.find version.id = some version)
    (applied : applyRetirement context covenant version tables = .ok tables') :
    covenant.isActive = true ∧ version.status = .live ∧
      Updated tables tables' version version.retiredRow ∧
      ∀ id, tables'.covenants.find id =
        if id = covenant.id then some { covenant with isActive := false }
        else tables.covenants.find id := by
  unfold applyRetirement at applied
  cases cures : refuseOpenCure context tables covenant.id with
  | error error =>
    rw [cures] at applied
    cases applied
  | ok _ =>
    simp only [cures] at applied
    split_ifs at applied with refused
    cases applied
    rw [not_or, not_not] at refused
    have updated : Updated tables (tables.putVersion version.retiredRow) version version.retiredRow :=
      updated_putVersion found' rfl rfl rfl rfl
    refine ⟨by simpa using refused.1, refused.2, ⟨found', rfl, rfl, rfl, rfl, updated.find,
      updated.listed⟩, ?_⟩
    exact KeyedTable.find_put found

/-! ## The calls -/

theorem commit_eq_ok {α : Type} {outcome : Approvals.Outcome ρ Tables Payload α}
    (committed : RegistryService.commit outcome = .ok state') :
    ∃ result, outcome = (.ok result, state') := by
  obtain ⟨result, left⟩ := outcome
  cases result with
  | error error => cases committed
  | ok result =>
    cases committed
    exact ⟨result, rfl⟩

theorem getOperation_operations (context : Context) :
    getOperation (operations context) covenantRegistration =
        .ok (covenantOperation covenantRegistration (applyRegistrationApproval context)) ∧
      getOperation (operations context) covenantAmendment =
        .ok (covenantOperation covenantAmendment (applyAmendmentApproval context)) ∧
      getOperation (operations context) covenantRetirement =
        .ok (covenantOperation covenantRetirement (applyRetirementApproval context)) :=
  ⟨rfl, rfl, rfl⟩

/-- What is done for approval: nothing without the workflow, else a pending request is stored, or
    the callback applied where the control is off. -/
theorem submitApproval_eq_ok {context : Context} {operation : Text}
    {subject : Approvals.Service.Subject} {payload : Payload} {maker : Principal} {requestId : Uuid}
    {callback : Request Payload → Uuid → Tables → Except DomainError Tables}
    (looked : getOperation (operations context) operation =
      .ok (covenantOperation operation callback))
    (submitted : service.submitApproval context operation subject payload maker requestId state =
      .ok state') :
    service.workflow = none ∧ state' = state ∨
      service.workflow.isSome = true ∧ ∃ request : Request Payload,
        request.operation = operation ∧ request.payload = payload ∧
        (service.approvalRequired operation = true ∧ state'.aggregate = state.aggregate ∧
            Asked service state state' request ∨
          service.approvalRequired operation = false ∧ SameRequests service state state' ∧
            callback request maker.id state.aggregate = .ok state'.aggregate) := by
  unfold RegistryService.submitApproval at submitted
  cases configured : service.workflow with
  | none =>
    rw [configured] at submitted
    cases submitted
    exact .inl ⟨rfl, rfl⟩
  | some settings =>
    simp only [configured] at submitted
    obtain ⟨request, outcome⟩ := commit_eq_ok submitted
    obtain ⟨definition, looked', named, about, asked⟩ := submit_eq_ok outcome
    have same : definition = covenantOperation operation callback :=
      Except.ok.inj (looked'.symm.trans looked)
    subst same
    have required : service.approvalRequired operation = settings.isEnabled operation := by
      unfold RegistryService.approvalRequired
      rw [configured]
      rfl
    refine .inr ⟨rfl, request, named, about, ?_⟩
    obtain ⟨enabled, undecided, fresh, tables, stored⟩ | ⟨disabled, rows, called⟩ := asked
    · exact .inl ⟨required.trans enabled, tables, undecided, fresh, stored⟩
    · exact .inr ⟨required.trans disabled, fun id => by rw [rows], called⟩

theorem initialStatus_eq (service : RegistryService ρ) :
    (service.workflow = none → service.initialStatus = .live) ∧
      (service.workflow.isSome = true → service.initialStatus = .draft) := by
  unfold RegistryService.workflow RegistryService.initialStatus
  cases enabled : service.makerCheckerEnabled with
  | true =>
    have wired := service.wired enabled
    refine ⟨fun absent => ?_, fun _ => rfl⟩
    rw [if_pos rfl] at absent
    rw [absent] at wired
    cases wired
  | false => simp

theorem register_effect {context : Context} {principal : Principal} {facilityId : Uuid}
    {reference name covenantClass : Text} {terms : CovenantVersionTerms}
    {ids : RegistryService.NewIds}
    (returned : service.register context principal facilityId reference name covenantClass terms ids
      state = .ok state') : Effect service allowed state state' := by
  unfold RegistryService.register at returned
  obtain ⟨_, _, returned⟩ := Except.bind_eq_ok_iff.mp returned
  obtain ⟨_, _, returned⟩ := Except.bind_eq_ok_iff.mp returned
  split_ifs at returned
  obtain ⟨reference', _, returned⟩ := Except.bind_eq_ok_iff.mp returned
  obtain ⟨name', _, returned⟩ := Except.bind_eq_ok_iff.mp returned
  obtain ⟨covenantClass', _, returned⟩ := Except.bind_eq_ok_iff.mp returned
  obtain ⟨withCovenant, added, returned⟩ := Except.bind_eq_ok_iff.mp returned
  obtain ⟨withVersion, added', submitted⟩ := Except.bind_eq_ok_iff.mp returned
  obtain ⟨appended, covenants⟩ := appended_addVersion added'
  obtain ⟨initial, initial'⟩ := initialStatus_eq service
  obtain ⟨configured, rfl⟩ | ⟨configured, request, operation, payload, outcome⟩ :=
    submitApproval_eq_ok (getOperation_operations context).1 submitted
  · exact .registered added rfl appended covenants rfl rfl (.inr ⟨initial configured, fun _ => rfl⟩)
  · obtain ⟨_, tables, asked⟩ | ⟨_, requests, called⟩ := outcome
    · refine .registered added rfl (by rw [tables]; exact appended) (by rw [tables]; exact covenants)
        rfl rfl (.inl ⟨?_, configured, request, ⟨asked.submitted, asked.fresh, asked.stored⟩,
          operation, payload⟩)
      exact congrArg VersionStatus.isAwaiting (initial' configured)
    · obtain ⟨version, about, awaiting, kept, updated⟩ := applyRegistrationApproval_eq_ok called
      rw [payload, Payload.mk.injEq] at about
      have found := updated.found
      rw [appended.find] at found
      split_ifs at found with same
      · cases found
        exact .registered added rfl (appended.updated updated) (kept.trans covenants) rfl rfl
          (.inr ⟨rfl, requests⟩)
      · exact absurd about.2.symm same

theorem validateNoOverlap_eq_ok {covenant : Covenant} {current : CovenantVersion}
    {historical : List CovenantVersion} {terms : CovenantVersionTerms}
    (passed : validateNoOverlap covenant current historical terms = .ok ()) :
    current.effectiveFrom < terms.effectiveFrom ∧ ∀ version ∈ historical,
      rangesOverlap terms.effectiveFrom terms.effectiveTo version.effectiveFrom
        version.effectiveTo = false := by
  unfold validateNoOverlap at passed
  simp only at passed
  split_ifs at passed with early
  refine ⟨not_le.mp early, fun version listed => ?_⟩
  have apart := forM_eq_ok_iff.mp passed version listed
  by_contra overlap
  rw [if_pos (by simpa using overlap)] at apart
  cases apart

theorem byReference_eq_some {scope : Scope} {reference : Text} {covenant : Covenant}
    (found : tables.byReference scope reference = some covenant) :
    tables.covenant scope covenant.id = some covenant := by
  unfold Tables.byReference at found
  have passed := List.find?_some found
  rw [Bool.and_eq_true] at passed
  rw [Tables.covenant_eq_some_iff]
  exact ⟨KeyedTable.find_of_mem (List.mem_of_find?_eq_some found), passed.2⟩

/-- The version that is amended is a version of the covenant. -/
theorem currentVersion_mem {covenant : Covenant} {versions : List CovenantVersion}
    {current : CovenantVersion}
    (amendable : service.currentVersion covenant versions = .ok current) : current ∈ versions := by
  unfold RegistryService.currentVersion at amendable
  cases last : versions.getLast? with
  | none =>
    rw [last] at amendable
    cases amendable
  | some final =>
    simp only [last] at amendable
    by_cases configured : service.workflow.isSome = true
    · rw [if_pos configured] at amendable
      split at amendable
      · cases amendable
      · split at amendable
        · cases amendable
        · rename_i live
          cases amendable
          exact List.mem_of_mem_filter (List.mem_of_getLast? live)
    · rw [if_neg configured] at amendable
      cases amendable
      exact List.mem_of_getLast? last

/-- Under the workflow the amended version is live, and no other one waits. -/
theorem currentVersion_workflow {covenant : Covenant} {versions : List CovenantVersion}
    {current : CovenantVersion} (configured : service.workflow.isSome = true)
    (amendable : service.currentVersion covenant versions = .ok current) :
    (versions.filter fun version => version.status = .live).getLast? = some current ∧
      ∀ version ∈ versions, version.status.isAwaiting = false := by
  unfold RegistryService.currentVersion at amendable
  cases last : versions.getLast? with
  | none =>
    rw [last] at amendable
    cases amendable
  | some final =>
    simp only [last, if_pos configured] at amendable
    split at amendable
    · cases amendable
    · rename_i nonePending
      split at amendable
      · cases amendable
      · rename_i live
        cases amendable
        refine ⟨live, fun version listed => ?_⟩
        rw [List.getLast?_eq_none_iff, List.filter_eq_nil_iff] at nonePending
        simpa using nonePending version listed

theorem amendedStatus_eq (service : RegistryService ρ) :
    (service.workflow = none → service.amendedStatus = .live) ∧
      (service.workflow.isSome = true → service.amendedStatus.isAwaiting = true) := by
  unfold RegistryService.amendedStatus RegistryService.approvalRequired
  constructor
  · intro none'
    simp [none']
  · intro configured
    rw [if_pos configured]
    split_ifs <;> rfl

/-- An accepted amendment, up to where it goes to the approval service. -/
theorem amend_eq_ok {context : Context} {principal : Principal} {reference : Text}
    {terms : CovenantVersionTerms} {ids : RegistryService.NewIds}
    (returned : service.amend context principal reference terms ids state = .ok state') :
    ∃ covenant current between,
      state.aggregate.byReference (context.scopeOf principal.id) reference = some covenant ∧
      service.currentVersion covenant (state.aggregate.forCovenant (context.scopeOf principal.id)
        covenant.id) = .ok current ∧
      current.effectiveFrom < terms.effectiveFrom ∧
      Appended (if service.workflow.isSome then state.aggregate
          else state.aggregate.closeAndSupersede current terms.effectiveFrom) between
        (RegistryService.newVersionRow ids.version covenant.id (current.versionNo + 1) terms
          service.amendedStatus) ∧
      between.covenants = state.aggregate.covenants ∧
      service.submitApproval context covenantAmendment ⟨"covenant_version".toList, ids.version⟩
        ⟨covenant.id, ids.version⟩ principal ids.request { state with aggregate := between } =
          .ok state' := by
  unfold RegistryService.amend at returned
  obtain ⟨_, _, returned⟩ := Except.bind_eq_ok_iff.mp returned
  obtain ⟨_, _, returned⟩ := Except.bind_eq_ok_iff.mp returned
  cases named : state.aggregate.byReference (context.scopeOf principal.id) reference with
  | none =>
    simp only [named] at returned
    cases returned
  | some covenant =>
    simp only [named] at returned
    obtain ⟨current, amendable, returned⟩ := Except.bind_eq_ok_iff.mp returned
    obtain ⟨_, apart, returned⟩ := Except.bind_eq_ok_iff.mp returned
    obtain ⟨between, added, submitted⟩ := Except.bind_eq_ok_iff.mp returned
    obtain ⟨appended, covenants⟩ := appended_addVersion added
    refine ⟨covenant, current, between, rfl, amendable, (validateNoOverlap_eq_ok apart).1, appended,
      ?_, submitted⟩
    rw [covenants]
    split_ifs <;> rfl

theorem amend_effect {context : Context} {principal : Principal} {reference : Text}
    {terms : CovenantVersionTerms} {ids : RegistryService.NewIds}
    (permitted : ∀ covenant,
      state.aggregate.byReference (context.scopeOf principal.id) reference = some covenant →
      allowed covenant)
    (returned : service.amend context principal reference terms ids state = .ok state') :
    Effect service allowed state state' := by
  obtain ⟨covenant, current, between, named, amendable, later, appended, covenants, submitted⟩ :=
    amend_eq_ok returned
  have seen := byReference_eq_some named
  have listed := (mem_forCovenant_iff.mp (currentVersion_mem amendable)).2
  obtain ⟨found, _⟩ := Tables.mem_versionsOf_iff.mp listed
  obtain ⟨status, status'⟩ := amendedStatus_eq service
  obtain ⟨configured, rfl⟩ | ⟨configured, request, operation, payload, outcome⟩ :=
    submitApproval_eq_ok (getOperation_operations context).2.1 submitted
  · simp only [configured, Option.isSome_none, Bool.false_eq_true, if_false] at appended
    have closed : Updated state.aggregate
        (state.aggregate.closeAndSupersede current terms.effectiveFrom) current
        (current.closedAt terms.effectiveFrom) := updated_putVersion found rfl rfl rfl rfl
    exact .amended (permitted covenant named) seen amendable closed appended covenants rfl rfl later (status configured)
      (fun _ => rfl)
  · rw [if_pos configured] at appended
    obtain ⟨_, tables, asked⟩ | ⟨_, requests, called⟩ := outcome
    · exact .proposed configured seen amendable (by rw [tables]; exact appended)
        (by rw [tables]; exact covenants) rfl rfl (status' configured)
        ⟨asked.submitted, asked.fresh, asked.stored⟩ operation payload
    · -- the control is off for amendments: the callback finds the version just added
      obtain ⟨version, owner, current', _, about, _, _, found', seen', only, _, _, kept, closed,
        activated⟩ := applyAmendmentApproval_eq_ok called
      rw [payload, Payload.mk.injEq] at about
      rw [← about.1] at seen' only
      rw [appended.find] at found'
      split_ifs at found' with same
      · cases found'
        -- the only live version is the one that was to be amended
        obtain ⟨live, _⟩ := currentVersion_workflow configured amendable
        have live' := List.mem_filter.mp (List.mem_of_getLast? live)
        have still : current ∈ (Tables.forCovenant between (context.scopeOf principal.id)
            covenant.id).filter (fun item => item.status = .live) := by
          refine List.mem_filter.mpr ⟨mem_forCovenant_iff.mpr ⟨by rw [seen']; rfl, ?_⟩, live'.2⟩
          rw [appended.listed]
          exact List.mem_append_left _ listed
        rw [only, List.mem_singleton] at still
        subst still
        have apart : current.id ≠ ids.version := by
          intro equal
          have fresh : state.aggregate.versions.find ids.version = none := appended.fresh
          rw [← equal, found] at fresh
          cases fresh
        obtain ⟨closed', appended'⟩ := appended.swap apart closed
        have final : Updated state.aggregate _ current (current.closedAt
            (RegistryService.newVersionRow ids.version covenant.id (current.versionNo + 1) terms
              service.amendedStatus).activated.effectiveFrom) := closed'
        exact .amended (permitted covenant named) seen amendable final (appended'.updated activated) (kept.trans covenants) rfl
          rfl later rfl requests
      · exact absurd about.2.symm same

theorem retire_effect {context : Context} {principal : Principal} {reference : Text}
    {ids : RegistryService.NewIds}
    (returned : service.retire context principal reference ids state = .ok state') :
    Effect service allowed state state' := by
  unfold RegistryService.retire at returned
  obtain ⟨_, _, returned⟩ := Except.bind_eq_ok_iff.mp returned
  cases named : state.aggregate.byReference (context.scopeOf principal.id) reference with
  | none =>
    simp only [named] at returned
    cases returned
  | some covenant =>
    simp only [named] at returned
    cases last : ((state.aggregate.forCovenant (context.scopeOf principal.id) covenant.id).filter
        fun version => version.status = .live).getLast? with
    | none =>
      simp only [last] at returned
      cases returned
    | some version =>
      simp only [last] at returned
      obtain ⟨_, _, returned⟩ := Except.bind_eq_ok_iff.mp returned
      have listed := (mem_forCovenant_iff.mp (List.mem_of_mem_filter (List.mem_of_getLast? last))).2
      obtain ⟨found', owner⟩ := Tables.mem_versionsOf_iff.mp listed
      have found := (Tables.covenant_eq_some_iff.mp (byReference_eq_some named)).1
      split_ifs at returned with required pending
      · obtain ⟨configured, rfl⟩ | ⟨_, request, operation, _, outcome⟩ :=
          submitApproval_eq_ok (getOperation_operations context).2.2 returned
        · exact .unchanged rfl (fun _ => rfl)
        · obtain ⟨_, tables, asked⟩ | ⟨optional, _⟩ := outcome
          · exact .retirementAsked tables asked operation
          · rw [required] at optional
            cases optional
      · obtain ⟨tables, applied, returned⟩ := Except.bind_eq_ok_iff.mp returned
        cases returned
        obtain ⟨active, live, updated, covenants⟩ := applyRetirement_eq_ok found found' applied
        exact .retired found active owner live updated covenants (.inl fun _ => rfl)

theorem applyRetirementApproval_eq_ok {context : Context} {request : Request Payload}
    {checkerId : Uuid}
    (applied : applyRetirementApproval context request checkerId tables = .ok tables') :
    ∃ covenant version, tables.covenants.find covenant.id = some covenant ∧
      covenant.isActive = true ∧ version.covenantId = covenant.id ∧ version.status = .live ∧
      Updated tables tables' version version.retiredRow ∧
      ∀ id, tables'.covenants.find id =
        if id = covenant.id then some { covenant with isActive := false }
        else tables.covenants.find id := by
  unfold applyRetirementApproval at applied
  simp only at applied
  split at applied
  · rename_i covenant version seen seen'
    split_ifs at applied with other
    obtain ⟨found, _⟩ := Tables.version_eq_some seen'
    obtain ⟨_, same⟩ := KeyedTable.find_eq_some_iff.mp found
    have found' := (Tables.covenant_eq_some_iff.mp seen).1
    obtain ⟨_, same'⟩ := KeyedTable.find_eq_some_iff.mp found'
    rw [← same] at found
    rw [← same'] at found'
    obtain ⟨active, live, updated, covenants⟩ := applyRetirement_eq_ok found' found applied
    exact ⟨covenant, version, found', active, not_not.mp other, live, updated, covenants⟩
  · cases applied

theorem decideApproval_effect {context : Context} {principal : Principal} {requestId : Uuid}
    {approved : Bool} {reason : Option Text}
    (returned : service.decideApproval context principal requestId approved reason state =
      .ok state') : Effect service allowed state state' := by
  unfold RegistryService.decideApproval at returned
  cases configured : service.settings with
  | none =>
    rw [configured] at returned
    cases returned
  | some settings =>
    simp only [configured] at returned
    by_cases user : principal.kind = .user
    swap
    · rw [if_pos user] at returned
      cases returned
    rw [if_neg (not_not.mpr user)] at returned
    cases allowed : authorize principal .approveCovenant with
    | error error =>
      rw [allowed] at returned
      cases returned
    | ok _ =>
      simp only [allowed] at returned
      split_ifs at returned
      obtain ⟨decided, outcome⟩ := commit_eq_ok returned
      obtain ⟨request, definition, reason', found, looked, pending, rfl, stored, called⟩ :=
        decide_eq_ok outcome
      have same := service.repository.id_eq found
      obtain ⟨operation, listed⟩ := getOperation_eq_ok looked
      have settled : Settled service state state' request (request.decided principal.id
          (if approved then .approved else .rejected) context.now reason') :=
        { found := by rw [same]; exact found
          pending := pending
          operation := rfl
          payload := rfl
          settled := by cases approved <;> simp [Request.decided]
          stored := by rw [same]; exact stored }
      cases approved with
      | false => exact .dismissed called settled (by simp [Request.decided])
      | true =>
        have approved : (request.decided principal.id (if true = true then .approved
          else .rejected) context.now reason').state = .approved := rfl
        rw [if_pos rfl] at called
        change definition ∈ operations context at listed
        simp only [operations, List.mem_cons, List.not_mem_nil, or_false] at listed
        rcases listed with rfl | rfl | rfl
        · obtain ⟨version, payload, awaiting, covenants, activated⟩ :=
            applyRegistrationApproval_eq_ok called
          exact .registrationApproved activated covenants awaiting settled approved operation payload
        · obtain ⟨version, covenant, current, between, payload, owner, awaiting, _, seen, only,
            number, later, covenants, closed, activated⟩ := applyAmendmentApproval_eq_ok called
          exact .amendmentApproved seen only closed activated covenants owner number later awaiting
            settled approved operation payload
        · obtain ⟨covenant, version, found', active, owner, live, updated, covenants⟩ :=
            applyRetirementApproval_eq_ok called
          exact .retired found' active owner live updated covenants
            (.inr ⟨request, _, settled, approved, operation⟩)

theorem approveCovenant_effect {context : Context} {principal : Principal} {reference : Text}
    {approved : Bool} {reason : Option Text}
    (returned : service.approveCovenant context principal reference approved reason state =
      .ok state') : Effect service allowed state state' := by
  unfold RegistryService.approveCovenant at returned
  obtain ⟨_, _, returned⟩ := Except.bind_eq_ok_iff.mp returned
  simp only at returned
  split at returned
  · cases returned
  · split at returned
    · cases returned
    · exact decideApproval_effect returned

/-- What an expiry does, one request at a time. -/
theorem lapse_effect {context : Context} {settings : Settings}
    (lapse : Lapse (service.approvals context settings) state state') :
    Effect service allowed state state' ∧ state'.aggregate = state.aggregate := by
  cases lapse with
  | unchanged => exact ⟨.unchanged rfl fun _ => rfl, rfl⟩
  | @expired request now reason rows payload found pending elapsed stored named =>
    refine ⟨@Effect.dismissed _ service allowed state _ request (request.expired now reason) rfl
      ⟨found, pending, rfl, rfl, ?_, stored⟩ ?_, rfl⟩
    · simp [Request.expired]
    · simp [Request.expired]
  | swept => exact ⟨.unchanged rfl fun _ => rfl, rfl⟩

/-- Changes one after the other. -/
abbrev Effects (service : RegistryService ρ) (allowed : Covenant → Prop) :
    RegistryState ρ → RegistryState ρ → Prop :=
  Relation.ReflTransGen (Effect service allowed)

theorem lapses_effects {context : Context} {settings : Settings}
    (lapses : Lapses (service.approvals context settings) state state') :
    Effects service allowed state state' ∧ state'.aggregate = state.aggregate := by
  induction lapses with
  | refl => exact ⟨.refl, rfl⟩
  | tail _ lapse ih =>
    obtain ⟨effect, same⟩ := lapse_effect lapse
    exact ⟨ih.1.tail effect, same.trans ih.2⟩

/-- Every successful call is one change, or several that leave the tables as they are. -/
theorem Call.effect {call : Call} (amends : call.Amends state allowed)
    (returned : call.step service state = .ok state') :
    Effect service allowed state state' ∨
      Effects service allowed state state' ∧ state'.aggregate = state.aggregate := by
  have nothing : Effects service allowed state state ∧ state.aggregate = state.aggregate := ⟨.refl, rfl⟩
  cases call with
  | register => exact .inl (register_effect returned)
  | amend => exact .inl (amend_effect amends returned)
  | retire => exact .inl (retire_effect returned)
  | decideApproval => exact .inl (decideApproval_effect returned)
  | approveCovenant => exact .inl (approveCovenant_effect returned)
  | expire context requestId =>
    cases configured : service.settings with
    | none =>
      simp only [Call.step, configured] at returned
      cases returned
      exact .inr nothing
    | some settings =>
      simp only [Call.step, configured] at returned
      obtain ⟨_, outcome⟩ := commit_eq_ok returned
      have lapse := expire_lapse (service.approvals context settings) requestId context.now state
      rw [outcome] at lapse
      exact .inl (lapse_effect lapse).1
  | expirePending context clock batchId =>
    cases configured : service.settings with
    | none =>
      simp only [Call.step, configured] at returned
      cases returned
      exact .inr nothing
    | some settings =>
      simp only [Call.step, configured] at returned
      obtain ⟨_, outcome⟩ := commit_eq_ok returned
      have lapses := expirePending_lapses (service.approvals context settings) clock batchId state
      rw [outcome] at lapses
      exact .inr (lapses_effects lapses)
  | listPending context checker =>
    cases configured : service.settings with
    | none =>
      simp only [Call.step, configured] at returned
      cases returned
      exact .inr nothing
    | some settings =>
      simp only [Call.step, configured] at returned
      obtain ⟨_, outcome⟩ := commit_eq_ok returned
      have lapses := listPending_lapses (service.approvals context settings) checker context.now state
      rw [outcome] at lapses
      exact .inr (lapses_effects lapses)

end Registry

end CovenantRadar
