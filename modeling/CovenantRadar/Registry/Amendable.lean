import CovenantRadar.Registry.Amendments

/-!
# When a covenant can be amended

An amendment of a live covenant is accepted as long as no other version waits. A version waits
from its proposal until its request is approved, so it waits for good once the request is rejected
or has expired.
-/

namespace CovenantRadar

namespace Registry

open Approvals Security

variable {ρ : Type} {service : RegistryService ρ} {state state' : RegistryState ρ}
  {tables tables' : Tables}

/-! ## Submissions that succeed -/

theorem submitApproval_returns {context : Context} {operation : Text}
    {subject : Approvals.Service.Subject} {payload : Payload} {maker : Principal} {requestId : Uuid}
    {callback : Request Payload → Uuid → Tables → Except DomainError Tables}
    (looked : getOperation (operations context) operation =
      .ok (covenantOperation operation callback))
    (permitted : maker.has .registerCovenant = true) {subjectType : Text}
    (valid : validatedSubjectType subject.type = .ok subjectType)
    (fresh : service.repository.getForUpdate state.rows requestId = none)
    (applies : service.workflow.isSome = true → ∀ request : Request Payload,
      request.payload = payload → ∃ tables, callback request maker.id state.aggregate = .ok tables) :
    ∃ state', service.submitApproval context operation subject payload maker requestId state =
      .ok state' := by
  unfold RegistryService.submitApproval
  cases configured : service.workflow with
  | none => exact ⟨state, rfl⟩
  | some settings =>
    have allowed : authorize maker .registerCovenant = .ok () := authorize_eq_ok_iff.mpr permitted
    have proposed : ∃ request, (service.approvals context settings).propose operation subject
        payload maker requestId context.now = .ok (covenantOperation operation callback, request) := by
      unfold Approvals.Service.propose
      refine ⟨_, Except.bind_eq_ok_iff.mpr ⟨_, looked, Except.bind_eq_ok_iff.mpr
        ⟨(), allowed, Except.bind_eq_ok_iff.mpr ⟨subjectType, valid, rfl⟩⟩⟩⟩
    obtain ⟨request, proposed⟩ := proposed
    obtain ⟨_, submitted, same, _, about, _⟩ := propose_eq_ok proposed
    simp only
    unfold Approvals.Service.submit
    simp only [proposed]
    split_ifs with enabled
    · have fresh' : (service.approvals context settings).repository.getForUpdate state.rows
          request.id = none := by
        rw [same]
        exact fresh
      obtain ⟨persisted, rows, created⟩ := Repository.create_returns _ fresh'
      obtain ⟨_, rfl, _⟩ := Repository.create_spec _ submitted created
      rw [created]
      simp only [submitted.pending, if_true]
      exact ⟨_, rfl⟩
    · unfold Approvals.Service.applyDirectly
      obtain ⟨aggregate, called⟩ := applies (by rw [configured]; rfl)
        { request with state := .approved, decidedAt := some context.now } about
      have called' : (covenantOperation operation callback).callback
          { request with state := .approved, decidedAt := some context.now } maker.id
            state.aggregate = .ok aggregate := called
      simp only [called']
      exact ⟨_, rfl⟩

/-! ## The version that is amended -/

/-- With nothing waiting, the live version is the one that is amended. -/
theorem History.currentVersion_eq {versions init : List CovenantVersion} {live : CovenantVersion}
    (history : History versions (init ++ [live]) []) (status : live.status = .live)
    (covenant : Covenant) : service.currentVersion covenant versions = .ok live := by
  have split := history.split
  rw [List.append_nil] at split
  have last : versions.getLast? = some live := by rw [split, List.getLast?_concat]
  have superseded := history.timeline.superseded
  rw [List.dropLast_concat] at superseded
  have waiting : (versions.filter fun version => version.status.isAwaiting).getLast? = none := by
    rw [List.getLast?_eq_none_iff, List.filter_eq_nil_iff]
    intro version listed waits
    rw [split] at listed
    rw [history.approved_ne_awaiting listed] at waits
    cases waits
  have only : (versions.filter fun version => version.status = .live).getLast? = some live := by
    rw [split, List.filter_append, List.filter_cons_of_pos (by simpa using status),
      List.filter_nil, List.getLast?_concat]
  unfold RegistryService.currentVersion
  simp only [last, waiting, only]
  split_ifs <;> rfl

/-- A live version is the only one, of those that are approved and those that wait. -/
theorem History.filter_live {versions init awaiting : List CovenantVersion} {live : CovenantVersion}
    (history : History versions (init ++ [live]) awaiting) (status : live.status = .live) :
    (versions.filter fun version => version.status = .live) = [live] := by
  have superseded := history.timeline.superseded
  rw [List.dropLast_concat] at superseded
  have earlier : (init.filter fun version => decide (version.status = .live)) = [] := by
    rw [List.filter_eq_nil_iff]
    intro version listed
    rw [superseded version listed]
    decide
  have behind : (awaiting.filter fun version => decide (version.status = .live)) = [] := by
    rw [List.filter_eq_nil_iff]
    intro version listed live'
    have waits := history.waiting version listed
    rw [of_decide_eq_true live'] at waits
    cases waits
  rw [history.split, List.filter_append, List.filter_append, earlier, behind,
    List.filter_cons_of_pos (by simpa using status), List.filter_nil, List.nil_append,
    List.append_nil]

/-- Terms that start after the last version started do not overlap the earlier ones. -/
theorem History.validateNoOverlap_eq {versions init : List CovenantVersion} {live : CovenantVersion}
    (history : History versions (init ++ [live]) []) {terms : CovenantVersionTerms}
    (later : live.effectiveFrom < terms.effectiveFrom) (covenant : Covenant) :
    validateNoOverlap covenant live versions.dropLast terms = .ok () := by
  have split := history.split
  rw [List.append_nil] at split
  unfold validateNoOverlap
  simp only
  rw [if_neg (not_le.mpr later), forM_eq_ok_iff, split, List.dropLast_concat]
  intro version listed
  have tiled := history.timeline.tiled.pairwise
  rw [List.pairwise_append] at tiled
  obtain ⟨_, last, ended, before⟩ := tiled.2.2 version listed live (List.mem_singleton_self live)
  have apart : version.effectiveTo.any (fun stop => stop ≤ terms.effectiveFrom) = true := by
    rw [Option.mem_def.mp ended]
    simpa using before.trans later.le
  unfold rangesOverlap
  rw [apart]
  split_ifs <;> first | rfl | contradiction

theorem addVersion_returns {version : CovenantVersion} (conflict : Text)
    (fresh : tables.versions.find version.id = none)
    (number : ∀ other ∈ tables.versionsOf version.covenantId, other.versionNo ≠ version.versionNo) :
    ∃ tables', tables.addVersion version conflict = .ok tables' := by
  unfold Tables.addVersion
  rw [dif_pos fresh, if_neg]
  · exact ⟨_, rfl⟩
  · intro taken
    obtain ⟨other, listed, same⟩ := List.any_eq_true.mp taken
    exact number other listed (of_decide_eq_true same)

/-! ## Accepted amendments -/

/-- The version just proposed can be applied at once. -/
theorem applyAmendmentApproval_returns {context : Context} {request : Request Payload}
    {checkerId : Uuid} {covenant : Covenant} {version live : CovenantVersion}
    {init : List CovenantVersion}
    (history : History (tables.versionsOf covenant.id) (init ++ [live]) [])
    (status : live.status = .live) (appended : Appended tables tables' version)
    (seen : tables'.covenant (context.scopeOf checkerId) covenant.id = some covenant)
    (owner : version.covenantId = covenant.id) (awaiting : version.status.isAwaiting = true)
    (number : live.versionNo < version.versionNo) (later : live.effectiveFrom < version.effectiveFrom)
    (payload : request.payload = ⟨covenant.id, version.id⟩) :
    ∃ tables'', applyAmendmentApproval context request checkerId tables' = .ok tables'' := by
  have below : ∀ earlier ∈ tables.versionsOf covenant.id, earlier.versionNo < version.versionNo := by
    intro earlier listed
    have newest := history.newestApproved
    refine (newest.last earlier listed ?_).trans_lt number
    rw [history.split, List.append_nil] at listed
    exact history.approved_ne_awaiting listed
  have positive : 1 ≤ version.versionNo := by omega
  have next := history.propose awaiting positive below
  rw [← appended.listed_same owner] at next
  have found : tables'.version (context.scopeOf checkerId) version.id = some version := by
    unfold Tables.version
    rw [appended.find, if_pos rfl, Option.filter_some, owner, seen]
    rfl
  have passed : ¬ (version.versionNo ≤ live.versionNo ∨
      version.effectiveFrom ≤ live.effectiveFrom) := by
    rw [not_or]
    exact ⟨not_le.mpr number, not_le.mpr later⟩
  unfold applyAmendmentApproval applyAmendment
  simp only [payload, found, owner, ne_eq, not_true_eq_false, if_false, awaiting, if_true, seen]
  rw [next.forCovenant_eq (by rw [seen]; rfl), next.filter_live status]
  simp only [if_neg passed]
  exact ⟨_, rfl⟩

/-- With nothing waiting, valid terms that start after the live version are accepted. -/
theorem amend_returns {context : Context} {principal : Principal} {reference : Text}
    {terms : CovenantVersionTerms} {ids : RegistryService.NewIds} {covenant : Covenant}
    {live : CovenantVersion} {init : List CovenantVersion}
    (permitted : principal.has .registerCovenant = true) (user : principal.kind = .user)
    (valid : validateTerms terms = .ok ())
    (named : state.aggregate.byReference (context.scopeOf principal.id) reference = some covenant)
    (history : History (state.aggregate.versionsOf covenant.id) (init ++ [live]) [])
    (status : live.status = .live) (later : live.effectiveFrom < terms.effectiveFrom)
    (freshVersion : state.aggregate.versions.find ids.version = none)
    (freshRequest : service.repository.getForUpdate state.rows ids.request = none) :
    ∃ state', service.amend context principal reference terms ids state = .ok state' := by
  have writer : RegistryService.authorizeWriter principal "register or amend a covenant" =
      .ok () := by
    unfold RegistryService.authorizeWriter registeringUserId
    rw [authorize_eq_ok_iff.mpr permitted, if_pos user]
    rfl
  have seen := byReference_eq_some named
  have sorted := history.forCovenant_eq (by rw [seen]; rfl)
  have listed : live ∈ state.aggregate.versionsOf covenant.id := history.newestApproved.listed
  obtain ⟨found, owner⟩ := Tables.mem_versionsOf_iff.mp listed
  have closed : Updated state.aggregate
      (state.aggregate.closeAndSupersede live terms.effectiveFrom) live
      (live.closedAt terms.effectiveFrom) := updated_putVersion found rfl rfl rfl rfl
  -- closing the live version takes no identifier and no number
  have kept : ∀ base, base = state.aggregate ∨
      base = state.aggregate.closeAndSupersede live terms.effectiveFrom →
      base.versions.find ids.version = none ∧
        ∀ other ∈ base.versionsOf covenant.id, other.versionNo ≠ live.versionNo + 1 := by
    have numbers : ∀ other ∈ state.aggregate.versionsOf covenant.id,
        other.versionNo ≠ live.versionNo + 1 := by
      intro other listed'
      have below := history.newestApproved.last other listed' (by
        rw [history.split, List.append_nil] at listed'
        exact history.approved_ne_awaiting listed')
      omega
    intro base origin
    rcases origin with rfl | rfl
    · exact ⟨freshVersion, numbers⟩
    · refine ⟨?_, ?_⟩
      · rw [closed.find, if_neg]
        · exact freshVersion
        · intro same
          rw [same, found] at freshVersion
          cases freshVersion
      · intro other listed'
        rw [closed.listed, List.mem_map] at listed'
        obtain ⟨row, member, rfl⟩ := listed'
        split_ifs with same
        · exact numbers live listed
        · exact numbers row member
  have base : ∀ base, base = state.aggregate ∨
      base = state.aggregate.closeAndSupersede live terms.effectiveFrom → ∀ conflict, ∃ between,
      base.addVersion (RegistryService.newVersionRow ids.version covenant.id (live.versionNo + 1)
        terms service.amendedStatus) conflict = .ok between := by
    intro base origin conflict
    obtain ⟨fresh, numbers⟩ := kept base origin
    exact addVersion_returns conflict fresh numbers
  obtain ⟨between, added⟩ := base (if service.workflow.isSome then state.aggregate
      else state.aggregate.closeAndSupersede live terms.effectiveFrom)
    (by by_cases configured : service.workflow.isSome = true <;> simp [configured])
    ("Covenant ".toList ++ covenant.reference ++ " version ".toList ++
      Text.ofNat (live.versionNo + 1) ++ " conflicts with an existing row.".toList)
  obtain ⟨state', submitted⟩ := @submitApproval_returns _ service
    { state with aggregate := between } context covenantAmendment
    ⟨"covenant_version".toList, ids.version⟩ ⟨covenant.id, ids.version⟩ principal ids.request _
    (getOperation_operations context).2.1 permitted _ rfl freshRequest (by
      intro configured request payload
      rw [if_pos configured] at added
      obtain ⟨appended, covenants⟩ := appended_addVersion added
      refine applyAmendmentApproval_returns history status appended ?_ rfl
        ((amendedStatus_eq service).2 configured) (Nat.lt_succ_self _) later payload
      unfold Tables.covenant at seen ⊢
      rw [covenants]
      exact seen)
  refine ⟨state', ?_⟩
  unfold RegistryService.amend
  refine Except.bind_eq_ok_iff.mpr ⟨(), writer, Except.bind_eq_ok_iff.mpr ⟨(), valid, ?_⟩⟩
  simp only [named]
  rw [sorted]
  refine Except.bind_eq_ok_iff.mpr ⟨live, history.currentVersion_eq status covenant,
    Except.bind_eq_ok_iff.mpr ⟨(), history.validateNoOverlap_eq later covenant,
      Except.bind_eq_ok_iff.mpr ⟨between, added, submitted⟩⟩⟩

/-- An amendment request of the covenant was rejected, or has expired. -/
def Refused (service : RegistryService ρ) (state : RegistryState ρ) (covenantId : Uuid) : Prop :=
  ∃ id request, service.repository.getForUpdate state.rows id = some request ∧
    request.operation = covenantAmendment ∧ request.payload.covenantId = covenantId ∧
    (request.state = .rejected ∨ request.state = .expired)

/-- Behind a live version, a version waits only for an amendment that was refused or is pending. -/
theorem Sound.awaiting_nil (sound : Sound service state) {covenantId : Uuid}
    {live : CovenantVersion} {init awaiting : List CovenantVersion}
    (history : History (state.aggregate.versionsOf covenantId) (init ++ [live]) awaiting)
    (nonePending : ∀ id request, service.repository.getForUpdate state.rows id = some request →
      request.payload.covenantId = covenantId → request.state ≠ .pending)
    (open' : service.workflow = none ∨ ¬ Refused service state covenantId) : awaiting = [] := by
  rw [List.eq_nil_iff_forall_not_mem]
  intro version member
  have waits := history.waiting version member
  have listed : version ∈ state.aggregate.versionsOf covenantId := by
    rw [history.split]
    exact List.mem_append_right _ member
  obtain ⟨found, owner⟩ := Tables.mem_versionsOf_iff.mp listed
  rcases open' with direct | notRefused
  · rw [sound.direct direct found] at waits
    cases waits
  · obtain ⟨id, request, asked, versioned, named⟩ := sound.docket.asked found waits
    obtain ⟨row, found', owner', first, unapproved⟩ := sound.docket.about asked versioned
    rw [named, found] at found'
    cases found'
    have further : version.versionNo ≠ 1 := by
      have numbered := history.numbered
      rw [history.split, List.pairwise_append] at numbered
      have below := numbered.2.2 live (by simp) version member
      have positive := history.positive live (by rw [history.split]; simp)
      omega
    have amendment : request.operation = covenantAmendment := by
      rcases sound.docket.known asked with same | same | same
      · exact absurd (first.mp same) further
      · exact same
      · exact absurd same versioned
    have about : request.payload.covenantId = covenantId := owner'.symm.trans owner
    apply notRefused
    refine ⟨id, request, asked, amendment, about, ?_⟩
    cases decided : request.state with
    | pending => exact absurd decided (nonePending id request asked about)
    | approved => exact absurd decided (unapproved.mp waits)
    | rejected => exact .inl rfl
    | expired => exact .inr rfl

/-- In a reachable state where a covenant has a live version and no pending request, valid terms
    that start after the live version are accepted exactly when there is no approval workflow or no
    amendment of the covenant was ever rejected or expired. -/
theorem amend_accepted_iff (reachable : Reachable service state) {context : Context}
    {principal : Principal} {reference : Text} {terms : CovenantVersionTerms}
    {ids : RegistryService.NewIds} {covenant : Covenant} {live : CovenantVersion}
    (permitted : principal.has .registerCovenant = true) (user : principal.kind = .user)
    (valid : validateTerms terms = .ok ())
    (named : state.aggregate.byReference (context.scopeOf principal.id) reference = some covenant)
    (listed : live ∈ state.aggregate.versionsOf covenant.id) (status : live.status = .live)
    (nonePending : ∀ id request, service.repository.getForUpdate state.rows id = some request →
      request.payload.covenantId = covenant.id → request.state ≠ .pending)
    (later : live.effectiveFrom < terms.effectiveFrom)
    (freshVersion : state.aggregate.versions.find ids.version = none)
    (freshRequest : service.repository.getForUpdate state.rows ids.request = none) :
    (∃ state', service.amend context principal reference terms ids state = .ok state') ↔
      service.workflow = none ∨ ¬ Refused service state covenant.id := by
  have sound := reachable.sound
  constructor
  · intro accepted
    obtain ⟨state', returned⟩ := accepted
    obtain ⟨other, current, _, named', amendable, _⟩ := amend_eq_ok returned
    rw [named] at named'
    cases named'
    cases configured : service.workflow with
    | none => exact .inl rfl
    | some settings =>
      right
      intro refused
      obtain ⟨id, request, asked, amendment, about, decided⟩ := refused
      obtain ⟨row, found, owner, _, unapproved⟩ := sound.docket.about asked (by
        rw [amendment]
        exact amendment_ne_retirement)
      obtain ⟨_, same⟩ := KeyedTable.find_eq_some_iff.mp found
      rw [← same] at found
      have inside : row ∈ state.aggregate.forCovenant (context.scopeOf principal.id) covenant.id := by
        refine mem_forCovenant_iff.mpr ⟨by rw [byReference_eq_some named]; rfl, ?_⟩
        exact Tables.mem_versionsOf_iff.mpr ⟨found, owner.trans about⟩
      have settled := (currentVersion_workflow (by rw [configured]; rfl) amendable).2 row inside
      have waits : row.status.isAwaiting = true := unapproved.mpr (by
        rcases decided with rejected | expired
        · rw [rejected]
          simp
        · rw [expired]
          simp)
      rw [settled] at waits
      cases waits
  · intro open'
    obtain ⟨approved, awaiting, history⟩ := sound.histories covenant.id
    have member := history.mem_approved_iff.mpr ⟨listed, by rw [status]; rfl⟩
    obtain ⟨init, rfl⟩ := history.timeline.eq_last member (by rw [status]; simp)
    obtain rfl := sound.awaiting_nil history nonePending open'
    exact amend_returns permitted user valid named history status later freshVersion freshRequest

/-- The covenant of the sample, approved and in force from January. -/
def approvedRegistry : RegistryState (Rows Payload) :=
  runCalls (sampleService true) emptyRegistry
    [sampleRegistration (openTerms newYear),
      sampleDecision 12 true]

/-- No request of the table is pending. -/
theorem nonePending_of_states {rows : Rows Payload} {states : List RequestState}
    (stored : rows.rows.map (fun request => request.state) = states)
    (settled : RequestState.pending ∉ states) (id : Uuid) (request : Request Payload)
    (found : (databaseRepository Payload).getForUpdate rows id = some request) :
    request.state ≠ .pending := by
  intro pending
  apply settled
  rw [← stored, ← pending]
  exact List.mem_map_of_mem (KeyedTable.find_eq_some_iff.mp found).1

theorem amend_accepted_approved : ∃ state', (sampleService true).amend sampleContext sampleWriter
    "COV-1".toList (openTerms marchFirst)
    ⟨Uuid.ofInt 20, Uuid.ofInt 21, Uuid.ofInt 22⟩ approvedRegistry = .ok state' := by
  have reachable : Reachable (sampleService true) approvedRegistry :=
    (emptyRegistry_reachable true).runCalls _
  have states : approvedRegistry.rows.rows.map (fun request => request.state) = [.approved] := rfl
  have versions : approvedRegistry.aggregate.versionsOf (Uuid.ofInt 10) =
      [sampleVersion 11 1 newYear none .live] := rfl
  have listed : sampleVersion 11 1 newYear none .live ∈
      approvedRegistry.aggregate.versionsOf (Uuid.ofInt 10) := by
    rw [versions]
    exact List.mem_cons_self
  refine (amend_accepted_iff reachable rfl rfl rfl rfl listed rfl ?_ (by decide) rfl rfl).mpr
    (.inr ?_)
  · intro id request found _
    exact nonePending_of_states states (by decide) id request found
  · intro refused
    obtain ⟨id, request, found, _, _, decided⟩ := refused
    have state : request.state ∈ [RequestState.approved] := by
      rw [← states]
      exact List.mem_map_of_mem (KeyedTable.find_eq_some_iff.mp found).1
    rw [List.mem_singleton] at state
    rw [state] at decided
    simp at decided

/-- The same covenant, after an amendment was asked for and rejected. -/
def rejectedRegistry : RegistryState (Rows Payload) :=
  runCalls (sampleService true) approvedRegistry
    [sampleAmendment (openTerms marchFirst),
      sampleDecision 22 false]

/-- After the rejection, the covenant cannot be amended again. -/
theorem amend_refused_after_rejection :
    Reachable (sampleService true) rejectedRegistry ∧
      ((rejectedRegistry.aggregate.byReference (sampleContext.scopeOf sampleWriter.id)
        "COV-1".toList).map fun covenant => (covenant.id, covenant.isActive)) =
          some (Uuid.ofInt 10, true) ∧
      sampleVersion 11 1 newYear none .live ∈
        rejectedRegistry.aggregate.versionsOf (Uuid.ofInt 10) ∧
      (∀ id request, (databaseRepository Payload).getForUpdate rejectedRegistry.rows id =
        some request → request.state ≠ .pending) ∧
      validateTerms (openTerms ⟨2026, 4, 1, by decide⟩) = .ok () ∧
      (sampleService true).amend sampleContext sampleWriter "COV-1".toList
          (openTerms ⟨2026, 4, 1, by decide⟩)
          ⟨Uuid.ofInt 30, Uuid.ofInt 31, Uuid.ofInt 32⟩ rejectedRegistry =
        .error (.conflict
          "Covenant COV-1 already has a pending amendment (version 2).".toList) := by
  have versions : rejectedRegistry.aggregate.versionsOf (Uuid.ofInt 10) =
      [sampleVersion 11 1 newYear none .live,
        sampleVersion 21 2 marchFirst none .pendingApproval] := rfl
  have states : rejectedRegistry.rows.rows.map (fun request => request.state) =
      [.approved, .rejected] := rfl
  refine ⟨((emptyRegistry_reachable true).runCalls _).runCalls _, rfl, ?_,
    nonePending_of_states states (by decide), rfl, rfl⟩
  rw [versions]
  exact List.mem_cons_self

end Registry

end CovenantRadar
