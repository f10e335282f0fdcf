import CovenantRadar.Registry.Histories

/-!
# Runs of the registry

What every reachable state of the registry keeps: the histories of the covenants, and the requests
about versions in step with the versions that wait.
-/

namespace CovenantRadar

namespace Registry

open Approvals

variable {ρ : Type} {service : RegistryService ρ} {state state' : RegistryState ρ}
  {tables tables' : Tables} {allowed : Covenant → Prop}

/-- The states that successful calls reach from an empty registry; a call that raises leaves the
    state as it was. -/
inductive Reachable (service : RegistryService ρ) : RegistryState ρ → Prop where
  | empty {state : RegistryState ρ}
      (covenants : state.aggregate.covenants.rows = [])
      (versions : state.aggregate.versions.rows = [])
      (requests : ∀ id, service.repository.getForUpdate state.rows id = none) :
      Reachable service state
  | call {state state' : RegistryState ρ} (call : Call) (before : Reachable service state)
      (returned : call.step service state = .ok state') : Reachable service state'

/-! ## The invariant -/

/-- The requests about versions: each names a version that waits exactly until it is approved,
    and every version that waits has one. -/
structure Docket (service : RegistryService ρ) (state : RegistryState ρ) : Prop where
  known : ∀ {id request}, service.repository.getForUpdate state.rows id = some request →
    request.operation = covenantRegistration ∨ request.operation = covenantAmendment ∨
      request.operation = covenantRetirement
  about : ∀ {id request}, service.repository.getForUpdate state.rows id = some request →
    request.operation ≠ covenantRetirement →
    ∃ version, state.aggregate.versions.find request.payload.versionId = some version ∧
      version.covenantId = request.payload.covenantId ∧
      (request.operation = covenantRegistration ↔ version.versionNo = 1) ∧
      (version.status.isAwaiting = true ↔ request.state ≠ .approved)
  unique : ∀ {id id' request request'},
    service.repository.getForUpdate state.rows id = some request →
    service.repository.getForUpdate state.rows id' = some request' →
    request.operation ≠ covenantRetirement → request'.operation ≠ covenantRetirement →
    request.payload.versionId = request'.payload.versionId → id = id'
  asked : ∀ {id version}, state.aggregate.versions.find id = some version →
    version.status.isAwaiting = true →
    ∃ other request, service.repository.getForUpdate state.rows other = some request ∧
      request.operation ≠ covenantRetirement ∧ request.payload.versionId = id

/-- What every reachable state keeps. -/
structure Sound (service : RegistryService ρ) (state : RegistryState ρ) : Prop where
  histories : ∀ covenantId, ∃ approved awaiting,
    History (state.aggregate.versionsOf covenantId) approved awaiting
  owned : ∀ {id version}, state.aggregate.versions.find id = some version →
    ∃ covenant, state.aggregate.covenants.find version.covenantId = some covenant
  direct : service.workflow = none → ∀ {id version},
    state.aggregate.versions.find id = some version → version.status.isAwaiting = false
  docket : Docket service state

theorem registration_ne_retirement : covenantRegistration ≠ covenantRetirement := by decide

theorem amendment_ne_retirement : covenantAmendment ≠ covenantRetirement := by decide

/-- The operations are stored under their own names. -/
theorem Docket.operation_eq (docket : Docket service state) {id : Uuid} {request : Request Payload}
    (found : service.repository.getForUpdate state.rows id = some request) {operation : Text}
    (valid : validatedOperation request.operation = .ok operation) :
    request.operation = operation := by
  have names : validatedOperation covenantRegistration = .ok covenantRegistration ∧
      validatedOperation covenantAmendment = .ok covenantAmendment ∧
      validatedOperation covenantRetirement = .ok covenantRetirement := ⟨rfl, rfl, rfl⟩
  rcases docket.known found with same | same | same
  · rw [same, names.1] at valid
    rw [same]
    exact Except.ok.inj valid
  · rw [same, names.2.1] at valid
    rw [same]
    exact Except.ok.inj valid
  · rw [same, names.2.2] at valid
    rw [same]
    exact Except.ok.inj valid

/-- A version that is approved as a registration is the first one. -/
theorem Sound.registered_first (sound : Sound service state) {request : Request Payload}
    {version : CovenantVersion}
    (found : service.repository.getForUpdate state.rows request.id = some request)
    (operation : validatedOperation request.operation = .ok covenantRegistration)
    (payload : request.payload = ⟨version.covenantId, version.id⟩)
    (stored : state.aggregate.versions.find version.id = some version) : version.versionNo = 1 := by
  have named := sound.docket.operation_eq found operation
  obtain ⟨row, found', _, numbered, _⟩ := sound.docket.about found (by
    rw [named]
    exact registration_ne_retirement)
  rw [payload, stored] at found'
  cases found'
  exact numbered.mp named

/-! ## The lists of versions, after a change -/

theorem Appended.listed_same {version : CovenantVersion} (appended : Appended tables tables' version)
    {covenantId : Uuid} (owner : version.covenantId = covenantId) :
    tables'.versionsOf covenantId = tables.versionsOf covenantId ++ [version] := by
  rw [appended.listed, if_pos owner]

theorem Appended.listed_other {version : CovenantVersion}
    (appended : Appended tables tables' version) {covenantId : Uuid}
    (other : version.covenantId ≠ covenantId) :
    tables'.versionsOf covenantId = tables.versionsOf covenantId := by
  rw [appended.listed, if_neg other, List.append_nil]

theorem Updated.listed_other {version version' : CovenantVersion}
    (updated : Updated tables tables' version version') {covenantId : Uuid}
    (other : version.covenantId ≠ covenantId) :
    tables'.versionsOf covenantId = tables.versionsOf covenantId := by
  rw [updated.listed]
  refine (List.map_congr_left fun row listed => if_neg ?_).trans (List.map_id _)
  intro same
  obtain ⟨found, owner⟩ := Tables.mem_versionsOf_iff.mp listed
  rw [same, updated.found] at found
  cases found
  exact other owner

theorem Updated.listed_same {version version' : CovenantVersion} {before after : List CovenantVersion}
    (updated : Updated tables tables' version version') {covenantId : Uuid}
    (split : tables.versionsOf covenantId = before ++ version :: after) :
    tables'.versionsOf covenantId = before ++ version' :: after := by
  have once := tables.nodup_versionsOf covenantId
  rw [split] at once
  rw [updated.listed, split, ← updated.id]
  exact Tables.map_replace_append updated.id.symm once

/-- The query's order is the order the versions were added in. -/
theorem History.forCovenant_eq {scope : Scope} {covenantId : Uuid}
    {approved awaiting : List CovenantVersion}
    (history : History (tables.versionsOf covenantId) approved awaiting)
    (visible : (tables.covenant scope covenantId).isSome = true) :
    tables.forCovenant scope covenantId = tables.versionsOf covenantId := by
  unfold Tables.forCovenant
  rw [if_pos visible]
  exact (history.numbered.imp fun below => le_of_lt below).insertionSort_eq

/-- The version that is amended is the last approved one, and nothing waits behind it. -/
theorem Sound.current_eq_last (sound : Sound service state) {scope : Scope} {covenant : Covenant}
    {current : CovenantVersion}
    (seen : state.aggregate.covenant scope covenant.id = some covenant)
    (amendable : service.currentVersion covenant
      (state.aggregate.forCovenant scope covenant.id) = .ok current) :
    ∃ init, History (state.aggregate.versionsOf covenant.id) (init ++ [current]) [] := by
  obtain ⟨approved, awaiting, history⟩ := sound.histories covenant.id
  have sorted := history.forCovenant_eq (by rw [seen]; rfl)
  have listed := currentVersion_mem amendable
  rw [sorted] at listed amendable
  have noneWaits : awaiting = [] := by
    rw [List.eq_nil_iff_forall_not_mem]
    intro version member
    have waits := history.waiting version member
    have inside : version ∈ state.aggregate.versionsOf covenant.id := by
      rw [history.split]
      exact List.mem_append_right _ member
    cases configured : service.workflow with
    | some settings =>
      rw [(currentVersion_workflow (by rw [configured]; rfl) amendable).2 version inside] at waits
      cases waits
    | none =>
      rw [sound.direct configured (Tables.mem_versionsOf_iff.mp inside).1] at waits
      cases waits
  subst noneWaits
  cases configured : service.workflow with
  | some settings =>
    have live := (currentVersion_workflow (by rw [configured]; rfl) amendable).1
    have status := (List.mem_filter.mp (List.mem_of_getLast? live)).2
    rw [decide_eq_true_eq] at status
    have member : current ∈ approved := history.mem_approved_iff.mpr ⟨listed, by rw [status]; rfl⟩
    obtain ⟨init, rfl⟩ := history.timeline.eq_last member (by rw [status]; simp)
    exact ⟨init, history⟩
  | none =>
    have whole := history.split
    rw [List.append_nil] at whole
    unfold RegistryService.currentVersion at amendable
    rw [whole] at amendable
    cases approved using List.reverseRecOn with
    | nil =>
      rw [List.getLast?_nil] at amendable
      cases amendable
    | append_singleton init last =>
      simp only [List.getLast?_concat, configured, Option.isSome_none, Bool.false_eq_true,
        if_false] at amendable
      cases amendable
      exact ⟨init, history⟩

/-- The one live version before an approval is the last approved one, and the approved version
    waits behind it. -/
theorem Sound.only_eq_last (sound : Sound service state) {scope : Scope} {covenant : Covenant}
    {current version : CovenantVersion}
    (seen : state.aggregate.covenant scope covenant.id = some covenant)
    (only : (state.aggregate.forCovenant scope covenant.id).filter (fun item =>
      item.status = .live) = [current])
    (found : state.aggregate.versions.find version.id = some version)
    (owner : version.covenantId = covenant.id) (awaiting : version.status.isAwaiting = true) :
    ∃ init, History (state.aggregate.versionsOf covenant.id) (init ++ [current]) [version] := by
  obtain ⟨approved, awaiting', history⟩ := sound.histories covenant.id
  have listed : version ∈ state.aggregate.versionsOf covenant.id :=
    Tables.mem_versionsOf_iff.mpr ⟨found, owner⟩
  obtain rfl := history.awaiting_eq listed awaiting
  rw [history.forCovenant_eq (by rw [seen]; rfl)] at only
  have member : current ∈ (state.aggregate.versionsOf covenant.id).filter (fun item =>
      item.status = .live) := by
    rw [only]
    exact List.mem_singleton_self current
  rw [List.mem_filter, decide_eq_true_eq] at member
  have approved' : current ∈ approved :=
    history.mem_approved_iff.mpr ⟨member.1, by rw [member.2]; rfl⟩
  obtain ⟨init, rfl⟩ := history.timeline.eq_last approved' (by rw [member.2]; simp)
  exact ⟨init, history⟩

/-! ## The histories, after a change -/

/-- A change of the versions of one covenant. -/
theorem histories_of_other {covenantId : Uuid} {approved awaiting : List CovenantVersion}
    (before : ∀ other, ∃ approved awaiting, History (tables.versionsOf other) approved awaiting)
    (here : History (tables'.versionsOf covenantId) approved awaiting)
    (others : ∀ other, covenantId ≠ other →
      tables'.versionsOf other = tables.versionsOf other) (other : Uuid) :
    ∃ approved awaiting, History (tables'.versionsOf other) approved awaiting := by
  by_cases same : covenantId = other
  · subst same
    exact ⟨approved, awaiting, here⟩
  · rw [others other same]
    exact before other

theorem Sound.versionsOf_fresh (sound : Sound service state) {covenantId : Uuid}
    (fresh : state.aggregate.covenants.find covenantId = none) :
    state.aggregate.versionsOf covenantId = [] := by
  rw [List.eq_nil_iff_forall_not_mem]
  intro version listed
  obtain ⟨found, owner⟩ := Tables.mem_versionsOf_iff.mp listed
  obtain ⟨covenant, known⟩ := sound.owned found
  rw [owner, fresh] at known
  cases known

/-- The closing of the last version and the next one, as one list. -/
theorem versionsOf_amended {between : Tables} {init : List CovenantVersion}
    {current version : CovenantVersion} {covenantId : Uuid}
    (split : tables.versionsOf covenantId = init ++ [current])
    (closed : Updated tables between current (current.closedAt version.effectiveFrom))
    (appended : Appended between tables' version) (owner : version.covenantId = covenantId) :
    tables'.versionsOf covenantId =
      init ++ [current.closedAt version.effectiveFrom, version] := by
  rw [appended.listed_same owner, closed.listed_same split]
  simp

theorem histories_effect (effect : Effect service allowed state state') (sound : Sound service state)
    (covenantId : Uuid) : ∃ approved awaiting,
      History (state'.aggregate.versionsOf covenantId) approved awaiting := by
  cases effect with
  | unchanged tables => rw [tables]; exact sound.histories covenantId
  | retirementAsked tables => rw [tables]; exact sound.histories covenantId
  | dismissed tables => rw [tables]; exact sound.histories covenantId
  | @registered covenant version between added active appended covenants owner first requests =>
    obtain ⟨fresh, versions, _⟩ := Tables.addCovenant_eq_ok added
    have same : ∀ other, between.versionsOf other = state.aggregate.versionsOf other := by
      intro other
      unfold Tables.versionsOf
      rw [versions]
    have alone : state'.aggregate.versionsOf covenant.id = [version] := by
      rw [appended.listed_same owner, same, sound.versionsOf_fresh fresh, List.nil_append]
    have others : ∀ other, covenant.id ≠ other →
        state'.aggregate.versionsOf other = state.aggregate.versionsOf other := by
      intro other apart
      rw [appended.listed_other (by rw [owner]; exact apart), same]
    rcases requests with ⟨waits, _⟩ | ⟨live, _⟩
    · have history := History.nil.propose waits first.ge (by simp)
      rw [List.nil_append, ← alone] at history
      exact histories_of_other sound.histories history others covenantId
    · have history := History.first live first.ge
      have here : History (state'.aggregate.versionsOf covenant.id) [version] [] := by
        rw [alone]
        exact history
      exact histories_of_other sound.histories here others covenantId
  | @proposed scope covenant current version _ _ seen amendable appended _ owner number awaiting =>
    obtain ⟨init, history⟩ := sound.current_eq_last seen amendable
    have below : ∀ earlier ∈ state.aggregate.versionsOf covenant.id,
        earlier.versionNo < version.versionNo := by
      have numbered := history.numbered
      rw [history.split, List.append_nil, List.pairwise_append] at numbered
      intro earlier listed
      rw [history.split, List.append_nil, List.mem_append, List.mem_singleton] at listed
      rcases listed with inside | rfl
      · have below := numbered.2.2 earlier inside current (List.mem_singleton_self current)
        omega
      · omega
    have next := history.propose awaiting (by omega) below
    rw [← appended.listed_same owner] at next
    exact histories_of_other sound.histories next
      (fun other apart => appended.listed_other (by rw [owner]; exact apart)) covenantId
  | @amended scope covenant current version between _ seen amendable closed appended _ owner number
      later live _ =>
    obtain ⟨init, history⟩ := sound.current_eq_last seen amendable
    have split := history.split
    rw [List.append_nil] at split
    have next := history.amend later live (by omega)
    rw [← versionsOf_amended split closed appended owner] at next
    have owner' : current.covenantId = covenant.id := by
      have listed : current ∈ state.aggregate.versionsOf covenant.id := by
        rw [split]
        simp
      exact (Tables.mem_versionsOf_iff.mp listed).2
    have here : History (state'.aggregate.versionsOf covenant.id)
        (init ++ [current.closedAt version.effectiveFrom, version]) [] := by
      rw [versionsOf_amended split closed appended owner] at next ⊢
      exact next
    refine histories_of_other sound.histories here (fun other apart => ?_) covenantId
    rw [appended.listed_other (by rw [owner]; exact apart),
      closed.listed_other (by rw [owner']; exact apart)]
  | @amendmentApproved scope covenant current version between _ _ seen only closed activated _ owner
      number later awaiting _ _ _ _ =>
    have found : state.aggregate.versions.find version.id = some version := by
      have found := activated.found
      rw [closed.find] at found
      split_ifs at found with same
      · rw [Option.some.injEq] at found
        rw [← found] at awaiting
        cases awaiting
      · exact found
    obtain ⟨init, history⟩ := sound.only_eq_last seen only found owner awaiting
    have split := history.split
    rw [List.append_assoc, List.singleton_append] at split
    have closed' := closed.listed_same split
    rw [← List.singleton_append, ← List.append_assoc] at closed'
    have final := activated.listed_same closed'
    have next := @History.amend _ _ _ _ version.activated history later rfl number
    have here : History (state'.aggregate.versionsOf covenant.id)
        (init ++ [current.closedAt version.effectiveFrom, version.activated]) [] := by
      rw [final, List.append_assoc, List.singleton_append]
      exact next
    have owner' : current.covenantId = covenant.id := by
      have listed : current ∈ state.aggregate.versionsOf covenant.id := by
        rw [split]
        simp
      exact (Tables.mem_versionsOf_iff.mp listed).2
    refine histories_of_other sound.histories here (fun other apart => ?_) covenantId
    rw [activated.listed_other (by rw [owner]; exact apart),
      closed.listed_other (by rw [owner']; exact apart)]
  | @registrationApproved version request _ activated _ awaiting settled _ operation payload =>
    obtain ⟨approved, awaiting', history⟩ := sound.histories version.covenantId
    have listed : version ∈ state.aggregate.versionsOf version.covenantId :=
      Tables.mem_versionsOf_iff.mpr ⟨activated.found, rfl⟩
    obtain rfl := history.awaiting_eq listed awaiting
    -- a first version has nothing before it
    have first : version.versionNo = 1 :=
      sound.registered_first settled.found operation payload activated.found
    have alone : approved = [] := by
      rw [List.eq_nil_iff_forall_not_mem]
      intro earlier member
      have numbered := history.numbered
      rw [history.split, List.pairwise_append] at numbered
      have below := numbered.2.2 earlier member version (List.mem_singleton_self version)
      have positive := history.positive earlier (by rw [history.split]; simp [member])
      omega
    subst alone
    have final : state'.aggregate.versionsOf version.covenantId = [] ++ [version.activated] :=
      activated.listed_same history.split
    have here : History (state'.aggregate.versionsOf version.covenantId) [version.activated] [] := by
      rw [final]
      exact History.first rfl first.ge
    exact histories_of_other sound.histories here
      (fun other apart => activated.listed_other apart) covenantId
  | @retired covenant version _ _ owner live updated _ _ =>
    obtain ⟨approved, awaiting', history⟩ := sound.histories covenant.id
    have listed : version ∈ state.aggregate.versionsOf covenant.id :=
      Tables.mem_versionsOf_iff.mpr ⟨updated.found, owner⟩
    have member : version ∈ approved :=
      history.mem_approved_iff.mpr ⟨listed, by rw [live]; rfl⟩
    obtain ⟨init, rfl⟩ := history.timeline.eq_last member (by rw [live]; simp)
    have split := history.split
    rw [List.append_assoc, List.singleton_append] at split
    have here : History (state'.aggregate.versionsOf covenant.id) (init ++ [version.retiredRow])
        awaiting' := by
      rw [updated.listed_same split]
      exact history.retire
    exact histories_of_other sound.histories here
      (fun other apart => updated.listed_other (by rw [owner]; exact apart)) covenantId

end Registry

end CovenantRadar
