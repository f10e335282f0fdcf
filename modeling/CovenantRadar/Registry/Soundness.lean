import CovenantRadar.Registry.Runs

/-!
# What every reachable state of the registry keeps

Each change keeps the histories and keeps the requests in step with the versions that wait; so
does every run.
-/

namespace CovenantRadar

namespace Registry

open Approvals

variable {ρ : Type} {service : RegistryService ρ} {state state' : RegistryState ρ}
  {tables tables' : Tables} {allowed : Covenant → Prop}

/-! ## Changes that leave the waiting versions alone -/

/-- No version starts to wait. -/
def NoneNewlyWaits (tables tables' : Tables) : Prop :=
  ∀ id version', tables'.versions.find id = some version' → version'.status.isAwaiting = true →
    ∃ version, tables.versions.find id = some version ∧ version.status.isAwaiting = true

/-- Every version stays with its covenant, its number and its place among those that wait. -/
structure Carries (tables tables' : Tables) : Prop where
  kept : ∀ {id version}, tables.versions.find id = some version →
    ∃ version', tables'.versions.find id = some version' ∧
      version'.covenantId = version.covenantId ∧ version'.versionNo = version.versionNo ∧
      version'.status.isAwaiting = version.status.isAwaiting
  noneNew : NoneNewlyWaits tables tables'

theorem Carries.refl (tables : Tables) : Carries tables tables where
  kept := fun found => ⟨_, found, rfl, rfl, rfl⟩
  noneNew := fun _ _ found waits => ⟨_, found, waits⟩

theorem Carries.trans {tables'' : Tables} (first : Carries tables tables')
    (second : Carries tables' tables'') : Carries tables tables'' where
  kept := by
    intro id version found
    obtain ⟨version', found', owner', number', waits'⟩ := first.kept found
    obtain ⟨version'', found'', owner'', number'', waits''⟩ := second.kept found'
    exact ⟨version'', found'', owner''.trans owner', number''.trans number', waits''.trans waits'⟩
  noneNew := by
    intro id version found waits
    obtain ⟨version', found', waits'⟩ := second.noneNew _ _ found waits
    exact first.noneNew _ _ found' waits'

theorem Appended.carries {version : CovenantVersion} (appended : Appended tables tables' version)
    (settled : version.status.isAwaiting = false) : Carries tables tables' where
  kept := by
    intro id old found
    refine ⟨old, ?_, rfl, rfl, rfl⟩
    rw [appended.find, if_neg, found]
    intro same
    rw [same, appended.fresh] at found
    cases found
  noneNew := by
    intro id old found waits
    rw [appended.find] at found
    split_ifs at found with same
    · cases found
      rw [settled] at waits
      cases waits
    · exact ⟨old, found, waits⟩

/-- An update that ends a wait, or does not touch one. -/
theorem Updated.noneNewlyWaits {version version' : CovenantVersion}
    (updated : Updated tables tables' version version')
    (settled : version'.status.isAwaiting = false) : NoneNewlyWaits tables tables' := by
  intro id old found waits
  rw [updated.find] at found
  split_ifs at found with same
  · cases found
    rw [settled] at waits
    cases waits
  · exact ⟨old, found, waits⟩

theorem Updated.carries {version version' : CovenantVersion}
    (updated : Updated tables tables' version version')
    (before : version.status.isAwaiting = false) (after : version'.status.isAwaiting = false) :
    Carries tables tables' where
  kept := by
    intro id old found
    by_cases same : id = version.id
    · rw [same, updated.found] at found
      cases found
      refine ⟨version', ?_, updated.covenantId, updated.versionNo, after.trans before.symm⟩
      rw [updated.find, if_pos same]
    · exact ⟨old, by rw [updated.find, if_neg same, found], rfl, rfl, rfl⟩
  noneNew := updated.noneNewlyWaits after

/-! ## The docket, after a change -/

/-- Only the versions changed, and none that waits. -/
theorem Docket.carried (docket : Docket service state)
    (requests : SameRequests service state state')
    (carries : Carries state.aggregate state'.aggregate) : Docket service state' where
  known := by
    intro id request found
    rw [requests] at found
    exact docket.known found
  about := by
    intro id request found versioned
    rw [requests] at found
    obtain ⟨version, found', owner, number, waits⟩ := docket.about found versioned
    obtain ⟨version', found'', owner', number', waits'⟩ := carries.kept found'
    exact ⟨version', found'', owner'.trans owner, by rw [number', number], by rw [waits', waits]⟩
  unique := by
    intro id id' request request' found found' versioned versioned' same
    rw [requests] at found found'
    exact docket.unique found found' versioned versioned' same
  asked := by
    intro id version found waits
    obtain ⟨version', found', waits'⟩ := carries.noneNew _ _ found waits
    obtain ⟨other, request, found'', versioned, named⟩ := docket.asked found' waits'
    exact ⟨other, request, by rw [requests]; exact found'', versioned, named⟩

/-- A retirement is asked for. -/
theorem Docket.retirementAsked {request : Request Payload} (docket : Docket service state)
    (asked : Asked service state state' request) (operation : request.operation = covenantRetirement)
    (tables : state'.aggregate = state.aggregate) : Docket service state' where
  known := by
    intro id other found
    rw [asked.stored] at found
    split_ifs at found with same
    · cases found
      exact .inr (.inr operation)
    · exact docket.known found
  about := by
    intro id other found versioned
    rw [asked.stored] at found
    rw [tables]
    split_ifs at found with same
    · cases found
      exact absurd operation versioned
    · exact docket.about found versioned
  unique := by
    intro id id' other other' found found' versioned versioned'
    rw [asked.stored] at found found'
    split_ifs at found found' with same same' same'
    · cases found
      exact absurd operation versioned
    · cases found
      exact absurd operation versioned
    · cases found'
      exact absurd operation versioned'
    · exact docket.unique found found' versioned versioned'
  asked := by
    intro id version found waits
    rw [tables] at found
    obtain ⟨other, request', found', versioned, named⟩ := docket.asked found waits
    refine ⟨other, request', ?_, versioned, named⟩
    rw [asked.stored, if_neg, found']
    intro same
    rw [same, asked.fresh] at found'
    cases found'

/-- A version that waits is added with its request. -/
theorem Docket.versionAsked {request : Request Payload} {version : CovenantVersion}
    (docket : Docket service state) (appended : Appended state.aggregate state'.aggregate version)
    (asked : Asked service state state' request)
    (operation : request.operation = covenantRegistration ∨ request.operation = covenantAmendment)
    (first : request.operation = covenantRegistration ↔ version.versionNo = 1)
    (payload : request.payload = ⟨version.covenantId, version.id⟩)
    (waits : version.status.isAwaiting = true) : Docket service state' := by
  have versioned : request.operation ≠ covenantRetirement := by
    rcases operation with same | same
    · rw [same]
      exact registration_ne_retirement
    · rw [same]
      exact amendment_ne_retirement
  -- no earlier request is about the new version
  have unnamed : ∀ {id other}, service.repository.getForUpdate state.rows id = some other →
      other.operation ≠ covenantRetirement → other.payload.versionId ≠ version.id := by
    intro id other found versioned same
    obtain ⟨row, found', _⟩ := docket.about found versioned
    rw [same, appended.fresh] at found'
    cases found'
  refine ⟨?_, ?_, ?_, ?_⟩
  · intro id other found
    rw [asked.stored] at found
    split_ifs at found with same
    · cases found
      rcases operation with named | named
      · exact .inl named
      · exact .inr (.inl named)
    · exact docket.known found
  · intro id other found versioned
    rw [asked.stored] at found
    split_ifs at found with same
    · cases found
      refine ⟨version, by rw [payload, appended.find, if_pos rfl], by rw [payload], first, ?_⟩
      simp [waits, asked.submitted.pending]
    · obtain ⟨row, found', rest⟩ := docket.about found versioned
      refine ⟨row, ?_, rest⟩
      rw [appended.find, if_neg (unnamed found versioned), found']
  · intro id id' other other' found found' versioned versioned' named
    rw [asked.stored] at found found'
    split_ifs at found found' with same same' same'
    · exact same.trans same'.symm
    · cases found
      rw [payload] at named
      exact absurd named.symm (unnamed found' versioned')
    · cases found'
      rw [payload] at named
      exact absurd named (unnamed found versioned)
    · exact docket.unique found found' versioned versioned' named
  · intro id row found waits
    rw [appended.find] at found
    split_ifs at found with same
    · cases found
      exact ⟨request.id, request, by rw [asked.stored, if_pos rfl], versioned, by rw [payload, same]⟩
    · obtain ⟨other, request', found', versioned', named⟩ := docket.asked found waits
      refine ⟨other, request', ?_, versioned', named⟩
      rw [asked.stored, if_neg, found']
      intro equal
      rw [equal, asked.fresh] at found'
      cases found'

/-- A request is settled that ends no wait: it was refused, or is about a retirement. -/
theorem Docket.settled {request request' : Request Payload} (docket : Docket service state)
    (settled : Settled service state state' request request')
    (idle : request.operation = covenantRetirement ∨ request'.state ≠ .approved)
    (carries : Carries state.aggregate state'.aggregate) : Docket service state' where
  known := by
    intro id other found
    rw [settled.stored] at found
    split_ifs at found with same
    · cases found
      rw [settled.operation]
      exact docket.known settled.found
    · exact docket.known found
  about := by
    intro id other found versioned
    rw [settled.stored] at found
    split_ifs at found with same
    · cases found
      rw [settled.operation] at versioned
      obtain ⟨row, found', owner, number, waits⟩ := docket.about settled.found versioned
      obtain ⟨row', found'', owner', number', waits'⟩ := carries.kept found'
      have refused : request'.state ≠ .approved := idle.resolve_left versioned
      refine ⟨row', by rw [settled.payload, found''], ?_, ?_, ?_⟩
      · rw [owner', owner, settled.payload]
      · rw [settled.operation, number', number]
      · rw [waits', waits, settled.pending]
        simp [refused]
    · obtain ⟨row, found', owner, number, waits⟩ := docket.about found versioned
      obtain ⟨row', found'', owner', number', waits'⟩ := carries.kept found'
      exact ⟨row', found'', owner'.trans owner, by rw [number', number], by rw [waits', waits]⟩
  unique := by
    intro id id' other other' found found' versioned versioned' named
    rw [settled.stored] at found found'
    split_ifs at found found' with same same' same'
    · exact same.trans same'.symm
    · cases found
      rw [settled.operation] at versioned
      rw [settled.payload] at named
      rw [same]
      exact docket.unique settled.found found' versioned versioned' named
    · cases found'
      rw [settled.operation] at versioned'
      rw [settled.payload] at named
      rw [same']
      exact docket.unique found settled.found versioned versioned' named
    · exact docket.unique found found' versioned versioned' named
  asked := by
    intro id row found waits
    obtain ⟨row', found', waits'⟩ := carries.noneNew _ _ found waits
    obtain ⟨other, request'', found'', versioned, named⟩ := docket.asked found' waits'
    by_cases same : other = request.id
    · refine ⟨other, request', by rw [settled.stored, if_pos same], ?_, ?_⟩
      · rw [same, settled.found] at found''
        cases found''
        rw [settled.operation]
        exact versioned
      · rw [same, settled.found] at found''
        cases found''
        rw [settled.payload, named]
    · exact ⟨other, request'', by rw [settled.stored, if_neg same, found''], versioned, named⟩

/-- A version's request is approved, and its wait ends. -/
theorem Docket.activated {request request' : Request Payload} {version : CovenantVersion}
    (docket : Docket service state) (settled : Settled service state state' request request')
    (approved : request'.state = .approved) (versioned : request.operation ≠ covenantRetirement)
    (named : request.payload.versionId = version.id)
    (activated : Updated state.aggregate state'.aggregate version version.activated) :
    Docket service state' where
  known := by
    intro id other found
    rw [settled.stored] at found
    split_ifs at found with same
    · cases found
      rw [settled.operation]
      exact docket.known settled.found
    · exact docket.known found
  about := by
    intro id other found versioned'
    rw [settled.stored] at found
    split_ifs at found with same
    · cases found
      obtain ⟨row, found', owner, number, _⟩ := docket.about settled.found versioned
      rw [named, activated.found] at found'
      cases found'
      refine ⟨version.activated, ?_, ?_, ?_, ?_⟩
      · rw [settled.payload, activated.find, if_pos named]
      · rw [settled.payload]
        exact owner
      · rw [settled.operation]
        exact number
      · simp [approved, CovenantVersion.activated, VersionStatus.isAwaiting]
    · obtain ⟨row, found', rest⟩ := docket.about found versioned'
      refine ⟨row, ?_, rest⟩
      rw [activated.find, if_neg, found']
      intro equal
      exact same (docket.unique found settled.found versioned' versioned (equal.trans named.symm))
  unique := by
    intro id id' other other' found found' versioned' versioned'' named'
    rw [settled.stored] at found found'
    split_ifs at found found' with same same' same'
    · exact same.trans same'.symm
    · cases found
      rw [settled.payload] at named'
      rw [same]
      exact docket.unique settled.found found' versioned versioned'' named'
    · cases found'
      rw [settled.payload] at named'
      rw [same']
      exact docket.unique found settled.found versioned' versioned named'
    · exact docket.unique found found' versioned' versioned'' named'
  asked := by
    intro id row found waits
    rw [activated.find] at found
    split_ifs at found with same
    · cases found
      cases waits
    · obtain ⟨other, request'', found', versioned', named'⟩ := docket.asked found waits
      refine ⟨other, request'', ?_, versioned', named'⟩
      rw [settled.stored, if_neg, found']
      intro equal
      rw [equal, settled.found] at found'
      cases found'
      exact same (named'.symm.trans named)

/-- The tables alone move to an intermediate state of a change. -/
theorem Docket.between (docket : Docket service state) (carries : Carries state.aggregate tables) :
    Docket service { state with aggregate := tables } :=
  docket.carried (fun _ => rfl) carries

/-- The version an amendment closes does not wait. -/
theorem Sound.current_settled (sound : Sound service state) {scope : Scope} {covenant : Covenant}
    {current : CovenantVersion}
    (seen : state.aggregate.covenant scope covenant.id = some covenant)
    (amendable : service.currentVersion covenant
      (state.aggregate.forCovenant scope covenant.id) = .ok current) :
    current.status.isAwaiting = false := by
  obtain ⟨init, history⟩ := sound.current_eq_last seen amendable
  exact history.approved_ne_awaiting (by simp)

/-- The one live version is found among those of the covenant. -/
theorem only_live {scope : Scope} {covenantId : Uuid} {current : CovenantVersion}
    (only : (tables.forCovenant scope covenantId).filter (fun item => item.status = .live) =
      [current]) :
    current ∈ tables.versionsOf covenantId ∧ current.status = .live := by
  have member : current ∈ (tables.forCovenant scope covenantId).filter
      (fun item => item.status = .live) := by
    rw [only]
    exact List.mem_singleton_self current
  rw [List.mem_filter, decide_eq_true_eq, mem_forCovenant_iff] at member
  exact ⟨member.1.2, member.2⟩

theorem docket_effect (effect : Effect service allowed state state') (sound : Sound service state) :
    Docket service state' := by
  have docket := sound.docket
  cases effect with
  | unchanged tables requests =>
    exact docket.carried requests (by rw [tables]; exact .refl _)
  | retirementAsked tables asked operation => exact docket.retirementAsked asked operation tables
  | dismissed tables settled refused =>
    exact docket.settled settled (.inr refused) (by rw [tables]; exact .refl _)
  | @registered covenant version between added _ appended _ owner first requests =>
    obtain ⟨_, versions, _⟩ := Tables.addCovenant_eq_ok added
    have appended' : Appended state.aggregate state'.aggregate version :=
      { fresh := by
          rw [← versions]
          exact appended.fresh
        find := by
          rw [← versions]
          exact appended.find
        listed := by
          intro covenantId
          rw [appended.listed]
          unfold Tables.versionsOf
          rw [versions] }
    rcases requests with ⟨waits, _, request, asked, operation, payload⟩ | ⟨live, requests⟩
    · refine docket.versionAsked appended' asked (.inl operation) ?_ (by rw [payload, owner]) waits
      simp [operation, first]
    · exact docket.carried requests (appended'.carries (by rw [live]; rfl))
  | @proposed scope covenant current version request configured seen amendable appended _ owner
      number awaiting asked operation payload =>
    refine docket.versionAsked appended asked (.inr operation) ?_ (by rw [payload, owner]) awaiting
    obtain ⟨init, history⟩ := sound.current_eq_last seen amendable
    have positive : 1 ≤ current.versionNo := history.positive current (by rw [history.split]; simp)
    constructor
    · intro named
      rw [operation] at named
      exact absurd named (by decide)
    · intro first
      omega
  | amended _ seen amendable closed appended _ _ _ _ live requests =>
    have carries := (closed.carries (sound.current_settled seen amendable) rfl).trans
      (appended.carries (by rw [live]; rfl))
    exact docket.carried requests carries
  | @amendmentApproved scope covenant current version between request request' _ only closed
      activated _ _ _ _ _ settled approved operation payload =>
    have carries := closed.carries (by rw [(only_live only).2]; rfl) rfl
    have settled' : Settled service { state with aggregate := between } state' request request' :=
      ⟨settled.found, settled.pending, settled.operation, settled.payload, settled.settled,
        settled.stored⟩
    refine (docket.between carries).activated settled' approved ?_ (by rw [payload]) activated
    rw [docket.operation_eq settled.found operation]
    exact amendment_ne_retirement
  | registrationApproved activated _ _ settled approved operation payload =>
    refine docket.activated settled approved ?_ (by rw [payload]) activated
    rw [docket.operation_eq settled.found operation]
    exact registration_ne_retirement
  | retired _ _ _ live updated _ requests =>
    have carries := updated.carries (by rw [live]; rfl) rfl
    rcases requests with requests | ⟨request, request', settled, _, operation⟩
    · exact docket.carried requests carries
    · exact docket.settled settled (.inl (docket.operation_eq settled.found operation)) carries

/-! ## The rest of the invariant, after a change -/

/-- The covenants that are there stay, whatever their activity. -/
theorem owned_effect (effect : Effect service allowed state state') (sound : Sound service state)
    {id : Uuid} {version : CovenantVersion}
    (found : state'.aggregate.versions.find id = some version) :
    ∃ covenant, state'.aggregate.covenants.find version.covenantId = some covenant := by
  cases effect with
  | unchanged tables => rw [tables] at found ⊢; exact sound.owned found
  | retirementAsked tables => rw [tables] at found ⊢; exact sound.owned found
  | dismissed tables => rw [tables] at found ⊢; exact sound.owned found
  | @registered covenant row between added _ appended covenants owner _ _ =>
    obtain ⟨_, versions, stored, _⟩ := Tables.addCovenant_eq_ok added
    rw [covenants, stored]
    rw [appended.find] at found
    split_ifs at found with same
    · cases found
      exact ⟨covenant, by rw [if_pos owner]⟩
    · rw [versions] at found
      obtain ⟨known, found'⟩ := sound.owned found
      by_cases here : version.covenantId = covenant.id
      · exact ⟨covenant, if_pos here⟩
      · exact ⟨known, by rw [if_neg here, found']⟩
  | @proposed scope covenant _ row _ _ seen _ appended covenants owner =>
    rw [covenants]
    rw [appended.find] at found
    split_ifs at found with same
    · cases found
      exact ⟨covenant, by rw [owner]; exact (Tables.covenant_eq_some_iff.mp seen).1⟩
    · exact sound.owned found
  | @amended scope covenant current row between _ seen _ closed appended covenants owner =>
    rw [covenants]
    rw [appended.find, closed.find] at found
    split_ifs at found with same same'
    · cases found
      exact ⟨covenant, by rw [owner]; exact (Tables.covenant_eq_some_iff.mp seen).1⟩
    · cases found
      have owned := sound.owned closed.found
      exact owned
    · exact sound.owned found
  | @amendmentApproved scope covenant current row between _ _ seen _ closed activated covenants
      owner =>
    rw [covenants]
    rw [activated.find, closed.find] at found
    split_ifs at found with same same'
    · cases found
      exact ⟨covenant, by
        rw [CovenantVersion.activated, owner]
        exact (Tables.covenant_eq_some_iff.mp seen).1⟩
    · cases found
      have owned := sound.owned closed.found
      exact owned
    · exact sound.owned found
  | registrationApproved activated covenants =>
    rw [covenants]
    rw [activated.find] at found
    split_ifs at found with same
    · cases found
      have owned := sound.owned activated.found
      exact owned
    · exact sound.owned found
  | @retired covenant row stored _ _ _ updated covenants _ =>
    have known : ∃ known, state.aggregate.covenants.find version.covenantId = some known := by
      rw [updated.find] at found
      split_ifs at found with same
      · cases found
        have owned := sound.owned updated.found
        exact owned
      · exact sound.owned found
    obtain ⟨known, stored'⟩ := known
    rw [covenants]
    by_cases here : version.covenantId = covenant.id
    · exact ⟨_, if_pos here⟩
    · exact ⟨known, by rw [if_neg here, stored']⟩

/-- Only under the workflow does a version start to wait. -/
theorem noneNewlyWaits_effect (effect : Effect service allowed state state') (sound : Sound service state)
    (absent : service.workflow = none) :
    NoneNewlyWaits state.aggregate state'.aggregate := by
  have same : ∀ {tables}, tables = state.aggregate → NoneNewlyWaits state.aggregate tables := by
    intro tables same
    rw [same]
    exact (Carries.refl _).noneNew
  cases effect with
  | unchanged tables => exact same tables
  | retirementAsked tables => exact same tables
  | dismissed tables => exact same tables
  | registered added _ appended _ _ _ requests =>
    rcases requests with ⟨_, configured, _⟩ | ⟨live, _⟩
    · rw [absent] at configured
      cases configured
    · obtain ⟨_, versions, _⟩ := Tables.addCovenant_eq_ok added
      have carries := appended.carries (by rw [live]; rfl)
      intro id version found waits
      rw [← versions]
      exact carries.noneNew _ _ found waits
  | proposed configured =>
    rw [absent] at configured
    cases configured
  | amended _ seen amendable closed appended _ _ _ _ live =>
    exact ((closed.carries (sound.current_settled seen amendable) rfl).trans
      (appended.carries (by rw [live]; rfl))).noneNew
  | amendmentApproved _ only closed activated =>
    have carries := closed.carries (by rw [(only_live only).2]; rfl) rfl
    intro id version found waits
    obtain ⟨version', found', waits'⟩ := activated.noneNewlyWaits rfl _ _ found waits
    exact carries.noneNew _ _ found' waits'
  | registrationApproved activated => exact activated.noneNewlyWaits rfl
  | retired _ _ _ live updated => exact (updated.carries (by rw [live]; rfl) rfl).noneNew

/-! ## Runs -/

theorem sound_effect (effect : Effect service allowed state state') (sound : Sound service state) :
    Sound service state' where
  histories := histories_effect effect sound
  owned := owned_effect effect sound
  direct := by
    intro absent id version found
    by_contra waits
    rw [Bool.not_eq_false] at waits
    obtain ⟨version', found', waits'⟩ := noneNewlyWaits_effect effect sound absent _ _ found waits
    rw [sound.direct absent found'] at waits'
    cases waits'
  docket := docket_effect effect sound

theorem sound_effects (effects : Effects service allowed state state') (sound : Sound service state) :
    Sound service state' := by
  induction effects with
  | refl => exact sound
  | tail _ effect ih => exact sound_effect effect ih

/-- The invariant, in an empty registry. -/
theorem sound_empty (versions : state.aggregate.versions.rows = [])
    (requests : ∀ id, service.repository.getForUpdate state.rows id = none) :
    Sound service state := by
  have unknown : ∀ id, state.aggregate.versions.find id = none := by
    intro id
    unfold KeyedTable.find
    rw [versions]
    rfl
  refine ⟨?_, ?_, ?_, ⟨?_, ?_, ?_, ?_⟩⟩
  · intro covenantId
    refine ⟨[], [], ?_⟩
    have listed : state.aggregate.versionsOf covenantId = [] := by
      unfold Tables.versionsOf
      rw [versions]
      rfl
    rw [listed]
    exact History.nil
  all_goals simp [unknown, requests]

/-- Every reachable state keeps the invariant. -/
theorem Reachable.sound (reachable : Reachable service state) : Sound service state := by
  induction reachable with
  | empty _ versions requests => exact sound_empty versions requests
  | call call _ returned ih =>
    rcases call.effect (call.amends_any _) returned with effect | ⟨effects, _⟩
    · exact sound_effect effect ih
    · exact sound_effects effects ih

/-- A sequence of calls, of which those that raise change nothing. -/
def runCalls (service : RegistryService ρ) (state : RegistryState ρ) (calls : List Call) :
    RegistryState ρ :=
  calls.foldl (fun state call =>
    match call.step service state with
    | .ok next => next
    | .error _ => state) state

theorem Reachable.runCalls (reachable : Reachable service state) (calls : List Call) :
    Reachable service (Registry.runCalls service state calls) := by
  induction calls generalizing state with
  | nil => exact reachable
  | cons call rest ih =>
    unfold Registry.runCalls at ih ⊢
    rw [List.foldl_cons]
    cases returned : call.step service state with
    | error error => exact ih reachable
    | ok next => exact ih (reachable.call call returned)

/-! ## The approved versions of a covenant -/

/-- An approved version is numbered below a later one, starts before it, and is no longer in force
    when the later one is. -/
theorem History.ordered {versions approved awaiting : List CovenantVersion}
    (history : History versions approved awaiting) :
    approved.Pairwise fun version later => version.versionNo < later.versionNo ∧
      version.effectiveFrom < later.effectiveFrom ∧
      ∀ date, version.InForce date → ¬ later.InForce date := by
  have numbered := history.numbered
  rw [history.split, List.pairwise_append] at numbered
  have tiled := history.timeline.tiled
  refine (numbered.1.and (tiled.pairwise.and tiled.not_covers_of_covers)).imp ?_
  intro version later ordered
  exact ⟨ordered.1, ordered.2.1.1, ordered.2.2⟩

/-- In every reachable state, two versions of a covenant that do not wait for an approval are never
    in force on one date, are not both live, and are numbered as they start. -/
theorem run_versions (reachable : Reachable service state) (covenantId : Uuid) :
    ∀ version ∈ state.aggregate.versionsOf covenantId,
    ∀ other ∈ state.aggregate.versionsOf covenantId,
      version.status.isAwaiting = false → other.status.isAwaiting = false →
      (version ≠ other → ∀ date, version.InForce date → ¬ other.InForce date) ∧
        (version.status = .live → other.status = .live → version = other) ∧
        (version.versionNo < other.versionNo ↔ version.effectiveFrom < other.effectiveFrom) := by
  intro version listed other listed' settled settled'
  obtain ⟨approved, awaiting, history⟩ := reachable.sound.histories covenantId
  have member := history.mem_approved_iff.mpr ⟨listed, settled⟩
  have member' := history.mem_approved_iff.mpr ⟨listed', settled'⟩
  refine ⟨?_, ?_, ?_⟩
  · intro differ date here there
    rcases pairwise_trichotomy history.ordered member member' with same | earlier | later
    · exact differ same
    · exact earlier.2.2 date here there
    · exact later.2.2 date there here
  · intro live live'
    obtain ⟨init, same⟩ := history.timeline.eq_last member (by rw [live]; simp)
    obtain ⟨init', same'⟩ := history.timeline.eq_last member' (by rw [live']; simp)
    rw [same] at same'
    have last := congrArg List.getLast? same'
    rwa [List.getLast?_concat, List.getLast?_concat, Option.some.injEq] at last
  · rcases pairwise_trichotomy history.ordered member member' with rfl | earlier | later
    · exact iff_of_false (lt_irrefl _) (lt_irrefl _)
    · exact iff_of_true earlier.1 earlier.2.1
    · exact iff_of_false later.1.not_gt later.2.1.not_gt

/-- The registry over the approval table. -/
def sampleService (makerChecker : Bool) : RegistryService (Rows Payload) where
  repository := databaseRepository Payload
  makerCheckerEnabled := makerChecker
  settings := some
    { expiryWindow := 7 * dayMicroseconds, enabledOperations := [], positive := week_pos }
  wired := fun _ => rfl

/-- Every facility is in scope, at noon of a day in January 2026. -/
def sampleContext : Context where
  now := januaryNoon false
  scopeOf := fun _ _ => true
  tests := []

/-- The terms of a quarterly covenant, from a day of 2026 and until another. -/
def sampleTerms (effectiveFrom : Date) (effectiveTo : Option Date)
    (ordered : ∀ last ∈ effectiveTo, effectiveFrom < last) : CovenantVersionTerms :=
  { frequency := "quarterly".toList, cureDays := none, effectiveFrom, effectiveTo, ordered }

/-- Terms that are open-ended. -/
def openTerms (effectiveFrom : Date) : CovenantVersionTerms :=
  sampleTerms effectiveFrom none nofun

theorem newYear_valid : 1 ≤ 2026 ∧ 2026 ≤ 9999 ∧ 1 ≤ 1 ∧ 1 ≤ 12 ∧
    1 ≤ 1 ∧ 1 ≤ daysInMonth 2026 1 := by decide

theorem marchFirst_valid : 1 ≤ 2026 ∧ 2026 ≤ 9999 ∧ 1 ≤ 3 ∧ 3 ≤ 12 ∧
    1 ≤ 1 ∧ 1 ≤ daysInMonth 2026 3 := by decide

/-- The day the sample's covenant starts. -/
def newYear : Date := ⟨2026, 1, 1, newYear_valid⟩

/-- The day its amendment starts. -/
def marchFirst : Date := ⟨2026, 3, 1, marchFirst_valid⟩

/-- The user who writes. -/
def sampleWriter : Security.Principal :=
  { id := Uuid.ofInt 1, permissions := [.registerCovenant, .viewCovenant], kind := .user }

/-- The user who approves. -/
def sampleChecker : Security.Principal :=
  { id := Uuid.ofInt 2, permissions := [.approveCovenant], kind := .user }

/-- A covenant of facility 9, with the identifier 10. -/
def sampleRegistration (terms : CovenantVersionTerms) : Call :=
  .register sampleContext sampleWriter (Uuid.ofInt 9) "COV-1".toList "Leverage".toList
    "financial".toList terms ⟨Uuid.ofInt 10, Uuid.ofInt 11, Uuid.ofInt 12⟩

/-- Its amendment. -/
def sampleAmendment (terms : CovenantVersionTerms) : Call :=
  .amend sampleContext sampleWriter "COV-1".toList terms
    ⟨Uuid.ofInt 20, Uuid.ofInt 21, Uuid.ofInt 22⟩

/-- A decision about it. -/
def sampleDecision (request : Nat) (approved : Bool) : Call :=
  .decideApproval sampleContext sampleChecker (Uuid.ofInt request) approved (some "checked".toList)

/-- Nothing registered, nothing asked. -/
def emptyRegistry : RegistryState (Rows Payload) :=
  ⟨KeyedTable.empty, ⟨KeyedTable.empty, KeyedTable.empty⟩, [], [], []⟩

theorem emptyRegistry_reachable (makerChecker : Bool) :
    Reachable (sampleService makerChecker) emptyRegistry :=
  .empty rfl rfl fun _ => rfl

/-- A covenant in force from January, amended from March. -/
def amendedRegistry : RegistryState (Rows Payload) :=
  runCalls (sampleService true) emptyRegistry
    [sampleRegistration (openTerms newYear),
      sampleDecision 12 true,
      sampleAmendment (openTerms marchFirst),
      sampleDecision 22 true]

/-- One of its versions. -/
def sampleVersion (id : Nat) (versionNo : Nat) (effectiveFrom : Date) (effectiveTo : Option Date)
    (status : VersionStatus) : CovenantVersion :=
  { id := Uuid.ofInt id, covenantId := Uuid.ofInt 10, versionNo, frequency := "quarterly".toList,
    cureDays := none, effectiveFrom, effectiveTo, status }

theorem run_versions_amended :
    amendedRegistry.aggregate.versionsOf (Uuid.ofInt 10) =
        [sampleVersion 11 1 newYear (some marchFirst) .superseded,
          sampleVersion 21 2 marchFirst none .live] ∧
      ¬ (sampleVersion 21 2 marchFirst none .live).InForce ⟨2026, 2, 1, by decide⟩ := by
  have listed : amendedRegistry.aggregate.versionsOf (Uuid.ofInt 10) =
      [sampleVersion 11 1 newYear (some marchFirst) .superseded,
        sampleVersion 21 2 marchFirst none .live] := rfl
  have reachable : Reachable (sampleService true) amendedRegistry :=
    (emptyRegistry_reachable true).runCalls _
  have versions := run_versions reachable (Uuid.ofInt 10)
  rw [listed] at versions
  refine ⟨listed, (versions _ List.mem_cons_self _ ?_ rfl rfl).1 ?_ _ ?_⟩
  · simp
  · simp [sampleVersion]
  · decide

end Registry

end CovenantRadar
