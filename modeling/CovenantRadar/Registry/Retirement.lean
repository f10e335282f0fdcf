import CovenantRadar.Registry.Amendments

/-!
# Retired covenants

A retired covenant has no live version, and nothing changes its rows any more, as long as it is not
amended without the approval workflow: that path does not look for a live version.
-/

namespace CovenantRadar

namespace Registry

open Approvals

variable {ρ : Type} {service : RegistryService ρ} {state state' : RegistryState ρ}
  {tables tables' : Tables}

/-! ## The versions of a retired covenant -/

/-- The last approved version of the covenant is retired. -/
def LastRetired (tables : Tables) (covenantId : Uuid) : Prop :=
  ∃ init last awaiting, History (tables.versionsOf covenantId) (init ++ [last]) awaiting ∧
    last.status = .retired

theorem LastRetired.not_live {covenantId : Uuid} (retired : LastRetired tables covenantId)
    {version : CovenantVersion} (listed : version ∈ tables.versionsOf covenantId) :
    version.status ≠ .live := by
  intro live
  obtain ⟨init, last, awaiting, history, status⟩ := retired
  have member := history.mem_approved_iff.mpr ⟨listed, by rw [live]; rfl⟩
  obtain ⟨init', same⟩ := history.timeline.eq_last member (by rw [live]; simp)
  have final := congrArg List.getLast? same
  rw [List.getLast?_concat, List.getLast?_concat, Option.some.injEq] at final
  rw [← final, status] at live
  cases live

/-- A version that waits is not the first one. -/
theorem LastRetired.not_first {covenantId : Uuid} (retired : LastRetired tables covenantId)
    {version : CovenantVersion} (listed : version ∈ tables.versionsOf covenantId)
    (waits : version.status.isAwaiting = true) : version.versionNo ≠ 1 := by
  obtain ⟨init, last, awaiting, history, _⟩ := retired
  obtain rfl := history.awaiting_eq listed waits
  have numbered := history.numbered
  rw [history.split, List.pairwise_append] at numbered
  have below := numbered.2.2 last (by simp) version (List.mem_singleton_self version)
  have positive := history.positive last (by rw [history.split]; simp)
  omega

/-- Where a version can be amended under the workflow, the last one is not retired. -/
theorem LastRetired.not_amendable {covenant : Covenant} {scope : Scope} {current : CovenantVersion}
    (retired : LastRetired tables covenant.id) (configured : service.workflow.isSome = true)
    (amendable : service.currentVersion covenant (tables.forCovenant scope covenant.id) =
      .ok current) : False := by
  have live := List.mem_of_getLast? (currentVersion_workflow configured amendable).1
  rw [List.mem_filter, decide_eq_true_eq] at live
  exact retired.not_live (mem_forCovenant_iff.mp live.1).2 live.2

/-- Every inactive covenant was retired. -/
def Retirements (tables : Tables) : Prop :=
  ∀ id covenant, tables.covenants.find id = some covenant → covenant.isActive = false →
    LastRetired tables id

/-! ## Steps -/

/-- A covenant that may be amended: any under the workflow, which looks for a live version, and
    an active one without it. -/
def MayAmend (service : RegistryService ρ) (covenant : Covenant) : Prop :=
  service.workflow.isSome = true ∨ covenant.isActive = true

/-- The rows of a retired covenant stay as they are. -/
theorem Effect.frozen (effect : Effect service (MayAmend service) state state')
    (sound : Sound service state) {covenantId : Uuid} {covenant : Covenant}
    (found : state.aggregate.covenants.find covenantId = some covenant)
    (inactive : covenant.isActive = false) (retired : LastRetired state.aggregate covenantId) :
    state'.aggregate.versionsOf covenantId = state.aggregate.versionsOf covenantId ∧
      state'.aggregate.covenants.find covenantId = some covenant := by
  cases effect with
  | unchanged tables => rw [tables]; exact ⟨rfl, found⟩
  | retirementAsked tables => rw [tables]; exact ⟨rfl, found⟩
  | dismissed tables => rw [tables]; exact ⟨rfl, found⟩
  | @registered other version between added _ appended covenants owner =>
    obtain ⟨fresh, versions, stored, _⟩ := Tables.addCovenant_eq_ok added
    have apart : covenantId ≠ other.id := by
      intro same
      rw [same, fresh] at found
      cases found
    refine ⟨?_, by rw [covenants, stored, if_neg apart, found]⟩
    rw [appended.listed_other (by rw [owner]; exact Ne.symm apart)]
    unfold Tables.versionsOf
    rw [versions]
  | @proposed scope other current version request configured _ amendable appended covenants owner =>
    have apart : other.id ≠ covenantId := by
      intro same
      rw [← same] at retired
      exact retired.not_amendable configured amendable
    refine ⟨appended.listed_other (by rw [owner]; exact apart), by rw [covenants, found]⟩
  | @amended scope other current version between permitted seen amendable closed appended covenants
      owner =>
    have apart : other.id ≠ covenantId := by
      intro same
      rw [← same] at retired found
      rcases permitted with configured | active
      · exact retired.not_amendable configured amendable
      · rw [(Tables.covenant_eq_some_iff.mp seen).1] at found
        cases found
        rw [active] at inactive
        cases inactive
    have listed := (mem_forCovenant_iff.mp (currentVersion_mem amendable)).2
    have owner' := (Tables.mem_versionsOf_iff.mp listed).2
    refine ⟨?_, by rw [covenants, found]⟩
    rw [appended.listed_other (by rw [owner]; exact apart),
      closed.listed_other (by rw [owner']; exact apart)]
  | @amendmentApproved scope other current version between _ _ _ only closed activated covenants
      owner =>
    obtain ⟨listed, live⟩ := only_live only
    have apart : other.id ≠ covenantId := by
      intro same
      rw [← same] at retired
      exact retired.not_live listed live
    have owner' := (Tables.mem_versionsOf_iff.mp listed).2
    refine ⟨?_, by rw [covenants, found]⟩
    rw [activated.listed_other (by rw [owner]; exact apart),
      closed.listed_other (by rw [owner']; exact apart)]
  | @registrationApproved version request request' activated covenants awaiting settled _ operation
      payload =>
    have apart : version.covenantId ≠ covenantId := by
      intro same
      have listed := Tables.mem_versionsOf_iff.mpr ⟨activated.found, same⟩
      exact retired.not_first listed awaiting
        (sound.registered_first settled.found operation payload activated.found)
    exact ⟨activated.listed_other apart, by rw [covenants, found]⟩
  | @retired other version stored active owner live updated covenants _ =>
    have apart : other.id ≠ covenantId := by
      intro same
      rw [same, found] at stored
      cases stored
      rw [active] at inactive
      cases inactive
    refine ⟨updated.listed_other (by rw [owner]; exact apart), ?_⟩
    rw [covenants, if_neg (Ne.symm apart), found]

/-- A covenant becomes inactive by its retirement only. -/
theorem Effect.retirements (effect : Effect service (MayAmend service) state state')
    (sound : Sound service state) (retirements : Retirements state.aggregate) :
    Retirements state'.aggregate := by
  intro id covenant found inactive
  -- a covenant that was inactive before keeps its versions
  have before : state.aggregate.covenants.find id = some covenant →
      LastRetired state'.aggregate id := by
    intro known
    have retired := retirements id covenant known inactive
    have frozen := (effect.frozen sound known inactive retired).1
    obtain ⟨init, last, awaiting, history, status⟩ := retired
    exact ⟨init, last, awaiting, by rw [frozen]; exact history, status⟩
  cases effect with
  | unchanged tables => exact before (by rw [← tables, found])
  | retirementAsked tables => exact before (by rw [← tables, found])
  | dismissed tables => exact before (by rw [← tables, found])
  | registered added active _ covenants =>
    obtain ⟨_, _, stored, _⟩ := Tables.addCovenant_eq_ok added
    rw [covenants, stored] at found
    split_ifs at found with same
    · cases found
      rw [active] at inactive
      cases inactive
    · exact before found
  | proposed _ _ _ _ covenants => exact before (by rw [← covenants, found])
  | amended _ _ _ _ _ covenants => exact before (by rw [← covenants, found])
  | amendmentApproved _ _ _ _ covenants => exact before (by rw [← covenants, found])
  | registrationApproved _ covenants => exact before (by rw [← covenants, found])
  | @retired other version stored active owner live updated covenants _ =>
    rw [covenants] at found
    split_ifs at found with same
    · subst same
      obtain ⟨approved, awaiting, history⟩ := sound.histories other.id
      have listed := Tables.mem_versionsOf_iff.mpr ⟨updated.found, owner⟩
      have member : version ∈ approved :=
        history.mem_approved_iff.mpr ⟨listed, by rw [live]; rfl⟩
      obtain ⟨init, rfl⟩ := history.timeline.eq_last member (by rw [live]; simp)
      have split := history.split
      rw [List.append_assoc, List.singleton_append] at split
      refine ⟨init, version.retiredRow, awaiting, ?_, rfl⟩
      rw [updated.listed_same split]
      exact history.retire
    · exact before found

/-! ## Runs -/

/-- A successful call that amends no retired covenant around the workflow. -/
def CarefulStep (service : RegistryService ρ) (state state' : RegistryState ρ) : Prop :=
  ∃ call : Call, call.Amends state (MayAmend service) ∧ call.step service state = .ok state'

/-- Such calls one after the other. -/
abbrev CarefulRun (service : RegistryService ρ) : RegistryState ρ → RegistryState ρ → Prop :=
  Relation.ReflTransGen (CarefulStep service)

/-- Nothing is registered and nothing was asked. -/
structure Vacant (service : RegistryService ρ) (state : RegistryState ρ) : Prop where
  covenants : state.aggregate.covenants.rows = []
  versions : state.aggregate.versions.rows = []
  requests : ∀ id, service.repository.getForUpdate state.rows id = none

theorem CarefulStep.sound (step : CarefulStep service state state') (sound : Sound service state) :
    Sound service state' := by
  obtain ⟨call, amends, returned⟩ := step
  rcases call.effect amends returned with effect | ⟨effects, _⟩
  · exact sound_effect effect sound
  · exact sound_effects effects sound

theorem CarefulStep.retirements (step : CarefulStep service state state')
    (sound : Sound service state) (retirements : Retirements state.aggregate) :
    Retirements state'.aggregate := by
  obtain ⟨call, amends, returned⟩ := step
  rcases call.effect amends returned with effect | ⟨_, same⟩
  · exact effect.retirements sound retirements
  · rw [same]
    exact retirements

theorem CarefulStep.frozen (step : CarefulStep service state state') (sound : Sound service state)
    {covenantId : Uuid} {covenant : Covenant}
    (found : state.aggregate.covenants.find covenantId = some covenant)
    (inactive : covenant.isActive = false) (retired : LastRetired state.aggregate covenantId) :
    state'.aggregate.versionsOf covenantId = state.aggregate.versionsOf covenantId ∧
      state'.aggregate.covenants.find covenantId = some covenant := by
  obtain ⟨call, amends, returned⟩ := step
  rcases call.effect amends returned with effect | ⟨_, same⟩
  · exact effect.frozen sound found inactive retired
  · rw [same]
    exact ⟨rfl, found⟩

theorem CarefulRun.invariant {start : RegistryState ρ} (vacant : Vacant service start)
    (run : CarefulRun service start state) :
    Sound service state ∧ Retirements state.aggregate := by
  induction run with
  | refl =>
    refine ⟨sound_empty vacant.versions vacant.requests, ?_⟩
    intro id covenant found
    have listed := (KeyedTable.find_eq_some_iff.mp found).1
    rw [vacant.covenants] at listed
    cases listed
  | tail _ step ih => exact ⟨step.sound ih.1, step.retirements ih.1 ih.2⟩

/-- From where a covenant is inactive, in every run that does not amend a retired covenant without
    the workflow: it has no live version, and its retired versions stay as they are. -/
theorem run_retired {start : RegistryState ρ} (vacant : Vacant service start)
    (before : CarefulRun service start state) (after : CarefulRun service state state')
    {covenantId : Uuid} {covenant : Covenant}
    (found : state.aggregate.covenants.find covenantId = some covenant)
    (inactive : covenant.isActive = false) :
    (∀ version ∈ state'.aggregate.versionsOf covenantId, version.status ≠ .live) ∧
      (∃ version ∈ state.aggregate.versionsOf covenantId, version.status = .retired) ∧
      ∀ version ∈ state.aggregate.versionsOf covenantId, version.status = .retired →
        state'.aggregate.versions.find version.id = some version := by
  obtain ⟨sound, retirements⟩ := before.invariant vacant
  have retired := retirements covenantId covenant found inactive
  have frozen : Sound service state' ∧
      state'.aggregate.versionsOf covenantId = state.aggregate.versionsOf covenantId ∧
      state'.aggregate.covenants.find covenantId = some covenant := by
    induction after with
    | refl => exact ⟨sound, rfl, found⟩
    | tail _ step ih =>
      obtain ⟨sound', listed, found'⟩ := ih
      obtain ⟨init, last, awaiting, history, status⟩ := retired
      obtain ⟨listed', found''⟩ := step.frozen sound' found' inactive
        ⟨init, last, awaiting, by rw [listed]; exact history, status⟩
      exact ⟨step.sound sound', listed'.trans listed, found''⟩
  obtain ⟨_, listed, _⟩ := frozen
  refine ⟨?_, ?_, ?_⟩
  · intro version member
    rw [listed] at member
    exact retired.not_live member
  · obtain ⟨init, last, awaiting, history, status⟩ := retired
    exact ⟨last, by rw [history.split]; simp, status⟩
  · intro version member _
    rw [← listed] at member
    exact (Tables.mem_versionsOf_iff.mp member).1

/-- The retirement of the sample's covenant. -/
def sampleRetirement : Call :=
  .retire sampleContext sampleWriter "COV-1".toList ⟨Uuid.ofInt 40, Uuid.ofInt 41, Uuid.ofInt 42⟩

/-- The covenant of the sample, registered without the approval workflow. -/
def registeredRegistry : RegistryState (Rows Payload) :=
  runCalls (sampleService false) emptyRegistry
    [sampleRegistration (openTerms newYear)]

/-- The same covenant, retired. -/
def retiredRegistry : RegistryState (Rows Payload) :=
  runCalls (sampleService false) registeredRegistry [sampleRetirement]

theorem run_retired_sample :
    (retiredRegistry.aggregate.covenants.find (Uuid.ofInt 10)).map (fun covenant =>
        covenant.isActive) = some false ∧
      (∀ version ∈ retiredRegistry.aggregate.versionsOf (Uuid.ofInt 10), version.status ≠ .live) := by
  have registered : CarefulStep (sampleService false) emptyRegistry registeredRegistry :=
    ⟨sampleRegistration (openTerms newYear), trivial, rfl⟩
  have retired : CarefulStep (sampleService false) registeredRegistry retiredRegistry :=
    ⟨sampleRetirement, trivial, rfl⟩
  exact ⟨rfl, (run_retired ⟨rfl, rfl, fun _ => rfl⟩ ((Relation.ReflTransGen.single registered).tail
    retired) .refl rfl rfl).1⟩

/-- Its amendment, after that. -/
def revivedRegistry : RegistryState (Rows Payload) :=
  runCalls (sampleService false) retiredRegistry
    [sampleAmendment (openTerms marchFirst)]

/-- A retired covenant that is amended without the workflow has a live version again, and its
    retired version is superseded. -/
theorem retired_covenant_revived :
    Reachable (sampleService false) retiredRegistry ∧
      (sampleAmendment (openTerms marchFirst)).step
        (sampleService false) retiredRegistry = .ok revivedRegistry ∧
      (retiredRegistry.aggregate.covenants.find (Uuid.ofInt 10)).map (fun covenant =>
        covenant.isActive) = some false ∧
      (retiredRegistry.aggregate.versionsOf (Uuid.ofInt 10)).map (fun version => version.status) =
        [.retired] ∧
      (revivedRegistry.aggregate.versionsOf (Uuid.ofInt 10)).map (fun version => version.status) =
        [.superseded, .live] :=
  ⟨((emptyRegistry_reachable false).runCalls _).runCalls _, rfl, rfl, rfl, rfl⟩

end Registry

end CovenantRadar
