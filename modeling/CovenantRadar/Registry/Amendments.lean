import CovenantRadar.Registry.Soundness

/-!
# What an amendment does to the past

An amendment closes the newest approved version where the next one starts. Before that date this
changes nothing, unless the closed version had already ended.
-/

namespace CovenantRadar

namespace Registry

open Approvals

variable {ρ : Type} {service : RegistryService ρ} {state state' : RegistryState ρ}
  {tables tables' : Tables} {allowed : Covenant → Prop}

/-- The versions whose effective range contains a date. -/
def Tables.inForce (tables : Tables) (date : Date) : Set Uuid :=
  {id | ∃ version, tables.versions.find id = some version ∧ version.InForce date}

/-- The approved version of a covenant with the highest number. -/
structure NewestApproved (tables : Tables) (covenantId : Uuid) (newest : CovenantVersion) : Prop where
  listed : newest ∈ tables.versionsOf covenantId
  settled : newest.status.isAwaiting = false
  last : ∀ version ∈ tables.versionsOf covenantId, version.status.isAwaiting = false →
    version.versionNo ≤ newest.versionNo

/-- A later version than the first one comes into force: applied directly, or approved. -/
structure Amended (tables tables' : Tables) (version : CovenantVersion) : Prop where
  stored : tables'.versions.find version.id = some version
  live : version.status = .live
  newly : tables.versions.find version.id ≠ some version
  further : version.versionNo ≠ 1

/-! ## The newest version -/

theorem History.newestApproved {approved awaiting : List CovenantVersion} {covenantId : Uuid}
    {last : CovenantVersion}
    (history : History (tables.versionsOf covenantId) (approved ++ [last]) awaiting) :
    NewestApproved tables covenantId last where
  listed := by
    rw [history.split]
    simp
  settled := history.approved_ne_awaiting (by simp)
  last := by
    intro version listed settled
    have member := history.mem_approved_iff.mpr ⟨listed, settled⟩
    rcases List.mem_append.mp member with earlier | same
    · have ordered := history.ordered
      rw [List.pairwise_append] at ordered
      exact (ordered.2.2 version earlier last (List.mem_singleton_self last)).1.le
    · rw [List.mem_singleton.mp same]

/-! ## The ranges, before and after -/

theorem Updated.mem_inForce_iff {version version' : CovenantVersion}
    (updated : Updated tables tables' version version') {date : Date} {id : Uuid} :
    id ∈ tables'.inForce date ↔
      if id = version.id then version'.InForce date else id ∈ tables.inForce date := by
  unfold Tables.inForce
  simp only [Set.mem_ofPred_eq, updated.find]
  by_cases same : id = version.id <;> simp [same]

/-- An update that keeps the end keeps what is in force. -/
theorem Updated.inForce_eq {version version' : CovenantVersion}
    (updated : Updated tables tables' version version')
    (same : version'.effectiveTo = version.effectiveTo) (date : Date) :
    tables'.inForce date = tables.inForce date := by
  ext id
  rw [updated.mem_inForce_iff]
  by_cases here : id = version.id
  · subst here
    rw [if_pos rfl]
    unfold Tables.inForce CovenantVersion.InForce
    simp [updated.found, updated.effectiveFrom, same]
  · rw [if_neg here]

/-- A version that starts later is not in force yet. -/
theorem Appended.inForce_eq {version : CovenantVersion} (appended : Appended tables tables' version)
    {date : Date} (before : date < version.effectiveFrom) :
    tables'.inForce date = tables.inForce date := by
  ext id
  unfold Tables.inForce
  simp only [Set.mem_ofPred_eq, appended.find]
  by_cases here : id = version.id
  · subst here
    rw [if_pos rfl, appended.fresh]
    have absent : ¬ version.InForce date := fun covered => absurd covered.1 (not_le.mpr before)
    simp [absent]
  · rw [if_neg here]

/-- Closing a version at a later date keeps what was in force before it exactly when the version
    had not ended yet. -/
theorem Updated.inForce_closed_iff {current : CovenantVersion} {effectiveTo : Date}
    (closed : Updated tables tables' current (current.closedAt effectiveTo))
    (later : current.effectiveFrom < effectiveTo) :
    (∀ date < effectiveTo, tables'.inForce date = tables.inForce date) ↔
      ∀ last ∈ current.effectiveTo, effectiveTo ≤ last := by
  rw [← covers_cut_iff later]
  have member : ∀ date, current.id ∈ tables.inForce date ↔ current.InForce date := by
    intro date
    unfold Tables.inForce
    simp [closed.found]
  refine forall₂_congr fun date _ => ?_
  constructor
  · intro same
    have here : current.id ∈ tables'.inForce date ↔ _ := closed.mem_inForce_iff
    rw [if_pos rfl, same, member] at here
    exact here.symm
  · intro same
    ext id
    rw [closed.mem_inForce_iff]
    by_cases here : id = current.id
    · subst here
      rw [if_pos rfl, member]
      exact same
    · rw [if_neg here]

/-! ## The amendments of a run -/

/-- What brings a later version into force: the newest approved one is closed where it starts, and
    nothing else changes before that. -/
theorem Effect.closes (effect : Effect service allowed state state') (sound : Sound service state)
    {version : CovenantVersion} (amended : Amended state.aggregate state'.aggregate version) :
    ∃ current between, NewestApproved state.aggregate version.covenantId current ∧
      current.effectiveFrom < version.effectiveFrom ∧
      Updated state.aggregate between current (current.closedAt version.effectiveFrom) ∧
      ∀ date < version.effectiveFrom,
        state'.aggregate.inForce date = between.inForce date := by
  have same : state'.aggregate ≠ state.aggregate := by
    intro same
    have stored := amended.stored
    rw [same] at stored
    exact amended.newly stored
  cases effect with
  | unchanged tables => exact absurd tables same
  | retirementAsked tables => exact absurd tables same
  | dismissed tables => exact absurd tables same
  | registered added _ appended _ _ first _ =>
    obtain ⟨_, versions, _⟩ := Tables.addCovenant_eq_ok added
    have stored := amended.stored
    rw [appended.find, versions] at stored
    split_ifs at stored with here
    · cases stored
      exact absurd first amended.further
    · exact absurd stored amended.newly
  | @proposed _ _ _ row _ _ _ _ appended _ _ _ awaiting =>
    have stored := amended.stored
    rw [appended.find] at stored
    split_ifs at stored with here
    · cases stored
      rw [amended.live] at awaiting
      cases awaiting
    · exact absurd stored amended.newly
  | @amended scope covenant current row between _ seen amendable closed appended _ owner number
      later =>
    have stored := amended.stored
    rw [appended.find, closed.find] at stored
    split_ifs at stored with here there
    · cases stored
      obtain ⟨init, history⟩ := sound.current_eq_last seen amendable
      refine ⟨current, between, ?_, later, closed, fun date before => appended.inForce_eq before⟩
      rw [owner]
      exact history.newestApproved
    · cases stored
      cases amended.live
    · exact absurd stored amended.newly
  | @amendmentApproved scope covenant current row between _ _ seen only closed activated _ owner _
      later awaiting =>
    have stored := amended.stored
    rw [activated.find, closed.find] at stored
    split_ifs at stored with here there
    · cases stored
      have found : state.aggregate.versions.find row.id = some row := by
        have found := activated.found
        rw [closed.find] at found
        split_ifs at found with equal
        · rw [Option.some.injEq] at found
          rw [← found] at awaiting
          cases awaiting
        · exact found
      obtain ⟨init, history⟩ := sound.only_eq_last seen only found owner awaiting
      refine ⟨current, between, ?_, later, closed, fun date _ => activated.inForce_eq rfl date⟩
      change NewestApproved state.aggregate row.covenantId current
      rw [owner]
      exact history.newestApproved
    · cases stored
      cases amended.live
    · exact absurd stored amended.newly
  | @registrationApproved row request _ activated _ _ settled _ operation payload =>
    have stored := amended.stored
    rw [activated.find] at stored
    split_ifs at stored with here
    · cases stored
      exact absurd (sound.registered_first settled.found operation payload activated.found)
        amended.further
    · exact absurd stored amended.newly
  | retired _ _ _ _ updated =>
    have stored := amended.stored
    rw [updated.find] at stored
    split_ifs at stored with here
    · cases stored
      cases amended.live
    · exact absurd stored amended.newly

/-- An amendment of a reachable state, applied directly or approved, closes the covenant's newest
    approved version. The versions in force before the amendment's effective date stay the same
    exactly when the closed one had no end, or one that is not before that date. -/
theorem amendment_keeps_past_iff (reachable : Reachable service state) {call : Call}
    (returned : call.step service state = .ok state') {version : CovenantVersion}
    (amended : Amended state.aggregate state'.aggregate version) :
    ∃ closed, NewestApproved state.aggregate version.covenantId closed ∧
      ((∀ date < version.effectiveFrom,
          state'.aggregate.inForce date = state.aggregate.inForce date) ↔
        ∀ last ∈ closed.effectiveTo, version.effectiveFrom ≤ last) := by
  rcases call.effect (call.amends_any state) returned with effect | ⟨_, same⟩
  · obtain ⟨closed, between, newest, later, updated, kept⟩ :=
      effect.closes reachable.sound amended
    refine ⟨closed, newest, ?_⟩
    rw [← updated.inForce_closed_iff later]
    exact forall₂_congr fun date before => by rw [kept date before]
  · have stored := amended.stored
    rw [same] at stored
    exact absurd stored amended.newly

/-- The covenant of the sample, in force from January, with an amendment from March that waits. -/
def pendingRegistry : RegistryState (Rows Payload) :=
  runCalls (sampleService true) emptyRegistry
    [sampleRegistration (openTerms newYear),
      sampleDecision 12 true,
      sampleAmendment (openTerms marchFirst)]

theorem amendment_keeps_past_approved :
    Amended pendingRegistry.aggregate amendedRegistry.aggregate
        (sampleVersion 21 2 marchFirst none .live) ∧
      amendedRegistry.aggregate.inForce ⟨2026, 2, 15, by decide⟩ =
        pendingRegistry.aggregate.inForce ⟨2026, 2, 15, by decide⟩ := by
  have reachable : Reachable (sampleService true) pendingRegistry :=
    (emptyRegistry_reachable true).runCalls _
  have returned : (sampleDecision 22 true).step (sampleService true) pendingRegistry =
      .ok amendedRegistry := rfl
  have amended : Amended pendingRegistry.aggregate amendedRegistry.aggregate
      (sampleVersion 21 2 marchFirst none .live) := by
    refine ⟨rfl, rfl, ?_, by decide⟩
    intro same
    have status := congrArg (Option.map CovenantVersion.status) same
    revert status
    decide
  obtain ⟨closed, newest, kept⟩ := amendment_keeps_past_iff reachable returned amended
  refine ⟨amended, kept.mpr ?_ _ (by decide)⟩
  -- the only approved version is the open-ended first one
  have listed := newest.listed
  have versions : pendingRegistry.aggregate.versionsOf (Uuid.ofInt 10) =
      [sampleVersion 11 1 newYear none .live,
        sampleVersion 21 2 marchFirst none .pendingApproval] := rfl
  change closed ∈ pendingRegistry.aggregate.versionsOf (Uuid.ofInt 10) at listed
  rw [versions] at listed
  simp only [List.mem_cons, List.not_mem_nil, or_false] at listed
  rcases listed with rfl | rfl
  · simp [sampleVersion]
  · cases newest.settled

/-- The covenant of the sample, in force in January only, without the approval workflow. -/
def lapsedRegistry : RegistryState (Rows Payload) :=
  runCalls (sampleService false) emptyRegistry
    [sampleRegistration (sampleTerms newYear (some ⟨2026, 2, 1, by decide⟩)
      (by decide))]

/-- Its amendment from March. -/
def reopenedRegistry : RegistryState (Rows Payload) :=
  runCalls (sampleService false) lapsedRegistry
    [sampleAmendment (openTerms marchFirst)]

/-- The version that ended with January is in force in February once it is amended from March. -/
theorem amendment_rewrites_past :
    Reachable (sampleService false) lapsedRegistry ∧
      (sampleAmendment (openTerms marchFirst)).step
        (sampleService false) lapsedRegistry = .ok reopenedRegistry ∧
      Amended lapsedRegistry.aggregate reopenedRegistry.aggregate
        (sampleVersion 21 2 marchFirst none .live) ∧
      Uuid.ofInt 11 ∉ lapsedRegistry.aggregate.inForce ⟨2026, 2, 15, by decide⟩ ∧
      Uuid.ofInt 11 ∈ reopenedRegistry.aggregate.inForce ⟨2026, 2, 15, by decide⟩ := by
  refine ⟨(emptyRegistry_reachable false).runCalls _, rfl, ⟨rfl, rfl, nofun, by decide⟩, ?_,
    ⟨sampleVersion 11 1 newYear (some marchFirst) .superseded, rfl,
      by decide⟩⟩
  have stored : lapsedRegistry.aggregate.versions.find (Uuid.ofInt 11) =
      some (sampleVersion 11 1 newYear (some ⟨2026, 2, 1, by decide⟩) .live) := rfl
  rintro ⟨version, found, covered⟩
  rw [stored] at found
  cases found
  revert covered
  decide

end Registry

end CovenantRadar
