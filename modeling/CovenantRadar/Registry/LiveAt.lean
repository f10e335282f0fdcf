import CovenantRadar.Registry.Amendments

/-!
# The versions in force on a date

Source `RegistryService.live_at`. It finds the versions whose range contains the date and keeps
those that are live now, which is what was in force only in the time of the newest version.
-/

namespace CovenantRadar

namespace Registry

open Approvals Security

variable {ρ : Type} {service : RegistryService ρ} {state : RegistryState ρ} {tables : Tables}

/-- An approved version of a covenant of the facility. -/
structure ApprovedIn (tables : Tables) (facilityId : Uuid) (version : CovenantVersion) : Prop where
  stored : tables.versions.find version.id = some version
  settled : version.status.isAwaiting = false
  facility : ∃ covenant, tables.covenants.find version.covenantId = some covenant ∧
    covenant.facilityId = facilityId

theorem mem_effectiveAt_iff {scope : Scope} {facilityId : Uuid} {date : Date}
    {version : CovenantVersion} (visible : scope facilityId = true) :
    version ∈ tables.effectiveAt scope facilityId date ↔
      tables.versions.find version.id = some version ∧ version.InForce date ∧
        ∃ covenant, tables.covenants.find version.covenantId = some covenant ∧
          covenant.facilityId = facilityId := by
  unfold Tables.effectiveAt
  rw [List.mem_insertionSort, List.mem_filter, Bool.and_eq_true, decide_eq_true_eq,
    KeyedTable.find_eq_some_iff, Option.any_eq_true]
  constructor
  · intro listed
    obtain ⟨row, covered, covenant, seen, facility⟩ := listed
    exact ⟨⟨row, rfl⟩, covered, covenant, (Tables.covenant_eq_some_iff.mp seen).1,
      of_decide_eq_true facility⟩
  · intro listed
    obtain ⟨⟨row, _⟩, covered, covenant, found, facility⟩ := listed
    refine ⟨row, covered, covenant, ?_, decide_eq_true facility⟩
    exact Tables.covenant_eq_some_iff.mpr ⟨found, by rw [facility]; exact visible⟩

theorem mem_liveAt_iff {context : Context} {principal : Principal} {facilityId : Uuid} {date : Date}
    {versions : List CovenantVersion}
    (visible : context.scopeOf principal.id facilityId = true)
    (returned : RegistryService.liveAt context principal facilityId date state = .ok versions)
    {version : CovenantVersion} :
    version ∈ versions ↔ ApprovedIn state.aggregate facilityId version ∧ version.InForce date ∧
      version.status = .live := by
  unfold RegistryService.liveAt at returned
  cases allowed : authorize principal .viewCovenant with
  | error error =>
    rw [allowed] at returned
    cases returned
  | ok _ =>
    rw [allowed] at returned
    cases returned
    rw [List.mem_filter, mem_effectiveAt_iff visible, decide_eq_true_eq]
    constructor
    · intro listed
      obtain ⟨⟨stored, covered, facility⟩, live⟩ := listed
      exact ⟨⟨stored, by rw [live]; rfl, facility⟩, covered, live⟩
    · intro listed
      obtain ⟨approved, covered, live⟩ := listed
      exact ⟨⟨approved.stored, covered, approved.facility⟩, live⟩

/-- The newest approved version ends the list of the approved ones. -/
theorem NewestApproved.history {covenantId : Uuid} {newest : CovenantVersion}
    (last : NewestApproved tables covenantId newest) {approved awaiting : List CovenantVersion}
    (history : History (tables.versionsOf covenantId) approved awaiting) :
    ∃ init, approved = init ++ [newest] := by
  have member := history.mem_approved_iff.mpr ⟨last.listed, last.settled⟩
  cases approved using List.reverseRecOn with
  | nil => cases member
  | append_singleton init final =>
    have final' : final ∈ init ++ [final] := by simp
    obtain ⟨listed, settled⟩ := history.mem_approved_iff.mp final'
    rcases List.mem_append.mp member with earlier | same
    · have ordered := history.ordered
      rw [List.pairwise_append] at ordered
      have below := (ordered.2.2 newest earlier final (List.mem_singleton_self final)).1
      exact absurd (last.last final listed settled) (not_le.mpr below)
    · exact ⟨init, by rw [List.mem_singleton.mp same]⟩

/-- On a date, the approved versions of a covenant that are in force are live: exactly before its
    first version, and in the time of its newest one while that one is live or after it ended. -/
theorem History.live_of_inForce_iff {versions init awaiting : List CovenantVersion}
    {newest : CovenantVersion} (history : History versions (init ++ [newest]) awaiting)
    (date : Date) :
    (∀ version ∈ init ++ [newest], version.InForce date → version.status = .live) ↔
      (∀ version ∈ init ++ [newest], date < version.effectiveFrom) ∨
        newest.effectiveFrom ≤ date ∧
          (newest.status = .live ∨ ∃ last ∈ newest.effectiveTo, last ≤ date) := by
  have tiled := history.timeline.tiled
  obtain ⟨first, head⟩ : ∃ first, (init ++ [newest]).head? = some first := by
    cases init with
    | nil => exact ⟨newest, rfl⟩
    | cons first rest => exact ⟨first, rfl⟩
  have listed : newest ∈ init ++ [newest] := by simp
  have superseded : ∀ version ∈ init, version.status = .superseded := by
    have superseded := history.timeline.superseded
    rwa [List.dropLast_concat] at superseded
  constructor
  · intro live
    by_cases early : date < first.effectiveFrom
    · left
      intro version member
      cases init with
      | nil =>
        cases head
        rw [List.mem_singleton.mp member]
        exact early
      | cons entry rest =>
        cases head
        rcases List.mem_cons.mp member with rfl | further
        · exact early
        · have ordered := history.ordered
          rw [List.cons_append, List.pairwise_cons] at ordered
          exact early.trans (ordered.1 version further).2.1
    · right
      by_cases before : date < newest.effectiveFrom
      · -- an earlier version was in force, and is superseded now
        obtain ⟨entry, member, covered⟩ := tiled.exists_covers head (not_lt.mp early) before
        have still := live entry (List.mem_append_left _ member) covered
        rw [superseded entry member] at still
        cases still
      · refine ⟨not_lt.mp before, ?_⟩
        by_cases covered : newest.InForce date
        · exact .inl (live newest listed covered)
        · right
          by_contra open'
          apply covered
          refine ⟨not_lt.mp before, fun last ended => ?_⟩
          by_contra passed
          exact open' ⟨last, ended, not_lt.mp passed⟩
  · intro condition version member covered
    rcases condition with early | ⟨started, settled⟩
    · exact absurd covered.1 (not_le.mpr (early version member))
    · rcases List.mem_append.mp member with earlier | same
      · have within := tiled.bounds_of_covers head earlier covered
        exact absurd started (not_le.mpr within.2)
      · rw [List.mem_singleton] at same
        subst same
        rcases settled with live | ⟨last, ended, passed⟩
        · exact live
        · exact absurd (covered.2 last ended) (not_lt.mpr passed)

/-- In a reachable state, the versions found for a date are the approved ones in force on it
    exactly when, for every covenant of the facility, the date lies before its first version, or
    in the time of its newest approved one with that one live or already ended. -/
theorem liveAt_iff (reachable : Reachable service state) {context : Context}
    {principal : Principal} {facilityId : Uuid} {date : Date} {versions : List CovenantVersion}
    (visible : context.scopeOf principal.id facilityId = true)
    (returned : RegistryService.liveAt context principal facilityId date state = .ok versions) :
    (∀ version, version ∈ versions ↔
        ApprovedIn state.aggregate facilityId version ∧ version.InForce date) ↔
      ∀ covenant newest, state.aggregate.covenants.find covenant.id = some covenant →
        covenant.facilityId = facilityId → NewestApproved state.aggregate covenant.id newest →
        (∀ version ∈ state.aggregate.versionsOf covenant.id, version.status.isAwaiting = false →
            date < version.effectiveFrom) ∨
          newest.effectiveFrom ≤ date ∧
            (newest.status = .live ∨ ∃ last ∈ newest.effectiveTo, last ≤ date) := by
  have only : (∀ version, version ∈ versions ↔
      ApprovedIn state.aggregate facilityId version ∧ version.InForce date) ↔
      ∀ version, ApprovedIn state.aggregate facilityId version → version.InForce date →
        version.status = .live := by
    refine forall_congr' fun version => ?_
    rw [mem_liveAt_iff visible returned]
    constructor
    · intro same approved covered
      exact (same.mpr ⟨approved, covered⟩).2.2
    · intro live
      refine ⟨fun found => ⟨found.1, found.2.1⟩, fun found => ⟨found.1, found.2, ?_⟩⟩
      exact live found.1 found.2
  rw [only]
  constructor
  · intro live covenant newest found facility last
    obtain ⟨approved, awaiting, history⟩ := reachable.sound.histories covenant.id
    obtain ⟨init, rfl⟩ := last.history history
    have condition := (history.live_of_inForce_iff date).mp (by
      intro version member covered
      obtain ⟨listed, settled⟩ := history.mem_approved_iff.mp member
      obtain ⟨stored, owner⟩ := Tables.mem_versionsOf_iff.mp listed
      exact live version ⟨stored, settled, covenant, by rw [owner]; exact found, facility⟩ covered)
    refine condition.imp_left fun early version listed settled => ?_
    exact early version (history.mem_approved_iff.mpr ⟨listed, settled⟩)
  · intro condition version approved covered
    obtain ⟨covenant, found, facility⟩ := approved.facility
    obtain ⟨_, same⟩ := KeyedTable.find_eq_some_iff.mp found
    obtain ⟨listed, awaiting, history⟩ := reachable.sound.histories covenant.id
    have member : version ∈ listed := history.mem_approved_iff.mpr
      ⟨Tables.mem_versionsOf_iff.mpr ⟨approved.stored, same.symm⟩, approved.settled⟩
    cases listed using List.reverseRecOn with
    | nil => cases member
    | append_singleton init newest =>
      rw [← same] at found
      refine (history.live_of_inForce_iff date).mpr ?_ version member covered
      refine (condition covenant newest found facility history.newestApproved).imp_left ?_
      intro early version member
      obtain ⟨listed, settled⟩ := history.mem_approved_iff.mp member
      exact early version listed settled

/-- The second version of the sample is found in its time. -/
theorem liveAt_amended :
    RegistryService.liveAt sampleContext sampleWriter (Uuid.ofInt 9) ⟨2026, 3, 10, by decide⟩
        amendedRegistry = .ok [sampleVersion 21 2 marchFirst none .live] ∧
      ¬ (ApprovedIn amendedRegistry.aggregate (Uuid.ofInt 9)
          (sampleVersion 11 1 newYear (some marchFirst) .superseded) ∧
        (sampleVersion 11 1 newYear (some marchFirst)
          .superseded).InForce ⟨2026, 3, 10, by decide⟩) := by
  have reachable : Reachable (sampleService true) amendedRegistry :=
    (emptyRegistry_reachable true).runCalls _
  have returned : RegistryService.liveAt sampleContext sampleWriter (Uuid.ofInt 9)
      ⟨2026, 3, 10, by decide⟩ amendedRegistry =
        .ok [sampleVersion 21 2 marchFirst none .live] := rfl
  refine ⟨returned, ?_⟩
  rw [← (liveAt_iff reachable rfl returned).mpr]
  · simp [sampleVersion]
  · intro covenant newest found _ last
    have versions : amendedRegistry.aggregate.versionsOf (Uuid.ofInt 10) =
        [sampleVersion 11 1 newYear (some marchFirst) .superseded,
          sampleVersion 21 2 marchFirst none .live] := rfl
    have same : covenant.id = Uuid.ofInt 10 := by
      have listed := (KeyedTable.find_eq_some_iff.mp found).1
      have rows : amendedRegistry.aggregate.covenants.rows.map (fun covenant => covenant.id) =
          [Uuid.ofInt 10] := rfl
      have listed' := List.mem_map_of_mem (f := fun covenant : Covenant => covenant.id) listed
      rw [rows, List.mem_singleton] at listed'
      exact listed'
    rw [same] at last
    have listed := last.listed
    rw [versions] at listed
    simp only [List.mem_cons, List.not_mem_nil, or_false] at listed
    rcases listed with rfl | rfl
    · have below := last.last (sampleVersion 21 2 marchFirst none .live)
        (by rw [versions]; simp) rfl
      exact absurd below (by decide)
    · exact .inr ⟨by decide, .inl rfl⟩

/-- The covenant of the sample, in force from January and already amended from March. -/
def futureRegistry : RegistryState (Rows Payload) :=
  runCalls (sampleService false) emptyRegistry
    [sampleRegistration (openTerms newYear),
      sampleAmendment (openTerms marchFirst)]

/-- On a day of January before today, nothing is found: the version in force then is superseded by
    one that is not in force yet. -/
theorem liveAt_misses_superseded :
    Reachable (sampleService false) futureRegistry ∧
      (⟨2026, 1, 3, by decide⟩ : Date) ≤ sampleContext.now.date ∧
      RegistryService.liveAt sampleContext sampleWriter (Uuid.ofInt 9) ⟨2026, 1, 3, by decide⟩
        futureRegistry = .ok [] ∧
      ApprovedIn futureRegistry.aggregate (Uuid.ofInt 9)
        (sampleVersion 11 1 newYear (some marchFirst) .superseded) ∧
      (sampleVersion 11 1 newYear (some marchFirst)
        .superseded).InForce ⟨2026, 1, 3, by decide⟩ :=
  ⟨(emptyRegistry_reachable false).runCalls _, by decide, rfl, ⟨rfl, rfl, _, rfl, rfl⟩, by decide⟩

end Registry

end CovenantRadar
