import CovenantRadar.Registry.Effects

/-!
# The history of a covenant

The versions of a covenant that were in force follow each other end to end, with at most one
version behind them that waits for approval: the form every change keeps, and what it says about
dates and numbers.
-/

namespace CovenantRadar

namespace Registry

open Approvals

variable {ρ : Type} {service : RegistryService ρ} {state state' : RegistryState ρ}
  {tables tables' : Tables}

/-! ## The form of a history -/

/-- The approved versions, oldest first: each is superseded where the next one starts, and the last
    one is live or retired. -/
structure Timeline (approved : List CovenantVersion) : Prop where
  tiled : Tiled CovenantVersion.effectiveFrom CovenantVersion.effectiveTo approved
  superseded : ∀ version ∈ approved.dropLast, version.status = .superseded
  last : ∀ version, approved.getLast? = some version →
    version.status = .live ∨ version.status = .retired

/-- All versions of a covenant: the approved ones, then at most one that waits. -/
structure History (versions approved awaiting : List CovenantVersion) : Prop where
  split : versions = approved ++ awaiting
  timeline : Timeline approved
  waiting : ∀ version ∈ awaiting, version.status.isAwaiting = true
  single : awaiting.length ≤ 1
  numbered : versions.Pairwise fun version later => version.versionNo < later.versionNo
  positive : ∀ version ∈ versions, 1 ≤ version.versionNo

theorem timeline_nil : Timeline [] where
  tiled := .nil
  superseded := by simp
  last := by simp

theorem timeline_single {version : CovenantVersion}
    (status : version.status = .live ∨ version.status = .retired) : Timeline [version] where
  tiled := .single version
  superseded := by simp
  last := by
    intro last same
    cases same
    exact status

/-- A version in force that was not superseded is the last one. -/
theorem Timeline.eq_last {approved : List CovenantVersion} (timeline : Timeline approved)
    {version : CovenantVersion} (listed : version ∈ approved)
    (status : version.status ≠ .superseded) : ∃ init, approved = init ++ [version] := by
  cases approved using List.reverseRecOn with
  | nil => cases listed
  | append_singleton init last =>
    have earlier := timeline.superseded
    rw [List.dropLast_concat] at earlier
    rcases List.mem_append.mp listed with inside | final
    · exact absurd (earlier version inside) status
    · rw [List.mem_singleton] at final
      exact ⟨init, by rw [final]⟩

/-- The last version is closed, and the next one follows. -/
theorem Timeline.snoc {init : List CovenantVersion} {last next : CovenantVersion}
    (timeline : Timeline (init ++ [last])) (later : last.effectiveFrom < next.effectiveFrom)
    (live : next.status = .live) :
    Timeline (init ++ [last.closedAt next.effectiveFrom, next]) where
  tiled := timeline.tiled.snoc rfl rfl later
  superseded := by
    have earlier := timeline.superseded
    rw [List.dropLast_concat] at earlier
    intro version listed
    have drop : (init ++ [last.closedAt next.effectiveFrom, next]).dropLast =
        init ++ [last.closedAt next.effectiveFrom] := by
      rw [List.append_cons, List.dropLast_concat]
    rw [drop, List.mem_append, List.mem_singleton] at listed
    rcases listed with inside | rfl
    · exact earlier version inside
    · rfl
  last := by
    intro version same
    rw [List.append_cons, List.getLast?_concat, Option.some.injEq] at same
    rw [← same]
    exact .inl live

/-- The last version is retired. -/
theorem Timeline.retire {init : List CovenantVersion} {last : CovenantVersion}
    (timeline : Timeline (init ++ [last])) : Timeline (init ++ [last.retiredRow]) where
  tiled := timeline.tiled.replace_last rfl
  superseded := by
    have earlier := timeline.superseded
    rw [List.dropLast_concat] at earlier ⊢
    exact earlier
  last := by
    intro version same
    rw [List.getLast?_concat, Option.some.injEq] at same
    rw [← same]
    exact .inr rfl

namespace History

variable {versions approved awaiting : List CovenantVersion}

theorem nil : History [] [] [] where
  split := rfl
  timeline := timeline_nil
  waiting := by simp
  single := by simp
  numbered := .nil
  positive := by simp

theorem approved_ne_awaiting (history : History versions approved awaiting)
    {version : CovenantVersion} (listed : version ∈ approved) :
    version.status.isAwaiting = false := by
  by_cases last : approved.getLast? = some version
  · rcases history.timeline.last version last with live | retired
    · rw [live]
      rfl
    · rw [retired]
      rfl
  · have inside : version ∈ approved.dropLast := by
      cases approved using List.reverseRecOn with
      | nil => cases listed
      | append_singleton init final =>
        rw [List.getLast?_concat] at last
        rw [List.dropLast_concat]
        rcases List.mem_append.mp listed with inside | same
        · exact inside
        · rw [List.mem_singleton] at same
          exact absurd (by rw [same]) last
    rw [history.timeline.superseded version inside]
    rfl

theorem mem_approved_iff (history : History versions approved awaiting)
    {version : CovenantVersion} :
    version ∈ approved ↔ version ∈ versions ∧ version.status.isAwaiting = false := by
  rw [history.split, List.mem_append]
  constructor
  · intro listed
    exact ⟨.inl listed, history.approved_ne_awaiting listed⟩
  · intro listed
    rcases listed.1 with approved | waits
    · exact approved
    · rw [history.waiting version waits] at listed
      cases listed.2

/-- A version that waits is the only one, and is listed last. -/
theorem awaiting_eq (history : History versions approved awaiting) {version : CovenantVersion}
    (listed : version ∈ versions) (waits : version.status.isAwaiting = true) :
    awaiting = [version] := by
  rw [history.split, List.mem_append] at listed
  rcases listed with inside | member
  · rw [history.approved_ne_awaiting inside] at waits
    cases waits
  · obtain ⟨only, rfl⟩ := List.length_eq_one_iff.mp
      (le_antisymm history.single (List.length_pos_of_mem member))
    rw [List.mem_singleton] at member
    rw [member]

/-- A new version that waits, behind approved ones. -/
theorem propose (history : History versions approved []) {version : CovenantVersion}
    (waits : version.status.isAwaiting = true) (positive : 1 ≤ version.versionNo)
    (number : ∀ earlier ∈ versions, earlier.versionNo < version.versionNo) :
    History (versions ++ [version]) approved [version] where
  split := by rw [history.split, List.append_nil]
  timeline := history.timeline
  waiting := by simpa using waits
  single := le_rfl
  numbered := by
    rw [List.pairwise_append]
    exact ⟨history.numbered, List.pairwise_singleton _ _, by simpa using number⟩
  positive := by
    intro other listed
    rcases List.mem_append.mp listed with earlier | same
    · exact history.positive other earlier
    · rw [List.mem_singleton.mp same]
      exact positive

/-- The first version, when it is in force at once or once it is approved. -/
theorem first {version : CovenantVersion} (live : version.status = .live)
    (positive : 1 ≤ version.versionNo) : History [version] [version] [] where
  split := rfl
  timeline := timeline_single (.inl live)
  waiting := by simp
  single := Nat.zero_le 1
  numbered := List.pairwise_singleton _ _
  positive := by simpa using positive

/-- The last version is closed and the next one, in force, follows it. -/
theorem amend {init : List CovenantVersion} {last next : CovenantVersion}
    (history : History versions (init ++ [last]) awaiting)
    (later : last.effectiveFrom < next.effectiveFrom) (live : next.status = .live)
    (number : last.versionNo < next.versionNo) :
    History (init ++ [last.closedAt next.effectiveFrom, next])
      (init ++ [last.closedAt next.effectiveFrom, next]) [] where
  split := (List.append_nil _).symm
  timeline := history.timeline.snoc later live
  waiting := by simp
  single := Nat.zero_le 1
  numbered := by
    have numbered := history.numbered
    rw [history.split, List.pairwise_append] at numbered
    have earlier := List.pairwise_append.mp numbered.1
    have below : ∀ version ∈ init, version.versionNo < last.versionNo := fun version listed =>
      earlier.2.2 version listed last (List.mem_singleton_self last)
    rw [List.pairwise_append]
    refine ⟨earlier.1, by simpa [CovenantVersion.closedAt] using number, ?_⟩
    intro version listed other member
    simp only [List.mem_cons, List.not_mem_nil, or_false] at member
    rcases member with rfl | rfl
    · exact below version listed
    · exact (below version listed).trans number
  positive := by
    have positive := history.positive
    rw [history.split] at positive
    intro version listed
    have last' : 1 ≤ last.versionNo := positive last (by simp)
    simp only [List.mem_append, List.mem_cons, List.not_mem_nil, or_false] at listed
    rcases listed with inside | rfl | rfl
    · exact positive version (by simp [inside])
    · exact last'
    · exact last'.trans number.le

/-- The last version is retired. -/
theorem retire {init : List CovenantVersion} {last : CovenantVersion}
    (history : History versions (init ++ [last]) awaiting) :
    History (init ++ last.retiredRow :: awaiting) (init ++ [last.retiredRow]) awaiting where
  split := by simp
  timeline := history.timeline.retire
  waiting := history.waiting
  single := history.single
  numbered := by
    have numbered := history.numbered
    rw [history.split, List.append_assoc, List.singleton_append] at numbered
    rw [List.pairwise_append, List.pairwise_cons] at numbered ⊢
    refine ⟨numbered.1, numbered.2.1, ?_⟩
    intro version listed other member
    rcases List.mem_cons.mp member with rfl | behind
    · exact numbered.2.2 version listed last List.mem_cons_self
    · exact numbered.2.2 version listed other (List.mem_cons_of_mem _ behind)
  positive := by
    have positive := history.positive
    rw [history.split] at positive
    intro version listed
    simp only [List.mem_append, List.mem_cons] at listed
    rcases listed with inside | rfl | behind
    · exact positive version (by simp [inside])
    · exact positive last (by simp)
    · exact positive version (by simp [behind])

end History

end Registry

end CovenantRadar
