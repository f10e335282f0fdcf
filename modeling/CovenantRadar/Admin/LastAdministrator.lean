import CovenantRadar.Admin.Users

/-!
# The last administrator

A request that takes an administrator away counts the active administrators before it writes, and
nothing keeps the count until it commits. The rows always hold an active administrator exactly if the
check would pass again on the rows each such write is committed onto, as it does when no other
request commits in between.
-/

namespace CovenantRadar

namespace Admin

open Security Approvals

/-- The user has an active account and an administrator role. -/
def activeAdministrator (state : Identities) (userId : Uuid) : Bool :=
  (state.users.find userId).any (·.isActive) && isAdministrator state userId

/-- Whether the links a role change leaves its user hold an administrator role. -/
def RoleChange.keepsAdministrator (change : RoleChange) (state : Identities) : Bool :=
  (state.links.rows.filter change.leaves ++ change.links).any fun link =>
    decide (link.userId = change.target.id) && administratorRoleCodes.contains link.roleCode

/-- The check of a role change, on the rows it is committed onto. -/
def RoleChange.Passes (change : RoleChange) (state : Identities) : Prop :=
  activeAdministrator state change.target.id = true → change.keepsAdministrator state = false →
    2 ≤ activeAdministratorCount state

/-- The check before a write, on the rows it is committed onto. -/
def AdminWrite.Passes : AdminWrite → Identities → Prop
  | .deactivate target, state =>
    activeAdministrator state target.id = true → 2 ≤ activeAdministratorCount state
  | .assign change, state => change.Passes state
  | .approve _ _ _ change, state => change.Passes state
  | .propose _, _ => True
  | .reject _ _ _, _ => True

/-! ## Counting -/

section

variable {state state' : Identities}

theorem isAdministrator_iff {userId : Uuid} : isAdministrator state userId = true ↔
    ∃ link ∈ state.links.rows, link.userId = userId ∧
      administratorRoleCodes.contains link.roleCode = true := by
  unfold isAdministrator hasAdministratorRole roleCodes
  rw [List.any_eq_true]
  constructor
  · rintro ⟨code, listed, role⟩
    obtain ⟨link, member, rfl⟩ := List.mem_map.mp ((List.mem_insertionSort _).mp listed)
    obtain ⟨stored, owner⟩ := List.mem_filter.mp member
    exact ⟨link, stored, of_decide_eq_true owner, role⟩
  · rintro ⟨link, stored, owner, role⟩
    refine ⟨link.roleCode, (List.mem_insertionSort _).mpr (List.mem_map.mpr ⟨link, ?_, rfl⟩), role⟩
    exact List.mem_filter.mpr ⟨stored, decide_eq_true owner⟩

/-- The active administrators. -/
def administrators (state : Identities) : Finset Uuid :=
  ((state.users.rows.filter fun user => user.isActive && isAdministrator state user.id).map
    AppUser.id).toFinset

theorem card_administrators : (administrators state).card = activeAdministratorCount state := by
  unfold administrators activeAdministratorCount
  rw [List.toFinset_card_of_nodup, List.length_map]
  exact state.users.distinct.sublist (List.filter_sublist.map _)

theorem mem_administrators {userId : Uuid} :
    userId ∈ administrators state ↔ activeAdministrator state userId = true := by
  unfold administrators activeAdministrator
  rw [List.mem_toFinset, List.mem_map, Bool.and_eq_true]
  constructor
  · rintro ⟨user, member, rfl⟩
    obtain ⟨stored, both⟩ := List.mem_filter.mp member
    rw [Bool.and_eq_true] at both
    rw [KeyedTable.find_of_mem stored]
    exact both
  · rintro ⟨active, role⟩
    cases found : state.users.find userId with
    | none =>
      rw [found] at active
      cases active
    | some user =>
      rw [found] at active
      obtain ⟨stored, rfl⟩ := KeyedTable.find_eq_some_iff.mp found
      exact ⟨user, List.mem_filter.mpr ⟨stored, Bool.and_eq_true _ _ |>.mpr ⟨active, role⟩⟩, rfl⟩

theorem count_pos_iff :
    0 < activeAdministratorCount state ↔ ∃ userId, activeAdministrator state userId = true := by
  rw [← card_administrators, Finset.card_pos]
  exact exists_congr fun userId => mem_administrators

/-- Besides one active administrator there are two exactly if there is another. -/
theorem two_le_count_iff {target : Uuid} (active : activeAdministrator state target = true) :
    2 ≤ activeAdministratorCount state ↔
      ∃ other, other ≠ target ∧ activeAdministrator state other = true := by
  have listed := mem_administrators.mpr active
  rw [← card_administrators]
  constructor
  · intro two
    obtain ⟨other, member, apart⟩ := Finset.exists_mem_ne two target
    exact ⟨other, apart, mem_administrators.mp member⟩
  · rintro ⟨other, apart, active'⟩
    exact Finset.one_lt_card.mpr ⟨other, mem_administrators.mpr active', target, listed, apart⟩

/-- A write that touches one user leaves an administrator exactly if that user stays one or there are
    two. -/
theorem count_pos_iff_of_frame {target : Uuid} (some : 0 < activeAdministratorCount state)
    (frame : ∀ other, other ≠ target → activeAdministrator state' other =
      activeAdministrator state other) :
    0 < activeAdministratorCount state' ↔
      (activeAdministrator state target = true → activeAdministrator state' target = false →
        2 ≤ activeAdministratorCount state) := by
  constructor
  · intro after active inactive
    obtain ⟨other, remains⟩ := count_pos_iff.mp after
    have apart : other ≠ target := by
      rintro rfl
      rw [inactive] at remains
      cases remains
    exact (two_le_count_iff active).mpr ⟨other, apart, (frame other apart).symm.trans remains⟩
  · intro enough
    apply count_pos_iff.mpr
    obtain ⟨held, active⟩ := count_pos_iff.mp some
    by_cases same : held = target
    · subst same
      cases after : activeAdministrator state' held with
      | true => exact ⟨held, after⟩
      | false =>
        obtain ⟨other, apart, active'⟩ := (two_le_count_iff active).mp (enough active after)
        exact ⟨other, (frame other apart).trans active'⟩
    · exact ⟨held, (frame held same).trans active⟩

/-! ## Writes -/

/-- What saving a user changes. -/
theorem saveUser_eq_ok {target : AppUser} {change : AppUser → AppUser}
    (saved : saveUser state target change = .ok state') :
    ∃ row, state.users.find target.id = some row ∧ state'.links = state.links ∧
      ∀ other, state'.users.find other =
        if other = target.id then
          some { change row with id := target.id, version := target.version + 1 }
        else state.users.find other := by
  unfold saveUser at saved
  cases found : state.users.find target.id with
  | none =>
    rw [found] at saved
    cases saved
  | some row =>
    rw [found] at saved
    cases saved
    refine ⟨row, rfl, rfl, fun other => ?_⟩
    exact @KeyedTable.find_put _ _ _ _ _
      { change row with id := target.id, version := target.version + 1 } row found other

theorem insertLinks_eq_ok {links links' : KeyedTable UserRole.id} {added : List UserRole}
    (inserted : insertLinks links added = .ok links') : links'.rows = links.rows ++ added := by
  induction added generalizing links with
  | nil =>
    cases inserted
    exact (List.append_nil _).symm
  | cons link added ih =>
    unfold insertLinks at inserted
    by_cases collision : collides links link = true
    · rw [if_pos collision] at inserted
      cases inserted
    · rw [if_neg collision] at inserted
      have fresh : links.find link.id = none := by
        rw [KeyedTable.find_eq_none_iff]
        intro listed
        obtain ⟨other, stored, same⟩ := List.mem_map.mp listed
        apply collision
        refine List.any_eq_true.mpr ⟨other, stored, ?_⟩
        rw [Bool.or_eq_true]
        exact .inl (decide_eq_true same)
      have rows : (links.insertNew link).rows = links.rows ++ [link] := by
        unfold KeyedTable.insertNew
        rw [dif_pos fresh]
        rfl
      rw [ih inserted, rows, List.append_assoc, List.singleton_append]

theorem applyChange_eq_ok {change : RoleChange} (applied : applyChange change state = .ok state') :
    ∃ row, state.users.find change.target.id = some row ∧
      state'.links.rows = state.links.rows.filter change.leaves ++ change.links ∧
      ∀ other, state'.users.find other =
        if other = change.target.id then
          some { row with id := change.target.id, version := change.target.version + 1 }
        else state.users.find other := by
  unfold applyChange at applied
  split_ifs at applied
  obtain ⟨links, inserted, saved⟩ := Except.bind_eq_ok_iff.mp applied
  obtain ⟨row, found, kept, users⟩ := saveUser_eq_ok saved
  refine ⟨row, found, ?_, users⟩
  rw [kept]
  exact insertLinks_eq_ok inserted

theorem decideRequest_eq_ok {requestId checkerId : Uuid} {decision : RequestState}
    {reason : Option Text} (decided : decideRequest requestId checkerId decision reason state =
      .ok state') : state'.users = state.users ∧ state'.links = state.links := by
  unfold decideRequest at decided
  cases found : state.requests.find requestId with
  | none =>
    rw [found] at decided
    cases decided
  | some row =>
    rw [found] at decided
    cases decided
    exact ⟨rfl, rfl⟩

theorem activeAdministrator_congr (users : state'.users = state.users)
    (links : state'.links = state.links) (userId : Uuid) :
    activeAdministrator state' userId = activeAdministrator state userId := by
  unfold activeAdministrator isAdministrator roleCodes
  rw [users, links]

/-- A role change leaves an administrator exactly if its check passes. -/
theorem count_pos_iff_of_applyChange {change : RoleChange}
    (applied : applyChange change state = .ok state') (some : 0 < activeAdministratorCount state) :
    0 < activeAdministratorCount state' ↔ change.Passes state := by
  obtain ⟨row, found, links, users⟩ := applyChange_eq_ok applied
  have others : ∀ other, other ≠ change.target.id →
      activeAdministrator state' other = activeAdministrator state other := by
    intro other apart
    unfold activeAdministrator
    rw [users, if_neg apart]
    congr 1
    rw [Bool.eq_iff_iff, isAdministrator_iff, isAdministrator_iff]
    constructor
    · rintro ⟨link, stored, owner, role⟩
      rw [links] at stored
      rcases List.mem_append.mp stored with old | new
      · exact ⟨link, (List.mem_filter.mp old).1, owner, role⟩
      · obtain ⟨entry, _, rfl⟩ := List.mem_map.mp new
        exact absurd owner.symm apart
    · rintro ⟨link, stored, owner, role⟩
      refine ⟨link, ?_, owner, role⟩
      rw [links]
      refine List.mem_append_left _ (List.mem_filter.mpr ⟨stored, ?_⟩)
      have foreign : link.userId ≠ change.target.id := owner.symm ▸ apart
      simp [RoleChange.leaves, foreign]
  have keeps : isAdministrator state' change.target.id = change.keepsAdministrator state := by
    rw [Bool.eq_iff_iff, isAdministrator_iff, RoleChange.keepsAdministrator, List.any_eq_true,
      links]
    refine exists_congr fun link => and_congr_right fun _ => ?_
    rw [Bool.and_eq_true, decide_eq_true_eq]
  rw [count_pos_iff_of_frame some others]
  refine forall_congr' fun active => ?_
  have account : row.isActive = true := by
    unfold activeAdministrator at active
    rw [found, Bool.and_eq_true] at active
    exact active.1
  have after : activeAdministrator state' change.target.id = change.keepsAdministrator state := by
    unfold activeAdministrator
    rw [users, if_pos rfl, keeps]
    simp [account]
  rw [after]

/-- A write leaves an administrator exactly if its check passes on the rows it is committed onto. -/
theorem count_pos_iff_of_applyWrite (write : AdminWrite) (state state' : Identities)
    (applied : applyWrite write state = .ok state') (some : 0 < activeAdministratorCount state) :
    0 < activeAdministratorCount state' ↔ write.Passes state := by
  have unchanged : state'.users = state.users → state'.links = state.links →
      (0 < activeAdministratorCount state' ↔ True) := by
    intro users links
    refine iff_true_intro (count_pos_iff.mpr ?_)
    obtain ⟨held, active⟩ := count_pos_iff.mp some
    exact ⟨held, (activeAdministrator_congr users links held).trans active⟩
  cases write with
  | deactivate target =>
    obtain ⟨row, found, links, users⟩ := saveUser_eq_ok applied
    have others : ∀ other, other ≠ target.id →
        activeAdministrator state' other = activeAdministrator state other := by
      intro other apart
      unfold activeAdministrator isAdministrator roleCodes
      rw [users, if_neg apart, links]
    rw [count_pos_iff_of_frame some others]
    refine forall_congr' fun active => ?_
    have after : activeAdministrator state' target.id = false := by
      unfold activeAdministrator
      rw [users, if_pos rfl]
      rfl
    exact ⟨fun enough => enough after, fun enough _ => enough⟩
  | assign change => exact count_pos_iff_of_applyChange applied some
  | propose request =>
    simp only [applyWrite] at applied
    split_ifs at applied
    cases applied
    exact unchanged rfl rfl
  | approve requestId checkerId reason change =>
    obtain ⟨changed, first, decided⟩ := Except.bind_eq_ok_iff.mp applied
    obtain ⟨users, links⟩ := decideRequest_eq_ok decided
    have same : 0 < activeAdministratorCount state' ↔ 0 < activeAdministratorCount changed := by
      rw [count_pos_iff, count_pos_iff]
      refine exists_congr fun userId => ?_
      rw [activeAdministrator_congr users links]
    rw [same]
    exact count_pos_iff_of_applyChange first some
  | reject requestId checkerId reason =>
    obtain ⟨users, links⟩ := decideRequest_eq_ok applied
    exact unchanged users links

/-! ## Requests without commits between their steps -/

theorem orRefuse_alone {α : Type} {result : Except DomainError α} {next : α → AdminScript}
    {write : AdminWrite} (commits : (orRefuse result next).alone state = some write) :
    ∃ value, result = .ok value ∧ (next value).alone state = some write := by
  cases result with
  | error error => cases commits
  | ok value => exact ⟨value, rfl, commits⟩

theorem requireAdmin_alone {principal : Principal} {next : AppUser → AdminScript}
    {write : AdminWrite} (commits : (requireAdmin principal next).alone state = some write) :
    ∃ actor, state.users.find actor.id = some actor ∧ (next actor).alone state = some write := by
  unfold requireAdmin at commits
  by_cases person : principal.kind ≠ .user
  · rw [if_pos person] at commits
    cases commits
  · rw [if_neg person] at commits
    obtain ⟨_, _, reading⟩ := orRefuse_alone commits
    simp only [Script.alone] at reading
    cases found : state.users.find principal.id with
    | none =>
      rw [found] at reading
      cases reading
    | some actor =>
      rw [found] at reading
      by_cases active : actor.isActive = true
      · simp only [if_pos active] at reading
        refine ⟨actor, ?_, reading⟩
        rw [(KeyedTable.find_eq_some_iff.mp found).2]
        exact found
      · simp only [if_neg active] at reading
        cases reading

theorem withUser_alone {actor : AppUser} {userId : Uuid} {next : AppUser → AdminScript}
    {write : AdminWrite} (present : state.users.find actor.id = some actor)
    (commits : (withUser actor userId next).alone state = some write) :
    ∃ target, state.users.find target.id = some target ∧ (next target).alone state = some write := by
  unfold withUser at commits
  by_cases self : userId = actor.id
  · rw [if_pos self] at commits
    exact ⟨actor, present, commits⟩
  · rw [if_neg self] at commits
    simp only [Script.alone] at commits
    cases found : state.users.find userId with
    | none =>
      rw [found] at commits
      cases commits
    | some target =>
      rw [found] at commits
      refine ⟨target, ?_, commits⟩
      rw [(KeyedTable.find_eq_some_iff.mp found).2]
      exact found

theorem requireRoles_alone {values : List Text} {next : AdminScript} {write : AdminWrite}
    (commits : (requireRoles values next).alone state = some write) :
    next.alone state = some write := by
  obtain ⟨codes, _, reading⟩ := orRefuse_alone commits
  simp only [Script.alone] at reading
  cases unknown : codes.find? fun code => !state.roles.contains code with
  | none =>
    rw [unknown] at reading
    exact reading
  | some code =>
    rw [unknown] at reading
    cases reading

theorem unlessLast_alone {message : String} {next : AdminScript} {write : AdminWrite}
    (commits : (unlessLast message next).alone state = some write) :
    2 ≤ activeAdministratorCount state ∧ next.alone state = some write := by
  simp only [unlessLast, Script.alone] at commits
  by_cases last : activeAdministratorCount state ≤ 1
  · rw [if_pos last] at commits
    cases commits
  · rw [if_neg last] at commits
    exact ⟨by omega, commits⟩

/-- The check of a role change read the rows it is committed onto. -/
theorem applyRoleCodes_alone {target : AppUser} {desired : List Text} {newId : Text → Uuid}
    {build : RoleChange → AdminWrite} {write : AdminWrite}
    (present : state.users.find target.id = some target)
    (commits : (applyRoleCodes target desired newId build).alone state = some write) :
    ∃ change, write = build change ∧ change.Passes state := by
  -- the write keeps an administrator role if the codes asked for hold one
  have passes : ∀ change : RoleChange, change.target = target →
      change.removed = (state.links.rows.filter fun link =>
        decide (link.userId = target.id) && state.roles.contains link.roleCode &&
          !desired.contains link.roleCode).map (·.id) →
      change.added = (sortedSet (desired.filter fun code =>
        !(roleCodes state target.id).contains code)).map (fun code => (newId code, code)) →
      (target.isActive = true → isAdministrator state target.id = true →
        hasAdministratorRole desired = false → 2 ≤ activeAdministratorCount state) →
      change.Passes state := by
    intro change same removed added checked active lost
    rw [same] at active
    obtain ⟨account, role⟩ := Bool.and_eq_true _ _ |>.mp active
    rw [present] at account
    refine checked account role ?_
    cases asked : hasAdministratorRole desired with
    | false => rfl
    | true =>
      obtain ⟨code, wanted, administrator⟩ := List.any_eq_true.mp asked
      rw [← lost]
      refine (List.any_eq_true.mpr ?_).symm
      by_cases held : code ∈ roleCodes state target.id
      · obtain ⟨link, listed, rfl⟩ := List.mem_map.mp ((List.mem_insertionSort _).mp held)
        obtain ⟨stored, owner⟩ := List.mem_filter.mp listed
        have kept : link.id ∉ change.removed := by
          rw [removed]
          intro gone
          obtain ⟨other, member, alike⟩ := List.mem_map.mp gone
          obtain ⟨stored', unwanted⟩ := List.mem_filter.mp member
          have found := KeyedTable.find_of_mem stored'
          rw [alike, KeyedTable.find_of_mem stored] at found
          cases found
          simp [wanted] at unwanted
        refine ⟨link, List.mem_append_left _ (List.mem_filter.mpr ⟨stored, ?_⟩), ?_⟩
        · simp [RoleChange.leaves, kept]
        · rw [same, Bool.and_eq_true]
          exact ⟨owner, administrator⟩
      · refine ⟨⟨newId code, change.target.id, code⟩, List.mem_append_right _ ?_, ?_⟩
        · refine List.mem_map.mpr ⟨(newId code, code), ?_, rfl⟩
          rw [added]
          refine List.mem_map.mpr ⟨code, mem_sortedSet.mpr (List.mem_filter.mpr ⟨wanted, ?_⟩), rfl⟩
          simp [held]
        · rw [Bool.and_eq_true]
          exact ⟨decide_eq_true rfl, administrator⟩
  simp only [applyRoleCodes, Script.alone, Script.alone_ite] at commits
  split_ifs at commits with active last
  · obtain ⟨two, done⟩ := unlessLast_alone commits
    cases done
    exact ⟨_, rfl, passes _ rfl rfl rfl fun _ _ _ => two⟩
  · cases commits
    refine ⟨_, rfl, passes _ rfl rfl rfl fun _ role asked => ?_⟩
    rw [role, asked] at last
    exact absurd rfl last
  · cases commits
    exact ⟨_, rfl, passes _ rfl rfl rfl fun account => absurd account active⟩

/-- A request that runs alone writes only where its check passes. -/
theorem script_alone {request : AdminRequest} {write : AdminWrite}
    (commits : request.script.alone state = some write) : write.Passes state := by
  cases request with
  | deactivateUser principal userId reason =>
    obtain ⟨actor, present, commits⟩ := requireAdmin_alone commits
    obtain ⟨target, found, commits⟩ := withUser_alone present commits
    obtain ⟨_, _, commits⟩ := orRefuse_alone commits
    by_cases active : target.isActive = true
    · simp only [if_pos active, Script.alone] at commits
      by_cases role : isAdministrator state target.id = true
      · rw [if_pos role] at commits
        obtain ⟨two, done⟩ := unlessLast_alone commits
        cases done
        exact fun _ => two
      · rw [if_neg role] at commits
        cases commits
        intro administrator
        exact absurd (Bool.and_eq_true _ _ |>.mp administrator).2 role
    · simp only [if_neg active] at commits
      cases commits
  | assignRoles principal userId values reason newId requestId =>
    obtain ⟨actor, present, commits⟩ := requireAdmin_alone commits
    obtain ⟨target, found, commits⟩ := withUser_alone present commits
    obtain ⟨_, _, commits⟩ := orRefuse_alone commits
    obtain ⟨desired, _, commits⟩ := orRefuse_alone commits
    have reading := requireRoles_alone commits
    simp only [Script.alone, Script.alone_ite] at reading
    split_ifs at reading with unchanged self held
    · cases reading
    · obtain ⟨change, rfl, passes⟩ := applyRoleCodes_alone found reading
      exact passes
    · cases reading
      exact trivial
    · obtain ⟨change, rfl, passes⟩ := applyRoleCodes_alone found reading
      exact passes
  | decideRoleAssignment principal requestId approved reason newId =>
    obtain ⟨actor, present, commits⟩ := requireAdmin_alone commits
    simp only [Script.alone] at commits
    cases pending : state.requests.find requestId with
    | none =>
      rw [pending] at commits
      cases commits
    | some request =>
      rw [pending] at commits
      by_cases decided : request.state ≠ .pending
      · simp only [if_pos decided] at commits
        cases commits
      · by_cases own : request.makerId = principal.id
        · simp only [if_neg decided, if_pos own] at commits
          cases commits
        · simp only [if_neg decided, if_neg own] at commits
          obtain ⟨_, _, commits⟩ := orRefuse_alone commits
          obtain ⟨payload, _, commits⟩ := orRefuse_alone commits
          obtain ⟨target, found, commits⟩ := withUser_alone present commits
          by_cases stale : target.version ≠ payload.expectedVersion
          · simp only [if_pos stale] at commits
            cases commits
          · simp only [if_neg stale] at commits
            cases approved with
            | false =>
              cases commits
              exact trivial
            | true =>
              have reading := requireRoles_alone commits
              simp only [Script.alone, Script.alone_ite] at reading
              split_ifs at reading with moved
              · cases reading
              · obtain ⟨change, rfl, passes⟩ := applyRoleCodes_alone found reading
                exact passes

/-- A request reads before it writes. -/
theorem script_ne_commit (request : AdminRequest) (write : AdminWrite) :
    request.script ≠ .commit write := by
  have reads : ∀ (principal : Principal) (next : AppUser → AdminScript),
      requireAdmin principal next ≠ .commit write := by
    intro principal next commits
    unfold requireAdmin at commits
    split_ifs at commits
    · cases commits
    · cases granted : authorize principal .manageUsers with
      | error error =>
        rw [granted] at commits
        cases commits
      | ok value =>
        rw [granted] at commits
        cases commits
  cases request with
  | deactivateUser principal userId reason => exact reads principal _
  | assignRoles principal userId values reason newId requestId => exact reads principal _
  | decideRoleAssignment principal requestId approved reason newId => exact reads principal _

/-! ## Runs -/

/-- However the steps of requests interleave, an active administrator remains after every commit
    exactly if the check of every write passes on the rows it is committed onto; it does when no
    commit falls between the first step of a request and its own. -/
theorem administrator_remains_iff (state : Identities) (requests : List AdminRequest)
    (start : 0 < activeAdministratorCount state) (schedule : List ℕ) :
    ((∀ past rest, schedule = past ++ rest →
        0 < activeAdministratorCount ((poolOf state requests).run applyWrite past).state) ↔
      ∀ commit ∈ (poolOf state requests).commits applyWrite schedule,
        commit.write.Passes commit.before) ∧
    ((poolOf state requests).Undisturbed applyWrite schedule →
      ∀ past rest, schedule = past ++ rest →
        0 < activeAdministratorCount ((poolOf state requests).run applyWrite past).state) := by
  have exactly := Pool.forall_run_iff_commits count_pos_iff_of_applyWrite (poolOf state requests)
    start schedule
  refine ⟨exactly, fun undisturbed => exactly.mpr fun commit member => ?_⟩
  have reads : ∀ script ∈ (poolOf state requests).scripts, ∀ write, script ≠ .commit write := by
    intro script listed write
    obtain ⟨request, _, rfl⟩ := List.mem_map.mp listed
    exact script_ne_commit request write
  obtain ⟨script, listed, alone⟩ := Pool.alone_of_undisturbed reads undisturbed member
  obtain ⟨request, _, rfl⟩ := List.mem_map.mp listed
  exact script_alone alone

end

/-! ## Two administrators -/

/-- An administrator, as a caller. -/
def administrator (id : ℕ) : Principal := ⟨Uuid.ofInt id, [.manageUsers], .user⟩

/-- An active user of the first version. -/
def activeUser (id : ℕ) : AppUser := ⟨Uuid.ofInt id, "meera".toList, true, 1⟩

theorem twoUsers_distinct : ([activeUser 1, activeUser 2].map AppUser.id).Nodup := by decide

/-- The administrator's role of a user. -/
def administratorLink (id userId : ℕ) : UserRole :=
  ⟨Uuid.ofInt id, Uuid.ofInt userId, "administrator".toList⟩

theorem twoLinks_distinct :
    ([administratorLink 3 1, administratorLink 4 2].map UserRole.id).Nodup := by decide

/-- Two active administrators. -/
def twoAdministrators : Identities where
  users := ⟨[activeUser 1, activeUser 2], twoUsers_distinct⟩
  links := ⟨[administratorLink 3 1, administratorLink 4 2], twoLinks_distinct⟩
  roles := administratorRoleCodes
  requests := KeyedTable.empty

/-- Each deactivates the other. -/
def deactivations : List AdminRequest :=
  [.deactivateUser (administrator 1) (Uuid.ofInt 2) (some "leaver".toList),
    .deactivateUser (administrator 2) (Uuid.ofInt 1) (some "leaver".toList)]

/-- Both count two administrators before either commits. -/
theorem no_administrator_remains :
    ¬ ∀ (state : Identities) (requests : List AdminRequest), 0 < activeAdministratorCount state →
      ∀ schedule : List ℕ,
        0 < activeAdministratorCount ((poolOf state requests).run applyWrite schedule).state := by
  intro always
  have remains := always twoAdministrators deactivations (by decide)
    [0, 0, 0, 0, 1, 1, 1, 1, 0, 1]
  have none : activeAdministratorCount ((poolOf twoAdministrators deactivations).run applyWrite
      [0, 0, 0, 0, 1, 1, 1, 1, 0, 1]).state = 0 := by decide
  rw [none] at remains
  exact Nat.lt_irrefl 0 remains

/-- One after the other, the second finds its caller deactivated. -/
theorem administrator_remains_iff_in_turn :
    ((∀ past rest, [0, 0, 0, 0, 0, 1, 1, 1, 1, 1] = past ++ rest →
        0 < activeAdministratorCount
          ((poolOf twoAdministrators deactivations).run applyWrite past).state) ↔
      ∀ commit ∈ (poolOf twoAdministrators deactivations).commits applyWrite
        [0, 0, 0, 0, 0, 1, 1, 1, 1, 1], commit.write.Passes commit.before) ∧
    ((poolOf twoAdministrators deactivations).Undisturbed applyWrite
        [0, 0, 0, 0, 0, 1, 1, 1, 1, 1] →
      ∀ past rest, [0, 0, 0, 0, 0, 1, 1, 1, 1, 1] = past ++ rest →
        0 < activeAdministratorCount
          ((poolOf twoAdministrators deactivations).run applyWrite past).state) :=
  administrator_remains_iff twoAdministrators deactivations (by decide)
    [0, 0, 0, 0, 0, 1, 1, 1, 1, 1]

end Admin

end CovenantRadar
