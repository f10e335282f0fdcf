import CovenantRadar.Auth.Issuing

/-!
# Sessions over runs of calls

A flow is followed through the challenges that calls hand to each other, from the call that verified
the password. Sessions are issued as they should be in exactly the runs that change no password of an
inactive user.
-/

namespace CovenantRadar

namespace Auth

open Sessions

/-! ## Flows -/

/-- The challenge a call presents. -/
def Call.presented (call : Call) : Option Challenge :=
  match call.op with
  | .verifyMfa (.challenge challenge) _ => some challenge
  | .beginMfaEnrollment (.challenge challenge) => some challenge
  | .completeMfaEnrollment (.challenge challenge) _ => some challenge
  | .changePassword (.challenge challenge) _ _ => some challenge
  | _ => none

section

variable (service : AuthService)

/-- The call is a sign-in that verified the password of a user. -/
def Call.VerifiesPassword (call : Call) (userId : Uuid) : Prop :=
  ∃ username password user, call.op = .signIn username password ∧
    findByUsername call.before.users (normaliseUsername service username) = some user ∧
    user.id = userId ∧ (service.passwords.verify password user.passwordHash).valid = true

/-- The call was given a code that the secret of the user, or of the enrolment, accepts. -/
def Call.AcceptsCode (call : Call) : Prop :=
  (∃ challenge code user secret, call.op = .verifyMfa (.challenge challenge) code ∧
    call.before.users.find challenge.userId = some user ∧ user.mfaSecretEnc = some secret ∧
    accepts service secret code call.context.checkedAt = true) ∨
  ∃ challenge code secret, call.op = .completeMfaEnrollment (.challenge challenge) code ∧
    challenge.encryptedSecret = some secret ∧
    accepts service secret code call.context.checkedAt = true

/-- The call presents a live session of a user. -/
def Call.OfLiveSession (call : Call) (userId : Uuid) : Prop :=
  ∃ cookie newPassword confirmation record,
    call.op = .changePassword (.session cookie) newPassword confirmation ∧
    validate service.sessions call.before.sessions cookie call.context.readAt = some record ∧
    record.userId = userId

/-- A challenge ends a login flow of its user among past calls: the flow began with a verified
    password, and `code` says whether a code was accepted on the way. -/
inductive Flow : List Call → Challenge → Bool → Prop
  | later {history : List Call} {call : Call} {challenge : Challenge} {code : Bool}
      (flow : Flow history challenge code) : Flow (history ++ [call]) challenge code
  | primary {history : List Call} {call : Call} {challenge : Challenge}
      (verified : call.VerifiesPassword service challenge.userId)
      (issued : call.challenge = some challenge) : Flow (history ++ [call]) challenge false
  | carried {history : List Call} {call : Call} {given challenge : Challenge} {code : Bool}
      (flow : Flow history given code) (presented : call.presented = some given)
      (same : given.userId = challenge.userId) (issued : call.challenge = some challenge) :
      Flow (history ++ [call]) challenge code
  | confirmed {history : List Call} {call : Call} {given challenge : Challenge} {code : Bool}
      (flow : Flow history given code) (presented : call.presented = some given)
      (same : given.userId = challenge.userId) (accepted : call.AcceptsCode service)
      (issued : call.challenge = some challenge) : Flow (history ++ [call]) challenge true

/-- What entitles a call to a session of a user: a live session of theirs, or a flow in which their
    password was verified and, when it is required, a code was accepted. -/
def Entitled (history : List Call) (call : Call) (userId : Uuid) : Prop :=
  call.OfLiveSession service userId ∨
  (call.VerifiesPassword service userId ∧ service.settings.mfaRequired = false) ∨
  ∃ challenge code, call.presented = some challenge ∧ challenge.userId = userId ∧
    Flow service history challenge code ∧
    (service.settings.mfaRequired = true → code = true ∨ call.AcceptsCode service)

/-- Every session of a run goes to a user who is then active and has no password to change, from a
    call that is entitled to it. -/
def Guarded (trace : List Call) : Prop :=
  ∀ history call rest, trace = history ++ call :: rest → ∀ record, call.session = some record →
    (∃ user, call.after.users.find record.userId = some user ∧ user.isActive = true ∧
      user.mustChangePassword = false) ∧ Entitled service history call record.userId

/-- The checks of a changed password pass for a user. -/
def Call.ChangesFor (call : Call) (user : UserRecord) : Prop :=
  ∃ credential newPassword confirmation,
    call.op = .changePassword credential newPassword confirmation ∧
    Auth.ChangesFor service call.before call.context credential newPassword confirmation user

/-- The call is a step of the service. -/
def Call.Ran (call : Call) : Prop :=
  step service call.before call.context call.op = (call.after, call.answer)

end

/-- Nobody but the service signs: a challenge that verifies was issued by an earlier call. -/
def Unforged (trace : List Call) : Prop :=
  ∀ history call rest, trace = history ++ call :: rest → ∀ challenge,
    call.presented = some challenge → ∃ earlier ∈ history, earlier.challenge = some challenge

section

variable {service : AuthService}

theorem ran_of_mem_calls {state : AuthState} {ops : List (CallContext × AuthOp)} {call : Call}
    (member : call ∈ calls service state ops) : call.Ran service := by
  induction ops generalizing state with
  | nil => cases member
  | cons entry rest ih =>
    obtain ⟨context, op⟩ := entry
    rcases List.mem_cons.mp member with rfl | later
    · rfl
    · exact ih later

/-- What a call issues is what its entry point answered. -/
theorem answer_of_session {call : Call} {record : SessionRecord}
    (issued : call.session = some record) :
    ∃ result, call.answer = .ok (some result) ∧ result.session = some record := by
  unfold Call.session at issued
  split at issued
  · rename_i result answered
    exact ⟨result, answered, issued⟩
  · cases issued

theorem answer_of_challenge {call : Call} {challenge : Challenge}
    (issued : call.challenge = some challenge) :
    ∃ result, call.answer = .ok (some result) ∧ result.challenge = some challenge := by
  unfold Call.challenge at issued
  split at issued
  · rename_i result answered
    exact ⟨result, answered, issued⟩
  · cases issued

/-- The entry point behind an answered step. -/
theorem map_some_eq {answer : Answer} {after : AuthState} {result : AuthResult}
    (same : answer.map id (Except.map some) = (after, .ok (some result))) :
    answer.1 = after ∧ answer.2 = .ok result := by
  obtain ⟨left, given⟩ := answer
  cases given with
  | error error =>
    have := (Prod.mk.inj same).2
    cases this
  | ok given =>
    obtain ⟨state, answered⟩ := Prod.mk.inj same
    cases answered
    exact ⟨state, rfl⟩

theorem map_none_ne {answer : AuthState × Except AuthError Unit} {after : AuthState}
    {result : AuthResult} :
    answer.map id (Except.map fun _ => (none : Option AuthResult)) ≠ (after, .ok (some result)) := by
  obtain ⟨left, given⟩ := answer
  intro same
  have answered := (Prod.mk.inj same).2
  cases given <;> cases answered

/-! ## What one call issues -/

/-- A challenge comes from a verified password, or carries one of the same user on; one to change a
    password comes behind an accepted code wherever codes are required. -/
theorem challenge_source {call : Call} (ran : call.Ran service) {challenge : Challenge}
    (issued : call.challenge = some challenge) :
    (call.VerifiesPassword service challenge.userId ∧
      (challenge.purpose = .passwordChange → service.settings.mfaRequired = false)) ∨
    ∃ given, call.presented = some given ∧ given.userId = challenge.userId ∧
      (challenge.purpose = .passwordChange → call.AcceptsCode service) := by
  obtain ⟨result, answered, carried⟩ := answer_of_challenge issued
  unfold Call.Ran at ran
  rw [answered] at ran
  cases op : call.op with
  | signIn username password =>
    rw [op] at ran
    obtain ⟨left, given⟩ :=
      @map_some_eq (signIn service call.before call.context username password) _ _ ran
    obtain ⟨saved, user, accepted, same⟩ := signIn_of_issues
      ⟨result, given, Or.inr (by rw [carried]; exact Option.some_ne_none _)⟩
    rw [same] at given
    obtain ⟨owner, required⟩ := (afterPassword_result given).2 challenge carried
    obtain ⟨found, listed, id, valid⟩ := accepted.verified
    exact Or.inl ⟨⟨username, password, found, op, listed, id.trans owner.symm, valid⟩, required⟩
  | verifyMfa credential code =>
    rw [op] at ran
    obtain ⟨left, given⟩ :=
      @map_some_eq (verifyMfa service call.before call.context credential code) _ _ ran
    obtain ⟨presented, user, secret, rfl, purpose, found, active, enrolled, accepted, same⟩ :=
      verifyMfa_of_issues ⟨result, given, Or.inr (by rw [carried]; exact Option.some_ne_none _)⟩
    rw [same] at given
    obtain ⟨owner, kind⟩ := (issueAfterPrimary_result given).2 challenge carried
    refine Or.inr ⟨presented, by rw [Call.presented, op], ?_, fun _ => Or.inl
      ⟨presented, code, user, secret, op, found, enrolled, accepted⟩⟩
    rw [owner, (KeyedTable.find_eq_some_iff.mp found).2]
  | beginMfaEnrollment credential =>
    rw [op] at ran
    obtain ⟨left, given⟩ :=
      @map_some_eq (beginMfaEnrollment service call.before call.context credential) _ _ ran
    obtain ⟨presented, rfl, purpose, owner, kind⟩ :=
      (beginMfaEnrollment_result given).2 challenge carried
    refine Or.inr ⟨presented, by rw [Call.presented, op], owner.symm, fun change => ?_⟩
    rw [kind] at change
    cases change
  | completeMfaEnrollment credential code =>
    rw [op] at ran
    obtain ⟨left, given⟩ :=
      @map_some_eq (completeMfaEnrollment service call.before call.context credential code) _ _ ran
    obtain ⟨presented, user, secret, rfl, purpose, found, active, enrolling, accepted, same⟩ :=
      completeMfaEnrollment_of_issues
        ⟨result, given, Or.inr (by rw [carried]; exact Option.some_ne_none _)⟩
    rw [same] at given
    obtain ⟨owner, kind⟩ := (issueAfterPrimary_result given).2 challenge carried
    refine Or.inr ⟨presented, by rw [Call.presented, op], ?_, fun _ => Or.inr
      ⟨presented, code, secret, op, enrolling, accepted⟩⟩
    rw [owner]
    exact (KeyedTable.find_eq_some_iff.mp found).2.symm
  | changePassword credential newPassword confirmation =>
    rw [op] at ran
    obtain ⟨left, given⟩ :=
      @map_some_eq (changePassword service call.before call.context credential newPassword
      confirmation) _ _ ran
    obtain ⟨user, checks⟩ := changesFor_of_ok given
    obtain ⟨other, record, again, _, none, _⟩ := changePassword_of_changesFor checks
    cases Except.ok.inj (given.symm.trans again)
    rw [none] at carried
    cases carried
  | deactivateUser userId refusal lastAdministrator =>
    rw [op] at ran
    exact absurd ran (@map_none_ne (deactivateUser call.before call.context userId refusal
      lastAdministrator) _ _)
  | resetPassword userId refusal password =>
    rw [op] at ran
    exact absurd ran (@map_none_ne (resetPassword service call.before call.context userId refusal password) _ _)

/-- A session comes from a call that has verified the password and needs no code, that was given an
    accepted code for a challenge of an active user, or that has changed the password. -/
theorem session_source {call : Call} (ran : call.Ran service) {record : SessionRecord}
    (issued : call.session = some record) :
    (∃ user, call.ChangesFor service user ∧ user.id = record.userId) ∨
    (∃ user, call.after.users.find record.userId = some user ∧ user.isActive = true ∧
        user.mustChangePassword = false) ∧
      ((call.VerifiesPassword service record.userId ∧ service.settings.mfaRequired = false) ∨
        ∃ given, call.presented = some given ∧ given.userId = record.userId ∧
          call.AcceptsCode service) := by
  obtain ⟨result, answered, carried⟩ := answer_of_session issued
  unfold Call.Ran at ran
  rw [answered] at ran
  cases op : call.op with
  | signIn username password =>
    rw [op] at ran
    obtain ⟨left, given⟩ :=
      @map_some_eq (signIn service call.before call.context username password) _ _ ran
    obtain ⟨saved, user, accepted, same⟩ := signIn_of_issues
      ⟨result, given, Or.inl (by rw [carried]; exact Option.some_ne_none _)⟩
    rw [same] at given left
    obtain ⟨required, owner, must, users⟩ := (afterPassword_result given).1 record carried
    obtain ⟨found, listed, id, valid⟩ := accepted.verified
    refine Or.inr ⟨⟨user, ?_, accepted.active, must⟩,
      Or.inl ⟨⟨username, password, found, op, listed, id.trans owner.symm, valid⟩, required⟩⟩
    rw [← left, users, owner]
    exact accepted.stored
  | verifyMfa credential code =>
    rw [op] at ran
    obtain ⟨left, given⟩ :=
      @map_some_eq (verifyMfa service call.before call.context credential code) _ _ ran
    obtain ⟨presented, user, secret, rfl, purpose, found, active, enrolled, accepted, same⟩ :=
      verifyMfa_of_issues ⟨result, given, Or.inl (by rw [carried]; exact Option.some_ne_none _)⟩
    rw [same] at given left
    obtain ⟨owner, must, users⟩ := (issueAfterPrimary_result given).1 record carried
    have id := (KeyedTable.find_eq_some_iff.mp found).2
    refine Or.inr ⟨⟨user, ?_, active, must⟩, Or.inr ⟨presented, by rw [Call.presented, op],
      id.symm.trans owner.symm, Or.inl ⟨presented, code, user, secret, op, found, enrolled,
        accepted⟩⟩⟩
    rw [← left, users, owner, id]
    exact found
  | beginMfaEnrollment credential =>
    rw [op] at ran
    obtain ⟨left, given⟩ :=
      @map_some_eq (beginMfaEnrollment service call.before call.context credential) _ _ ran
    rw [(beginMfaEnrollment_result given).1] at carried
    cases carried
  | completeMfaEnrollment credential code =>
    rw [op] at ran
    obtain ⟨left, given⟩ :=
      @map_some_eq (completeMfaEnrollment service call.before call.context credential code) _ _ ran
    obtain ⟨presented, user, secret, rfl, purpose, found, active, enrolling, accepted, same⟩ :=
      completeMfaEnrollment_of_issues
        ⟨result, given, Or.inl (by rw [carried]; exact Option.some_ne_none _)⟩
    rw [same] at given left
    obtain ⟨owner, must, users⟩ := (issueAfterPrimary_result given).1 record carried
    have id := (KeyedTable.find_eq_some_iff.mp found).2
    refine Or.inr ⟨⟨{ user with mfaSecretEnc := some secret }, ?_, active, must⟩, Or.inr ⟨presented, by rw [Call.presented, op],
      id.symm.trans owner.symm, Or.inr ⟨presented, code, secret, op, enrolling, accepted⟩⟩⟩
    rw [← left, users, owner]
    rw [← id] at found
    exact @find_put_self _ user { user with mfaSecretEnc := some secret } found rfl
  | changePassword credential newPassword confirmation =>
    rw [op] at ran
    obtain ⟨left, given⟩ :=
      @map_some_eq (changePassword service call.before call.context credential newPassword
      confirmation) _ _ ran
    obtain ⟨user, checks⟩ := changesFor_of_ok given
    obtain ⟨other, session, again, made, _, owner, _⟩ := changePassword_of_changesFor checks
    cases Except.ok.inj (given.symm.trans again)
    cases Option.some.inj (carried.symm.trans made)
    exact Or.inl ⟨user, ⟨credential, newPassword, confirmation, op, checks⟩, owner.symm⟩
  | deactivateUser userId refusal lastAdministrator =>
    rw [op] at ran
    exact absurd ran (@map_none_ne (deactivateUser call.before call.context userId refusal
      lastAdministrator) _ _)
  | resetPassword userId refusal password =>
    rw [op] at ran
    exact absurd ran (@map_none_ne (resetPassword service call.before call.context userId refusal password) _ _)

/-- A changed password issues a session to its user, who has none to change any more. -/
theorem session_of_changesFor {call : Call} (ran : call.Ran service) {user : UserRecord}
    (changes : call.ChangesFor service user) :
    (∃ record, call.session = some record ∧ record.userId = user.id) ∧
      ∃ changed, call.after.users.find user.id = some changed ∧ changed.isActive = user.isActive ∧
        changed.mustChangePassword = false := by
  obtain ⟨credential, newPassword, confirmation, op, checks⟩ := changes
  obtain ⟨result, record, answered, made, _, owner, users⟩ := changePassword_of_changesFor checks
  unfold Call.Ran at ran
  rw [op] at ran
  have answer : call.answer = .ok (some result) := by
    have second : (changePassword service call.before call.context credential newPassword
      confirmation).2.map some = call.answer := congrArg Prod.snd ran
    rw [answered] at second
    exact second.symm
  have left : (changePassword service call.before call.context credential newPassword
      confirmation).1 = call.after := congrArg Prod.fst ran
  refine ⟨⟨record, ?_, owner⟩, withPassword service user call.context, ?_, rfl, rfl⟩
  · unfold Call.session
    rw [answer]
    exact made
  · rw [← left, users]
    exact find_put_self (find_userFromCredential checks.owner) rfl

/-- What a changed password was presented with. -/
theorem credential_of_changesFor {call : Call} {user : UserRecord}
    (changes : call.ChangesFor service user) :
    call.OfLiveSession service user.id ∨
      ∃ given, call.presented = some given ∧ given.userId = user.id ∧
        given.purpose = .passwordChange := by
  obtain ⟨credential, newPassword, confirmation, op, checks⟩ := changes
  have owner := checks.owner
  unfold userFromCredential at owner
  split at owner
  · rename_i session valid
    have id := (KeyedTable.find_eq_some_iff.mp owner).2
    unfold validateCredential at valid
    cases credential with
    | session cookie =>
      exact Or.inl ⟨cookie, newPassword, confirmation, session, op, valid, id.symm⟩
    | challenge given => cases valid
    | unverified => cases valid
  · split at owner
    · cases owner
    · rename_i given read
      obtain ⟨rfl, purpose⟩ := readChallenge_eq_some read
      have id := (KeyedTable.find_eq_some_iff.mp owner).2
      exact Or.inr ⟨given, by rw [Call.presented, op], id.symm, purpose⟩

/-! ## Runs -/

/-- Every challenge of a run ends a flow of its user, and one to change a password ends a flow with an
    accepted code wherever codes are required. -/
theorem flow_of_issued {trace : List Call} (ran : ∀ call ∈ trace, call.Ran service)
    (unforged : Unforged trace) {call : Call} (member : call ∈ trace) {challenge : Challenge}
    (issued : call.challenge = some challenge) :
    ∃ code, Flow service trace challenge code ∧
      (challenge.purpose = .passwordChange → service.settings.mfaRequired = true → code = true) := by
  induction trace using List.reverseRecOn generalizing call challenge with
  | nil => cases member
  | append_singleton history last ih =>
    have earlier : ∀ call ∈ history, ∀ challenge, call.challenge = some challenge →
        ∃ code, Flow service history challenge code ∧ (challenge.purpose = .passwordChange →
          service.settings.mfaRequired = true → code = true) := by
      intro call member challenge issued
      apply ih (fun other listed => ran other (List.mem_append_left _ listed)) ?_ member issued
      intro front other rest split given presented
      exact unforged front other (rest ++ [last]) (by rw [split]; simp) given presented
    rcases List.mem_append.mp member with before | isLast
    · obtain ⟨code, flow, behind⟩ := earlier call before challenge issued
      exact ⟨code, .later flow, behind⟩
    · rw [List.mem_singleton] at isLast
      subst isLast
      rcases challenge_source (ran call member) issued with ⟨verified, free⟩ | carried
      · refine ⟨false, .primary verified issued, fun change required => ?_⟩
        rw [free change] at required
        cases required
      · obtain ⟨given, presented, same, accepted⟩ := carried
        obtain ⟨first, listed, signed⟩ := unforged history call [] rfl given presented
        obtain ⟨code, flow, _⟩ := earlier first listed given signed
        by_cases change : challenge.purpose = .passwordChange
        · exact ⟨true, .confirmed flow presented same (accepted change) issued, fun _ _ => rfl⟩
        · exact ⟨code, .carried flow presented same issued, fun purpose => absurd purpose change⟩

/-- A call that presents a challenge among past calls presents the end of a flow. -/
theorem flow_of_presented {history rest : List Call} {call : Call}
    (ran : ∀ other ∈ history ++ call :: rest, other.Ran service)
    (unforged : Unforged (history ++ call :: rest)) {given : Challenge}
    (presented : call.presented = some given) :
    ∃ code, Flow service history given code ∧
      (given.purpose = .passwordChange → service.settings.mfaRequired = true → code = true) := by
  obtain ⟨first, listed, signed⟩ := unforged history call rest rfl given presented
  apply flow_of_issued (fun other member => ran other (List.mem_append_left _ member)) ?_ listed signed
  intro front other later split challenge shown
  exact unforged front other (later ++ call :: rest) (by rw [split]; simp) challenge shown

/-- A session goes to an entitled user; but for a changed password they are active. -/
theorem entitled_of_session {history rest : List Call} {call : Call}
    (ran : ∀ other ∈ history ++ call :: rest, other.Ran service)
    (unforged : Unforged (history ++ call :: rest)) {record : SessionRecord}
    (issued : call.session = some record)
    (active : ∀ user, call.ChangesFor service user → user.isActive = true) :
    (∃ user, call.after.users.find record.userId = some user ∧ user.isActive = true ∧
      user.mustChangePassword = false) ∧ Entitled service history call record.userId := by
  have here := ran call (List.mem_append_right _ List.mem_cons_self)
  rcases session_source here issued with ⟨user, changes, owner⟩ | ⟨user, direct | carried⟩
  · obtain ⟨_, changed, stored, kept, free⟩ := session_of_changesFor here changes
    rw [owner] at stored
    refine ⟨⟨changed, stored, kept.trans (active user changes), free⟩, ?_⟩
    rcases credential_of_changesFor changes with live | ⟨given, presented, same, purpose⟩
    · rw [owner] at live
      exact Or.inl live
    · obtain ⟨code, flow, behind⟩ := flow_of_presented ran unforged presented
      exact Or.inr (Or.inr ⟨given, code, presented, same.trans owner, flow,
        fun required => Or.inl (behind purpose required)⟩)
  · exact ⟨user, Or.inr (Or.inl direct)⟩
  · obtain ⟨given, presented, same, accepted⟩ := carried
    obtain ⟨code, flow, _⟩ := flow_of_presented ran unforged presented
    exact ⟨user, Or.inr (Or.inr ⟨given, code, presented, same, flow, fun _ => Or.inr accepted⟩)⟩

/-- In every order of calls, from any stored users and sessions, each session goes to an active user
    without a password to change, from a call entitled to it, exactly if every changed password that
    passes the checks is of an active user. -/
theorem guarded_iff_changes_active (service : AuthService) (state : AuthState)
    (ops : List (CallContext × AuthOp)) (unforged : Unforged (calls service state ops)) :
    Guarded service (calls service state ops) ↔
      ∀ call ∈ calls service state ops, ∀ user, call.ChangesFor service user →
        user.isActive = true := by
  have ran : ∀ call ∈ calls service state ops, call.Ran service := fun call => ran_of_mem_calls
  constructor
  · intro guarded call member user changes
    obtain ⟨history, rest, split⟩ := List.append_of_mem member
    obtain ⟨⟨record, issued, owner⟩, changed, stored, kept, _⟩ :=
      session_of_changesFor (ran call member) changes
    obtain ⟨⟨found, listed, active, _⟩, _⟩ := guarded history call rest split record issued
    rw [owner, stored] at listed
    cases listed
    exact kept.symm.trans active
  · intro active history call rest split record issued
    have member : call ∈ calls service state ops := by
      rw [split]
      simp
    rw [split] at ran unforged
    exact entitled_of_session ran unforged issued (active call member)

end

/-! ## A user who has to change their password -/

theorem flowDay_valid : 1 ≤ 2026 ∧ 2026 ≤ 9999 ∧ 1 ≤ 6 ∧ 6 ≤ 12 ∧
    1 ≤ 1 ∧ 1 ≤ daysInMonth 2026 6 := by decide

theorem flowStart_inDay : 43200 * 10 ^ 6 < dayMicroseconds := by decide

theorem flowEnd_inDay : 43800 * 10 ^ 6 < dayMicroseconds := by decide

/-- Noon of 1 June 2026. -/
def flowStart : UtcInstant := ⟨⟨2026, 6, 1, flowDay_valid⟩, 43200 * 10 ^ 6, flowStart_inDay⟩

/-- Ten minutes later. -/
def flowEnd : UtcInstant := ⟨⟨2026, 6, 1, flowDay_valid⟩, 43800 * 10 ^ 6, flowEnd_inDay⟩

theorem halfHour_positive : (0 : Int) < 1800 * 10 ^ 6 := by decide

theorem halfHour_ordered : (1800 * 10 ^ 6 : Int) ≤ 28800 * 10 ^ 6 := by decide

/-- Sessions of half an hour, with readable digests. -/
def flowSessions : SessionManager := {
  settings := ⟨1800 * 10 ^ 6, 28800 * 10 ^ 6, halfHour_positive, halfHour_ordered⟩
  tokenHash := id
  clientHash := id }

theorem five_attempts : (1 : Int) ≤ 5 := by decide

theorem lockout_positive : (0 : Int) < 900 * 10 ^ 6 := by decide

theorem withoutMfa_configured {mfa : Option (Text → Text → UtcInstant → Bool)}
    (required : false = true) : mfa ≠ none := by
  cases required

/-- A service without a second factor, over hashes that are the passwords. -/
def flowService : AuthService where
  settings := ⟨5, 900 * 10 ^ 6, false, five_attempts, lockout_positive⟩
  sessions := flowSessions
  challengeTimeout := 600 * 10 ^ 6
  passwords := {
    policy := {}
    classes := ⟨Char.isUpper, Char.isLower, Char.isDigit, Char.isAlphanum, Text.isSpace⟩
    matchesHash := fun hash password => decide (hash = password)
    checkNeedsRehash := fun _ => false }
  mfa := none
  casefold := Text.lower
  configured := withoutMfa_configured

/-- A user with a password to change. -/
def newUser : UserRecord where
  id := Uuid.ofInt 1
  username := "meera".toList
  passwordHash := some "initial".toList
  mustChangePassword := true

theorem newUser_distinct : ([newUser].map UserRecord.id).Nodup := List.nodup_singleton _

def flowState : AuthState where
  users := ⟨[newUser], newUser_distinct⟩
  sessions := KeyedTable.empty
  claimed := []

/-- A call at noon. -/
def atFlowStart : CallContext where
  readAt := flowStart
  challengeReadAt := flowStart
  claimedAt := flowStart
  checkedAt := flowStart
  changedAt := flowStart
  revokedAt := flowStart
  issuedAt := flowStart
  sessionId := Uuid.ofInt 2
  rawToken := "token".toList
  nonce := "nonce".toList
  passwordHash := "Correct-Horse-9".toList
  encryptedSecret := []
  ipAddress := none
  userAgent := none

/-- The challenge the sign-in hands out. -/
def changeChallenge : Challenge :=
  ⟨Uuid.ofInt 1, .passwordChange, flowStart, flowEnd, none, "nonce".toList⟩

/-- The sign-in. -/
def signsIn : CallContext × AuthOp := (atFlowStart, .signIn "meera".toList "initial".toList)

/-- The change of the password. -/
def changes : CallContext × AuthOp :=
  (atFlowStart, .changePassword (.challenge changeChallenge) "Correct-Horse-9".toList none)

/-- The user is deactivated. -/
def deactivates : CallContext × AuthOp := (atFlowStart, .deactivateUser (Uuid.ofInt 1) none false)

/-- The sign-in as a call. -/
def signedIn : Call :=
  let left := step flowService flowState atFlowStart (.signIn "meera".toList "initial".toList)
  ⟨flowState, atFlowStart, .signIn "meera".toList "initial".toList, left.1, left.2⟩

theorem challenge_signedIn : signedIn.challenge = some changeChallenge := by decide

/-- In a run from a sign-in only the change of the password presents a challenge. -/
theorem unforged_of_signedIn {others : List Call}
    (later : ∀ call ∈ others, ∀ challenge, call.presented = some challenge →
      challenge = changeChallenge) : Unforged (signedIn :: others) := by
  intro history call rest split challenge presented
  cases history with
  | nil =>
    cases (List.cons.inj split).1
    cases presented
  | cons first history =>
    obtain ⟨head, tail⟩ := List.cons.inj split
    have member : call ∈ others := by
      rw [tail]
      simp
    rw [later call member challenge presented, ← head]
    exact ⟨signedIn, List.mem_cons_self, challenge_signedIn⟩

/-- `guarded_iff_changes_active` on a sign-in and a change of the password. -/
theorem guarded_signsIn_changes : Guarded flowService (calls flowService flowState [signsIn, changes]) := by
  have unforged : Unforged (calls flowService flowState [signsIn, changes]) := by
    apply unforged_of_signedIn
    intro call member challenge presented
    rw [List.mem_singleton.mp member] at presented
    cases presented
    rfl
  apply (guarded_iff_changes_active flowService flowState [signsIn, changes] unforged).mpr
  intro call member user changesFor
  obtain ⟨credential, newPassword, confirmation, op, checks⟩ := changesFor
  have found : (userFromCredential flowService signedIn.after atFlowStart
      (.challenge changeChallenge)).1.map UserRecord.isActive = some true := by decide
  rcases List.mem_cons.mp member with rfl | member
  · cases op
  · rw [List.mem_singleton.mp member] at op checks
    cases op
    have owner := checks.owner
    obtain ⟨other, same, active⟩ := Option.map_eq_some_iff.mp found
    cases owner.symm.trans same
    exact active

/-- A user who is deactivated between the sign-in and the change of the password gets a session. -/
theorem not_guarded_deactivated :
    ¬ ∀ (service : AuthService) (state : AuthState) (ops : List (CallContext × AuthOp)),
      Unforged (calls service state ops) → Guarded service (calls service state ops) := by
  intro always
  have unforged : Unforged (calls flowService flowState [signsIn, deactivates, changes]) := by
    apply unforged_of_signedIn
    intro call member challenge presented
    rcases List.mem_pair.mp member with rfl | rfl
    · cases presented
    · cases presented
      rfl
  have guarded := always flowService flowState [signsIn, deactivates, changes] unforged
  have inactive : (calls flowService flowState [signsIn, deactivates, changes])[2]?.bind (fun call =>
      call.session.bind fun record =>
        (call.after.users.find record.userId).map UserRecord.isActive) = some false := by
    decide
  obtain ⟨call, third, inactive⟩ := Option.bind_eq_some_iff.mp inactive
  obtain ⟨record, issued, inactive⟩ := Option.bind_eq_some_iff.mp inactive
  obtain ⟨user, stored, inactive⟩ := Option.map_eq_some_iff.mp inactive
  obtain ⟨history, rest, split⟩ := List.append_of_mem (List.mem_of_getElem? third)
  obtain ⟨⟨other, listed, active, _⟩, _⟩ := guarded history call rest split record issued
  cases stored.symm.trans listed
  rw [inactive] at active
  cases active

end Auth

end CovenantRadar
