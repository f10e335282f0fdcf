import CovenantRadar.Auth.Service

/-!
# What a call that issues has checked

Each entry point ends in a session or a challenge in one place. What was checked on the way there is
stated once for each, and with it the user as the call leaves them.
-/

namespace CovenantRadar

namespace Auth

open Sessions

variable {service : AuthService}

/-! ## Writing a user -/

theorem find_findByUsername {users : UserStore} {username : Text} {user : UserRecord}
    (found : findByUsername users username = some user) : users.find user.id = some user :=
  KeyedTable.find_of_mem (List.mem_of_find?_eq_some found)

theorem find_put_self {users : UserStore} {old new : UserRecord}
    (present : users.find old.id = some old) (same : new.id = old.id) :
    (users.put new).find old.id = some new := by
  have there : users.find new.id = some old := by rw [same]; exact present
  rw [KeyedTable.find_put there, if_pos same.symm]

theorem find_saveChanged {users : UserStore} {old new : UserRecord}
    (present : users.find old.id = some old) (same : new.id = old.id) :
    (saveChanged users old new).find old.id = some new := by
  unfold saveChanged
  split_ifs with unchanged
  · rw [unchanged]
    exact present
  · exact find_put_self present same

theorem id_unlocked (user : UserRecord) : (unlocked user).id = user.id := by
  unfold unlocked
  split_ifs <;> rfl

/-! ## The end of a sign-in -/

/-- What an answer issues. -/
def Issues (answer : Answer) : Prop :=
  ∃ result, answer.2 = .ok result ∧ (result.session ≠ none ∨ result.challenge ≠ none)

theorem challengeAnswer_session {before state : AuthState} {context : CallContext}
    {status : AuthStatus} {purpose : Purpose} {userId : Uuid} {now : UtcInstant}
    {result : AuthResult}
    (answered : (challengeAnswer service before state context status purpose userId now).2 =
      .ok result) :
    result.session = none ∧ ∀ challenge ∈ result.challenge,
      challenge.userId = userId ∧ challenge.purpose = purpose := by
  unfold challengeAnswer at answered
  cases issued : issueChallenge service.challengeTimeout userId purpose none context.nonce now with
  | none => simp only [issued, reduceCtorEq] at answered
  | some challenge =>
    simp only [issued, Except.ok.injEq] at answered
    subst answered
    refine ⟨rfl, fun given same => ?_⟩
    cases same
    exact issueChallenge_eq_some issued

theorem issueSession_eq_ok {state : AuthState} {context : CallContext} {userId : Uuid}
    {now : UtcInstant} {issued : AuthState × SessionRecord}
    (done : issueSession service state context userId now = .ok issued) :
    issued.1.users = state.users ∧ issued.2.userId = userId := by
  unfold issueSession at done
  cases made : newSession service.sessions context.sessionId userId context.rawToken
    context.ipAddress context.userAgent now with
  | none => simp only [made, reduceCtorEq] at done
  | some record =>
    simp only [made] at done
    cases stored : create state.sessions record with
    | none => simp only [stored, reduceCtorEq] at done
    | some sessions =>
      simp only [stored, Except.ok.injEq] at done
      subst done
      refine ⟨rfl, ?_⟩
      unfold newSession at made
      obtain ⟨absolute, _, made⟩ := Option.bind_eq_some_iff.mp made
      obtain ⟨idle, _, made⟩ := Option.bind_eq_some_iff.mp made
      cases made
      rfl

/-- A session is issued to a user who has no password to change; a user who has gets a challenge. -/
theorem issueAfterPrimary_result {before state : AuthState} {context : CallContext}
    {user : UserRecord} {now : UtcInstant} {result : AuthResult}
    (answered : (issueAfterPrimary service before state context user now).2 = .ok result) :
    (∀ record ∈ result.session, record.userId = user.id ∧ user.mustChangePassword = false ∧
        (issueAfterPrimary service before state context user now).1.users = state.users) ∧
      ∀ challenge ∈ result.challenge,
        challenge.userId = user.id ∧ challenge.purpose = .passwordChange := by
  unfold issueAfterPrimary at answered ⊢
  cases must : user.mustChangePassword with
  | true =>
    simp only [must, if_true] at answered ⊢
    obtain ⟨noSession, challenge⟩ := challengeAnswer_session answered
    refine ⟨fun record issued => ?_, challenge⟩
    rw [noSession] at issued
    cases issued
  | false =>
    simp only [must, Bool.false_eq_true, if_false] at answered ⊢
    cases done : issueSession service state context user.id now with
    | error error => simp only [done, reduceCtorEq] at answered
    | ok issued =>
      simp only [done, Except.ok.injEq] at answered
      subst answered
      obtain ⟨users, owner⟩ := issueSession_eq_ok done
      refine ⟨fun record same => ?_, nofun⟩
      cases same
      exact ⟨owner, trivial, users⟩

/-! ## Signing in -/

/-- The users a sign-in leaves, before anything is issued. -/
structure PasswordAccepted (service : AuthService) (state : AuthState) (username password : Text)
    (saved : AuthState) (user : UserRecord) : Prop where
  verified : ∃ found, findByUsername state.users (normaliseUsername service username) = some found ∧
    found.id = user.id ∧ (service.passwords.verify password found.passwordHash).valid = true
  stored : saved.users.find user.id = some user
  active : user.isActive = true

/-- A sign-in that issues has found an active user and verified their password. -/
theorem signIn_of_issues {state : AuthState} {context : CallContext} {username password : Text}
    (issues : Issues (signIn service state context username password)) :
    ∃ saved user, PasswordAccepted service state username password saved user ∧
      signIn service state context username password =
        afterPassword service state saved context user context.readAt := by
  obtain ⟨result, answered, some'⟩ := issues
  have notFailed : result ≠ failedResult := by
    rintro rfl
    rcases some' with absurdity | absurdity <;> exact absurdity rfl
  unfold signIn at answered ⊢
  cases found : findByUsername state.users (normaliseUsername service username) with
  | none =>
    simp only [found, Except.ok.injEq] at answered
    exact absurd answered.symm notFailed
  | some user =>
    simp only [found] at answered ⊢
    split_ifs at answered ⊢ with locked inactive invalid
    · exact absurd (Except.ok.inj answered).symm notFailed
    · exact absurd (Except.ok.inj answered).symm notFailed
    · split at answered
      · cases answered
      · exact absurd (Except.ok.inj answered).symm notFailed
    · have opened := find_saveChanged (find_findByUsername found) (id_unlocked user)
      rw [← id_unlocked user] at opened
      refine ⟨_, afterAcceptance (unlocked user)
        (service.passwords.verify password user.passwordHash).needsRehash context,
        ⟨⟨user, found, (id_unlocked user).symm, by simpa using invalid⟩, ?_, ?_⟩, rfl⟩
      · exact find_saveChanged opened rfl
      · have active : (unlocked user).isActive = true := by simpa using inactive
        exact active

/-- What the end of a sign-in issues. -/
theorem afterPassword_result {before saved : AuthState} {context : CallContext} {user : UserRecord}
    {now : UtcInstant} {result : AuthResult}
    (answered : (afterPassword service before saved context user now).2 = .ok result) :
    (∀ record ∈ result.session, service.settings.mfaRequired = false ∧ record.userId = user.id ∧
        user.mustChangePassword = false ∧
        (afterPassword service before saved context user now).1.users = saved.users) ∧
      ∀ challenge ∈ result.challenge, challenge.userId = user.id ∧
        (challenge.purpose = .passwordChange → service.settings.mfaRequired = false) := by
  unfold afterPassword at answered ⊢
  cases required : service.settings.mfaRequired with
  | true =>
    simp only [required, if_true] at answered ⊢
    split_ifs at answered ⊢
    all_goals
      obtain ⟨noSession, challenge⟩ := challengeAnswer_session answered
      refine ⟨fun record issued => ?_, fun given same => ?_⟩
      · rw [noSession] at issued
        cases issued
      · obtain ⟨owner, purpose⟩ := challenge given same
        refine ⟨owner, fun change => ?_⟩
        rw [purpose] at change
        cases change
  | false =>
    simp only [required, Bool.false_eq_true, if_false] at answered ⊢
    obtain ⟨session, challenge⟩ := issueAfterPrimary_result answered
    exact ⟨fun record issued => ⟨trivial, session record issued⟩,
      fun given same => ⟨(challenge given same).1, fun _ => trivial⟩⟩

/-! ## The second factor -/

/-- A completion that issues has had its code accepted. -/
theorem withCode_of_issues {state : AuthState} {context : CallContext} {challenge : Challenge}
    {secret code : Text} {next : AuthState → Answer}
    (issues : Issues (withCode service state context challenge secret code next)) :
    accepts service secret code context.checkedAt = true ∧
      withCode service state context challenge secret code next =
        next { state with claimed := claim state.claimed challenge context.claimedAt } := by
  obtain ⟨result, answered, some'⟩ := issues
  have notFailed : result ≠ mfaFailure := by
    rintro rfl
    rcases some' with absurdity | absurdity <;> exact absurdity rfl
  unfold withCode at answered ⊢
  simp only at answered ⊢
  split_ifs at answered ⊢ with replayed rejected
  · exact absurd (Except.ok.inj answered).symm notFailed
  · exact absurd (Except.ok.inj answered).symm notFailed
  · exact ⟨by simpa using rejected, rfl⟩

theorem not_issues_mfaFailure {state : AuthState} : ¬ Issues (state, .ok mfaFailure) := by
  rintro ⟨result, answered, some'⟩
  cases answered
  rcases some' with absurdity | absurdity <;> exact absurdity rfl

/-- A verification that issues is of an active user, whose own secret accepted the code. -/
theorem verifyMfa_of_issues {state : AuthState} {context : CallContext} {credential : Credential}
    {code : Text} (issues : Issues (verifyMfa service state context credential code)) :
    ∃ challenge user secret, credential = .challenge challenge ∧ challenge.purpose = .mfa ∧
      state.users.find challenge.userId = some user ∧ user.isActive = true ∧
      user.mfaSecretEnc = some secret ∧ accepts service secret code context.checkedAt = true ∧
      verifyMfa service state context credential code =
        issueAfterPrimary service state
          { state with claimed := claim state.claimed challenge context.claimedAt } context user
          context.issuedAt := by
  unfold verifyMfa at issues ⊢
  cases read : readChallenge credential .mfa context.challengeReadAt with
  | none =>
    simp only [read] at issues
    exact absurd issues not_issues_mfaFailure
  | some challenge =>
    simp only [read] at issues ⊢
    obtain ⟨presented, purpose⟩ := readChallenge_eq_some read
    cases found : state.users.find challenge.userId with
    | none =>
      simp only [found] at issues
      exact absurd issues not_issues_mfaFailure
    | some user =>
      simp only [found] at issues ⊢
      split_ifs at issues ⊢ with inactive
      · exact absurd issues not_issues_mfaFailure
      · cases enrolled : user.mfaSecretEnc with
        | none =>
          simp only [enrolled] at issues
          exact absurd issues not_issues_mfaFailure
        | some secret =>
          simp only [enrolled] at issues ⊢
          obtain ⟨accepted, next⟩ := withCode_of_issues issues
          exact ⟨challenge, user, secret, presented, purpose, found, by simpa using inactive,
            enrolled, accepted, next⟩

/-- A completed enrolment that issues is of an active user, and the secret of the challenge accepted
    the code. -/
theorem completeMfaEnrollment_of_issues {state : AuthState} {context : CallContext}
    {credential : Credential} {code : Text}
    (issues : Issues (completeMfaEnrollment service state context credential code)) :
    ∃ challenge user secret, credential = .challenge challenge ∧
      challenge.purpose = .mfaEnrollment ∧ state.users.find challenge.userId = some user ∧
      user.isActive = true ∧ challenge.encryptedSecret = some secret ∧
      accepts service secret code context.checkedAt = true ∧
      completeMfaEnrollment service state context credential code =
        issueAfterPrimary service state
          { state with
            users := state.users.put { user with mfaSecretEnc := some secret }
            claimed := claim state.claimed challenge context.claimedAt } context
          { user with mfaSecretEnc := some secret } context.issuedAt := by
  unfold completeMfaEnrollment at issues ⊢
  cases read : readChallenge credential .mfaEnrollment context.challengeReadAt with
  | none =>
    simp only [read] at issues
    exact absurd issues not_issues_mfaFailure
  | some challenge =>
    simp only [read] at issues ⊢
    obtain ⟨presented, purpose⟩ := readChallenge_eq_some read
    cases found : state.users.find challenge.userId with
    | none =>
      simp only [found] at issues
      exact absurd issues not_issues_mfaFailure
    | some user =>
      simp only [found] at issues ⊢
      split_ifs at issues ⊢ with inactive
      · exact absurd issues not_issues_mfaFailure
      · cases carried : challenge.encryptedSecret with
        | none =>
          simp only [carried] at issues
          exact absurd issues not_issues_mfaFailure
        | some secret =>
          simp only [carried] at issues ⊢
          obtain ⟨accepted, next⟩ := withCode_of_issues issues
          exact ⟨challenge, user, secret, presented, purpose, found, by simpa using inactive,
            carried, accepted, next⟩

/-- A begun enrolment that issues hands its challenge on, for the same purpose. -/
theorem beginMfaEnrollment_result {state : AuthState} {context : CallContext}
    {credential : Credential} {result : AuthResult}
    (answered : (beginMfaEnrollment service state context credential).2 = .ok result) :
    result.session = none ∧ ∀ refreshed ∈ result.challenge, ∃ challenge,
      credential = .challenge challenge ∧ challenge.purpose = .mfaEnrollment ∧
        refreshed.userId = challenge.userId ∧ refreshed.purpose = .mfaEnrollment := by
  unfold beginMfaEnrollment at answered
  cases read : readChallenge credential .mfaEnrollment context.challengeReadAt with
  | none => simp only [read, reduceCtorEq] at answered
  | some challenge =>
    obtain ⟨presented, purpose⟩ := readChallenge_eq_some read
    simp only [read] at answered
    cases found : state.users.find challenge.userId with
    | none => simp only [found, reduceCtorEq] at answered
    | some user =>
      have owner : user.id = challenge.userId := (KeyedTable.find_eq_some_iff.mp found).2
      simp only [found] at answered
      split_ifs at answered
      cases issued : issueChallenge service.challengeTimeout user.id .mfaEnrollment
        (some context.encryptedSecret) context.nonce context.issuedAt with
      | none => simp only [issued, reduceCtorEq] at answered
      | some refreshed =>
        simp only [issued, Except.ok.injEq] at answered
        subst answered
        refine ⟨rfl, fun given same => ?_⟩
        cases same
        obtain ⟨user', kind⟩ := issueChallenge_eq_some issued
        exact ⟨challenge, presented, purpose, user'.trans owner, kind⟩

/-! ## Changing the password -/

/-- The checks of `change_password` pass for a user: the credential is theirs, the confirmation is the
    new password, the challenge is not claimed, the password is acceptable, and the session can be
    stored. -/
structure ChangesFor (service : AuthService) (state : AuthState) (context : CallContext)
    (credential : Credential) (newPassword : Text) (confirmation : Option Text)
    (user : UserRecord) : Prop where
  owner : (userFromCredential service state context credential).1 = some user
  confirmed : ∀ text ∈ confirmation, text = newPassword
  unclaimed : ∀ challenge ∈ (userFromCredential service state context credential).2,
    claimable state.claimed challenge.nonce context.claimedAt = true
  acceptable : validateNewPassword service.passwords newPassword (previousHashes user) = .ok ()
  storable : ∃ record, newSession service.sessions context.sessionId user.id context.rawToken
    context.ipAddress context.userAgent context.issuedAt = some record ∧
      state.sessions.find record.tokenHash = none

theorem find_userFromCredential {state : AuthState} {context : CallContext}
    {credential : Credential} {user : UserRecord}
    (owner : (userFromCredential service state context credential).1 = some user) :
    state.users.find user.id = some user := by
  have byId : ∀ {id : Uuid}, state.users.find id = some user → state.users.find user.id = some user := by
    intro id found
    rw [(KeyedTable.find_eq_some_iff.mp found).2]
    exact found
  unfold userFromCredential at owner
  split at owner
  · exact byId owner
  · split at owner
    · cases owner
    · exact byId owner

/-- The session of a changed password can be stored exactly if its digest is new. -/
theorem issueSession_changed_iff {state : AuthState} {context : CallContext} {user : UserRecord}
    {claimed : ReplayStore} :
    (∃ issued, issueSession service (changed service { state with claimed := claimed } context user)
        context user.id context.issuedAt = .ok issued) ↔
      ∃ record, newSession service.sessions context.sessionId user.id context.rawToken
        context.ipAddress context.userAgent context.issuedAt = some record ∧
          state.sessions.find record.tokenHash = none := by
  unfold issueSession
  cases made : newSession service.sessions context.sessionId user.id context.rawToken
    context.ipAddress context.userAgent context.issuedAt with
  | none => simp
  | some record =>
    have fresh : (revokeAllIn state.sessions user.id context.revokedAt).find record.tokenHash = none ↔
        state.sessions.find record.tokenHash = none := by
      rw [revokeAllIn, KeyedTable.find_update, Option.map_eq_none_iff]
    simp only [changed, create, Option.some.injEq, exists_eq_left']
    rw [← fresh]
    split_ifs with new <;> simp [new]

theorem confirmation_any_iff {newPassword : Text} {confirmation : Option Text} :
    (confirmation.any fun text => decide (text ≠ newPassword)) = false ↔
      ∀ text ∈ confirmation, text = newPassword := by
  cases confirmation <;> simp

theorem challenge_any_iff {claimed : ReplayStore} {instant : UtcInstant}
    {challenge : Option Challenge} :
    (challenge.any fun challenge => !claimable claimed challenge.nonce instant) = false ↔
      ∀ given ∈ challenge, claimable claimed given.nonce instant = true := by
  cases challenge <;> simp

/-- What the change of a password does once the challenge is claimed. -/
theorem applyChange_of_storable {state : AuthState} {context : CallContext} {user : UserRecord}
    {challenge : Option Challenge} {newPassword : Text}
    (acceptable : validateNewPassword service.passwords newPassword (previousHashes user) = .ok ())
    (storable : ∃ record, newSession service.sessions context.sessionId user.id context.rawToken
      context.ipAddress context.userAgent context.issuedAt = some record ∧
        state.sessions.find record.tokenHash = none) :
    ∃ result record, (applyChange service state context user challenge newPassword).2 = .ok result ∧
      result.session = some record ∧ result.challenge = none ∧ record.userId = user.id ∧
      (applyChange service state context user challenge newPassword).1.users =
        state.users.put (withPassword service user context) := by
  unfold applyChange
  obtain ⟨issued, done⟩ := (@issueSession_changed_iff service state context user
    (challenge.elim state.claimed fun challenge =>
      claim state.claimed challenge context.claimedAt)).mpr storable
  obtain ⟨users, owner⟩ := issueSession_eq_ok done
  simp only [acceptable, done]
  exact ⟨_, issued.2, rfl, rfl, rfl, owner, users⟩

theorem applyChange_of_ok {state : AuthState} {context : CallContext} {user : UserRecord}
    {challenge : Option Challenge} {newPassword : Text} {result : AuthResult}
    (answered : (applyChange service state context user challenge newPassword).2 = .ok result) :
    validateNewPassword service.passwords newPassword (previousHashes user) = .ok () ∧
      ∃ record, newSession service.sessions context.sessionId user.id context.rawToken
        context.ipAddress context.userAgent context.issuedAt = some record ∧
          state.sessions.find record.tokenHash = none := by
  unfold applyChange at answered
  cases acceptable : validateNewPassword service.passwords newPassword (previousHashes user) with
  | error error => simp only [acceptable, reduceCtorEq] at answered
  | ok accepted =>
    refine ⟨rfl, ?_⟩
    simp only [acceptable] at answered
    cases done : issueSession service (changed service { state with
      claimed := challenge.elim state.claimed fun challenge =>
        claim state.claimed challenge context.claimedAt } context user) context user.id
      context.issuedAt with
    | error error => simp only [done, reduceCtorEq] at answered
    | ok issued => exact issueSession_changed_iff.mp ⟨issued, done⟩

/-- A changed password is answered exactly if the checks pass for a user. A session is issued to them,
    and of the users only their password and what goes with it has changed. -/
theorem changePassword_of_changesFor {state : AuthState} {context : CallContext}
    {credential : Credential} {newPassword : Text} {confirmation : Option Text} {user : UserRecord}
    (checks : ChangesFor service state context credential newPassword confirmation user) :
    ∃ result record, (changePassword service state context credential newPassword
        confirmation).2 = .ok result ∧ result.session = some record ∧ result.challenge = none ∧
      record.userId = user.id ∧
      (changePassword service state context credential newPassword confirmation).1.users =
        state.users.put (withPassword service user context) := by
  have confirmed := confirmation_any_iff.mpr checks.confirmed
  have unclaimed := challenge_any_iff.mpr checks.unclaimed
  unfold changePassword
  simp only [checks.owner, confirmed, unclaimed, Bool.false_eq_true, if_false]
  exact applyChange_of_storable checks.acceptable checks.storable

theorem changesFor_of_ok {state : AuthState} {context : CallContext} {credential : Credential}
    {newPassword : Text} {confirmation : Option Text} {result : AuthResult}
    (answered : (changePassword service state context credential newPassword confirmation).2 =
      .ok result) :
    ∃ user, ChangesFor service state context credential newPassword confirmation user := by
  unfold changePassword at answered
  cases owner : (userFromCredential service state context credential).1 with
  | none => simp only [owner, reduceCtorEq] at answered
  | some user =>
    simp only [owner] at answered
    split_ifs at answered with differs claimed
    obtain ⟨acceptable, storable⟩ := applyChange_of_ok answered
    exact ⟨user, owner, confirmation_any_iff.mp (Bool.eq_false_of_not_eq_true differs),
      challenge_any_iff.mp (Bool.eq_false_of_not_eq_true claimed), acceptable, storable⟩

end Auth

end CovenantRadar
