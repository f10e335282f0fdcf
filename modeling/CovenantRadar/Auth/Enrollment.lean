import CovenantRadar.Auth.Runs

/-!
# Enrolling a second factor

`begin_mfa_enrollment` refuses a user who is enrolled; `complete_mfa_enrollment` does not look. Two
challenges begun before either is completed enrol twice, and the second secret replaces the first.
A claim is kept until the deadline of its challenge, so a claim made past it forgets the completion.
-/

namespace CovenantRadar

namespace Auth

open Sessions

/-- The calls of the enrolment flow. -/
inductive AuthOp.OfEnrollment : AuthOp → Prop
  | signIn (username password : Text) : OfEnrollment (.signIn username password)
  | begins (credential : Credential) : OfEnrollment (.beginMfaEnrollment credential)
  | completes (credential : Credential) (code : Text) :
      OfEnrollment (.completeMfaEnrollment credential code)

/-- The secret a user is enrolled with. -/
def Enrolled (users : UserStore) (userId : Uuid) (secret : Text) : Prop :=
  ∃ user, users.find userId = some user ∧ user.mfaSecretEnc = some secret

/-- Of the users in a store, another has the same with the same secrets. -/
def KeepsSecrets (users users' : UserStore) : Prop :=
  ∀ userId secret, Enrolled users userId secret → Enrolled users' userId secret

/-- The call presents a challenge that `complete_mfa_enrollment` accepts, up to its claim. -/
structure Call.Claims (call : Call) (challenge : Challenge) (user : UserRecord)
    (secret code : Text) : Prop where
  op : call.op = .completeMfaEnrollment (.challenge challenge) code
  read : readChallenge (.challenge challenge) .mfaEnrollment call.context.challengeReadAt =
    some challenge
  found : call.before.users.find challenge.userId = some user
  active : user.isActive = true
  carried : challenge.encryptedSecret = some secret

section

variable (service : AuthService)

/-- The claim is granted and the code accepted. -/
structure Call.CompletesFor (call : Call) (challenge : Challenge) (user : UserRecord)
    (secret code : Text) : Prop where
  claims : call.Claims challenge user secret code
  granted : claimable call.before.claimed challenge.nonce call.context.claimedAt = true
  accepted : accepts service secret code call.context.checkedAt = true

/-- The call completes the challenge. -/
def Call.Completes (call : Call) (challenge : Challenge) : Prop :=
  ∃ user secret code, call.CompletesFor service challenge user secret code

/-- The state once a challenge is claimed and its secret saved. -/
def Call.enrolledState (call : Call) (challenge : Challenge) (user : UserRecord) (secret : Text) :
    AuthState where
  users := call.before.users.put { user with mfaSecretEnc := some secret }
  sessions := call.before.sessions
  claimed := claim call.before.claimed challenge call.context.claimedAt

/-- What a completion answers once its user is enrolled. -/
def Call.enrolledAnswer (call : Call) (challenge : Challenge) (user : UserRecord) (secret : Text) :
    Answer :=
  issueAfterPrimary service call.before (call.enrolledState challenge user secret) call.context
    { user with mfaSecretEnc := some secret } call.context.issuedAt

/-- A completed challenge carries another secret than the one its user is enrolled with, and what
    follows the enrolment does not raise. -/
def Call.MeetsEnrolled (call : Call) : Prop :=
  ∃ challenge user secret code other result,
    call.CompletesFor service challenge user secret code ∧
    user.mfaSecretEnc = some other ∧ other ≠ secret ∧
    (call.enrolledAnswer service challenge user secret).2 = .ok result

/-- Once a completed challenge is presented again, no claim since was read at or past its deadline. -/
def Timely (trace : List Call) : Prop :=
  ∀ history first middle second rest,
    trace = history ++ first :: (middle ++ second :: rest) →
    ∀ challenge user secret code, first.Completes service challenge →
      second.Claims challenge user secret code →
      ∀ call ∈ middle ++ [second], ∀ challenge' user' secret' code',
        call.Claims challenge' user' secret' code' →
          call.context.claimedAt.ticks < challenge.expiresAt.ticks

/-- An enrolled secret is the one enrolled after every later call. -/
def KeepsEnrolled (trace : List Call) : Prop :=
  ∀ history call rest, trace = history ++ call :: rest →
    ∀ later ∈ call :: rest, KeepsSecrets call.before.users later.after.users

/-- No challenge is completed by two calls. -/
def CompletesOnce (trace : List Call) : Prop :=
  ∀ history first middle second rest,
    trace = history ++ first :: (middle ++ second :: rest) →
    ∀ challenge, first.Completes service challenge → ¬ second.Completes service challenge

end

/-! ## What a call does to the secrets -/

section

variable {service : AuthService} {users users' users'' : UserStore}

theorem KeepsSecrets.refl (users : UserStore) : KeepsSecrets users users := fun _ _ same => same

theorem KeepsSecrets.trans (first : KeepsSecrets users users')
    (second : KeepsSecrets users' users'') : KeepsSecrets users users'' :=
  fun userId secret held => second userId secret (first userId secret held)

theorem keepsSecrets_put {user new : UserRecord} (present : users.find new.id = some user)
    (kept : ∀ secret, user.mfaSecretEnc = some secret → new.mfaSecretEnc = some secret) :
    KeepsSecrets users (users.put new) := by
  rintro userId secret ⟨held, found, enrolled⟩
  by_cases same : userId = new.id
  · subst same
    cases present.symm.trans found
    exact ⟨new, by rw [KeyedTable.find_put present, if_pos rfl], kept secret enrolled⟩
  · exact ⟨held, by rw [KeyedTable.find_put present, if_neg same]; exact found, enrolled⟩

theorem keepsSecrets_saveChanged {old new : UserRecord} (present : users.find old.id = some old)
    (same : new.id = old.id) (kept : new.mfaSecretEnc = old.mfaSecretEnc) :
    KeepsSecrets users (saveChanged users old new) := by
  unfold saveChanged
  split_ifs
  · exact KeepsSecrets.refl users
  · exact keepsSecrets_put (by rw [same]; exact present) fun secret held => kept.trans held

theorem secret_unlocked (user : UserRecord) : (unlocked user).mfaSecretEnc = user.mfaSecretEnc := by
  unfold unlocked
  split_ifs <;> rfl

/-- An error goes back to the users before the call; an answer keeps those it is given. -/
def LeavesUsers (before state : AuthState) (answer : Answer) : Prop :=
  (∃ error, answer.2 = .error error ∧ answer.1.users = before.users) ∨
    ∃ result, answer.2 = .ok result ∧ answer.1.users = state.users

theorem users_challengeAnswer (before state : AuthState) (context : CallContext)
    (status : AuthStatus) (purpose : Purpose) (userId : Uuid) (now : UtcInstant) :
    LeavesUsers before state
      (challengeAnswer service before state context status purpose userId now) := by
  unfold challengeAnswer
  split
  · exact .inl ⟨_, rfl, rfl⟩
  · exact .inr ⟨_, rfl, rfl⟩

theorem users_issueAfterPrimary (before state : AuthState) (context : CallContext)
    (user : UserRecord) (now : UtcInstant) :
    LeavesUsers before state (issueAfterPrimary service before state context user now) := by
  unfold issueAfterPrimary
  split_ifs
  · exact users_challengeAnswer before state context _ _ _ now
  · cases done : issueSession service state context user.id now with
    | error error => exact .inl ⟨_, rfl, rfl⟩
    | ok issued => exact .inr ⟨_, rfl, (issueSession_eq_ok done).1⟩

theorem users_afterPassword (before saved : AuthState) (context : CallContext)
    (user : UserRecord) (now : UtcInstant) :
    LeavesUsers before saved (afterPassword service before saved context user now) := by
  unfold afterPassword
  split_ifs
  · exact users_challengeAnswer before saved context _ _ _ now
  · exact users_challengeAnswer before saved context _ _ _ now
  · exact users_issueAfterPrimary before saved context user now

/-- Signing in writes no secret. -/
theorem keepsSecrets_signIn (state : AuthState) (context : CallContext) (username password : Text) :
    KeepsSecrets state.users (signIn service state context username password).1.users := by
  unfold signIn
  cases found : findByUsername state.users (normaliseUsername service username) with
  | none => exact KeepsSecrets.refl _
  | some user =>
    have stored := find_findByUsername found
    have opened : KeepsSecrets state.users (saveChanged state.users user (unlocked user)) :=
      keepsSecrets_saveChanged stored (id_unlocked user) (secret_unlocked user)
    have present : (saveChanged state.users user (unlocked user)).find user.id =
        some (unlocked user) := find_saveChanged stored (id_unlocked user)
    simp only
    split_ifs with locked inactive invalid
    · exact KeepsSecrets.refl _
    · exact opened
    · cases rejected : afterRejection service (unlocked user) context.readAt with
      | none => exact KeepsSecrets.refl _
      | some updated =>
        have written : updated.id = user.id ∧
            updated.mfaSecretEnc = (unlocked user).mfaSecretEnc := by
          unfold afterRejection at rejected
          simp only at rejected
          split_ifs at rejected
          · obtain ⟨until', _, rfl⟩ := Option.map_eq_some_iff.mp rejected
            exact ⟨id_unlocked user, rfl⟩
          · cases rejected
            exact ⟨id_unlocked user, rfl⟩
        exact opened.trans (keepsSecrets_put (by rw [written.1]; exact present)
          fun secret held => written.2.trans held)
    · rcases users_afterPassword state _ context _ context.readAt with
        ⟨_, _, back⟩ | ⟨_, _, left⟩
      · rw [back]
        exact KeepsSecrets.refl _
      · rw [left]
        refine opened.trans (keepsSecrets_saveChanged ?_ rfl rfl)
        rw [id_unlocked]
        exact present

theorem beginMfaEnrollment_state (state : AuthState) (context : CallContext)
    (credential : Credential) :
    (beginMfaEnrollment service state context credential).1 = state := by
  unfold beginMfaEnrollment
  cases readChallenge credential .mfaEnrollment context.challengeReadAt with
  | none => rfl
  | some challenge =>
    simp only
    cases state.users.find challenge.userId with
    | none => rfl
    | some user =>
      simp only
      split_ifs
      · rfl
      · rfl
      · rfl
      · cases issueChallenge service.challengeTimeout user.id .mfaEnrollment
          (some context.encryptedSecret) context.nonce context.issuedAt <;> rfl

/-! ## What a call does to the claims -/

theorem claimed_challengeAnswer (before state : AuthState) (context : CallContext)
    (status : AuthStatus) (purpose : Purpose) (userId : Uuid) (now : UtcInstant) :
    (challengeAnswer service before state context status purpose userId now).1.claimed =
      state.claimed := by
  unfold challengeAnswer
  split <;> rfl

theorem claimed_issueAfterPrimary (before state : AuthState) (context : CallContext)
    (user : UserRecord) (now : UtcInstant) :
    (issueAfterPrimary service before state context user now).1.claimed = state.claimed := by
  unfold issueAfterPrimary issueSession
  split_ifs
  · exact claimed_challengeAnswer before state context _ _ _ now
  · cases newSession service.sessions context.sessionId user.id context.rawToken
      context.ipAddress context.userAgent now with
    | none => rfl
    | some record =>
      simp only
      cases create state.sessions record <;> rfl

theorem claimed_signIn (state : AuthState) (context : CallContext) (username password : Text) :
    (signIn service state context username password).1.claimed = state.claimed := by
  unfold signIn
  cases findByUsername state.users (normaliseUsername service username) with
  | none => rfl
  | some user =>
    simp only
    split_ifs
    · rfl
    · rfl
    · cases afterRejection service (unlocked user) context.readAt <;> rfl
    · unfold afterPassword
      split_ifs
      · rw [claimed_challengeAnswer]
      · rw [claimed_challengeAnswer]
      · rw [claimed_issueAfterPrimary]

/-- An entry outlives the claim of another challenge that is read before its deadline. -/
theorem mem_claim {claimed : ReplayStore} {entry : Text × UtcInstant} {challenge : Challenge}
    {instant : UtcInstant} (held : entry ∈ claimed) (early : instant.ticks < entry.2.ticks) :
    entry ∈ claim claimed challenge instant := by
  have kept : entry ∈ unexpired claimed instant :=
    List.mem_filter.mpr ⟨held, decide_eq_true early⟩
  unfold claim
  split_ifs
  · exact List.mem_append_left _ kept
  · exact kept

/-- A claim that is granted is not of the nonce of an entry before its deadline. -/
theorem ne_of_claimable {claimed : ReplayStore} {entry : Text × UtcInstant} {nonce : Text}
    {instant : UtcInstant} (held : entry ∈ claimed) (early : instant.ticks < entry.2.ticks)
    (granted : claimable claimed nonce instant = true) : entry.1 ≠ nonce := by
  have kept : entry ∈ unexpired claimed instant :=
    List.mem_filter.mpr ⟨held, decide_eq_true early⟩
  exact of_decide_eq_true (List.all_eq_true.mp granted entry kept)

theorem mem_claim_self {claimed : ReplayStore} {challenge : Challenge} {instant : UtcInstant}
    (granted : claimable claimed challenge.nonce instant = true) :
    (challenge.nonce, challenge.expiresAt) ∈ claim claimed challenge instant := by
  unfold claim
  rw [if_pos granted]
  exact List.mem_append_right _ (List.mem_singleton_self _)

/-! ## Completions -/

/-- What the three ways out of a claim leave. -/
inductive Call.Settled (service : AuthService) (call : Call) (challenge : Challenge)
    (user : UserRecord) (secret code : Text) : Prop
  | replayed
      (refused : claimable call.before.claimed challenge.nonce call.context.claimedAt = false)
      (left : call.after = { call.before with
        claimed := claim call.before.claimed challenge call.context.claimedAt })
  | rejected
      (granted : claimable call.before.claimed challenge.nonce call.context.claimedAt = true)
      (wrong : accepts service secret code call.context.checkedAt = false)
      (left : call.after = { call.before with
        claimed := release (claim call.before.claimed challenge call.context.claimedAt) challenge })
  | completed (completes : call.CompletesFor service challenge user secret code)
      (left : call.after = (call.enrolledAnswer service challenge user secret).1)

/-- A completion changes nothing before its claim, and settles the claim after it. -/
theorem completion_cases {call : Call} (ran : call.Ran service) {credential : Credential}
    {code : Text} (op : call.op = .completeMfaEnrollment credential code) :
    (call.after = call.before ∧ ∀ challenge user secret code,
        ¬ call.Claims challenge user secret code) ∨
      ∃ challenge user secret, call.Claims challenge user secret code ∧
        call.Settled service challenge user secret code := by
  have left : (completeMfaEnrollment service call.before call.context credential code).1 =
      call.after := by
    unfold Call.Ran at ran
    rw [op] at ran
    exact congrArg Prod.fst ran
  have unclaimed : (∀ challenge user secret code, ¬ call.Claims challenge user secret code) →
      call.before = call.after → (call.after = call.before ∧
        ∀ challenge user secret code, ¬ call.Claims challenge user secret code) :=
    fun none same => ⟨same.symm, none⟩
  unfold completeMfaEnrollment at left
  cases read : readChallenge credential .mfaEnrollment call.context.challengeReadAt with
  | none =>
    simp only [read] at left
    refine .inl (unclaimed (fun challenge user secret code claims => ?_) left)
    cases op.symm.trans claims.op
    rw [claims.read] at read
    cases read
  | some challenge =>
    simp only [read] at left
    obtain ⟨rfl, _⟩ := readChallenge_eq_some read
    have presented : ∀ {challenge' user secret code'},
        call.Claims challenge' user secret code' → challenge' = challenge := by
      intro challenge' user secret code' claims
      cases op.symm.trans claims.op
      rfl
    cases found : call.before.users.find challenge.userId with
    | none =>
      simp only [found] at left
      refine .inl (unclaimed (fun challenge' user secret code claims => ?_) left)
      cases presented claims
      rw [claims.found] at found
      cases found
    | some user =>
      simp only [found] at left
      by_cases inactive : user.isActive = false
      · rw [if_pos inactive] at left
        refine .inl (unclaimed (fun challenge' user' secret code claims => ?_) left)
        cases presented claims
        cases found.symm.trans claims.found
        rw [claims.active] at inactive
        cases inactive
      · rw [if_neg inactive] at left
        cases carried : challenge.encryptedSecret with
        | none =>
          simp only [carried] at left
          refine .inl (unclaimed (fun challenge' user' secret code claims => ?_) left)
          cases presented claims
          rw [claims.carried] at carried
          cases carried
        | some secret =>
          simp only [carried, withCode] at left
          have claims : call.Claims challenge user secret code :=
            ⟨op, read, found, by simpa using inactive, carried⟩
          refine .inr ⟨challenge, user, secret, claims, ?_⟩
          by_cases refused :
              claimable call.before.claimed challenge.nonce call.context.claimedAt = false
          · rw [if_pos refused] at left
            exact .replayed refused left.symm
          · rw [if_neg refused] at left
            have granted := Bool.not_eq_false _ |>.mp refused
            by_cases wrong : accepts service secret code call.context.checkedAt = false
            · rw [if_pos wrong] at left
              exact .rejected granted wrong left.symm
            · rw [if_neg wrong] at left
              exact .completed ⟨claims, granted, Bool.not_eq_false _ |>.mp wrong⟩ left.symm

theorem after_of_completesFor {call : Call} (ran : call.Ran service) {challenge : Challenge}
    {user : UserRecord} {secret code : Text}
    (completes : call.CompletesFor service challenge user secret code) :
    call.after = (call.enrolledAnswer service challenge user secret).1 := by
  rcases completion_cases ran completes.claims.op with
    ⟨_, unclaimed⟩ | ⟨challenge', user', secret', claims, settled⟩
  · exact absurd completes.claims (unclaimed _ _ _ _)
  · cases completes.claims.op.symm.trans claims.op
    cases completes.claims.found.symm.trans claims.found
    cases completes.claims.carried.symm.trans claims.carried
    cases settled with
    | replayed refused _ =>
      rw [completes.granted] at refused
      cases refused
    | rejected _ wrong _ =>
      rw [completes.accepted] at wrong
      cases wrong
    | completed _ left => exact left

/-! ## One call -/

/-- A call of the flow keeps every secret, unless a completion meets an enrolled user. -/
theorem keepsSecrets_of_ran {call : Call} (ran : call.Ran service) (flow : call.op.OfEnrollment)
    (fresh : ¬ call.MeetsEnrolled service) :
    KeepsSecrets call.before.users call.after.users := by
  generalize given : call.op = op at flow
  cases flow with
  | signIn username password =>
    unfold Call.Ran at ran
    rw [given] at ran
    have left : (signIn service call.before call.context username password).1 = call.after :=
      congrArg Prod.fst ran
    rw [← left]
    exact keepsSecrets_signIn call.before call.context username password
  | begins credential =>
    unfold Call.Ran at ran
    rw [given] at ran
    have left : (beginMfaEnrollment service call.before call.context credential).1 = call.after :=
      congrArg Prod.fst ran
    rw [← left, beginMfaEnrollment_state]
    exact KeepsSecrets.refl _
  | completes credential code =>
    rcases completion_cases ran given with ⟨same, _⟩ | ⟨challenge, user, secret, _, settled⟩
    · rw [same]
      exact KeepsSecrets.refl _
    · cases settled with
      | replayed _ left =>
        rw [left]
        exact KeepsSecrets.refl _
      | rejected _ _ left =>
        rw [left]
        exact KeepsSecrets.refl _
      | completed completes left =>
        rw [left]
        have found := completes.claims.found
        have id := (KeyedTable.find_eq_some_iff.mp found).2
        rcases users_issueAfterPrimary call.before (call.enrolledState challenge user secret)
            call.context { user with mfaSecretEnc := some secret } call.context.issuedAt with
          ⟨error, _, back⟩ | ⟨result, answered, written⟩
        · rw [Call.enrolledAnswer, back]
          exact KeepsSecrets.refl _
        · rw [Call.enrolledAnswer, written]
          have present : call.before.users.find
              ({ user with mfaSecretEnc := some secret } : UserRecord).id = some user := by
            rw [id]
            exact found
          refine keepsSecrets_put present fun other held => ?_
          by_contra changed
          exact fresh ⟨challenge, user, secret, code, other, result, completes, held,
            fun same => changed (congrArg some same.symm), answered⟩

/-- A completion that meets an enrolled user replaces the secret. -/
theorem not_keepsSecrets_of_meetsEnrolled {call : Call} (ran : call.Ran service)
    (meets : call.MeetsEnrolled service) : ¬ KeepsSecrets call.before.users call.after.users := by
  obtain ⟨challenge, user, secret, code, other, result, completes, held, apart, answered⟩ := meets
  intro keeps
  have found := completes.claims.found
  have id := (KeyedTable.find_eq_some_iff.mp found).2
  obtain ⟨stored, listed, kept⟩ := keeps challenge.userId other ⟨user, found, held⟩
  rcases users_issueAfterPrimary call.before (call.enrolledState challenge user secret)
      call.context { user with mfaSecretEnc := some secret } call.context.issuedAt with
    ⟨error, failed, _⟩ | ⟨_, _, written⟩
  · rw [Call.enrolledAnswer, failed] at answered
    cases answered
  · rw [after_of_completesFor ran completes, Call.enrolledAnswer, written, ← id] at listed
    rw [← id] at found
    have new := @find_put_self _ user { user with mfaSecretEnc := some secret } found rfl
    cases listed.symm.trans new
    exact apart (Option.some.inj kept).symm

/-- An entry outlives a call that makes no claim at or past its deadline. -/
theorem mem_claimed_of_ran {call : Call} (ran : call.Ran service) (flow : call.op.OfEnrollment)
    {entry : Text × UtcInstant} (held : entry ∈ call.before.claimed)
    (early : ∀ challenge user secret code, call.Claims challenge user secret code →
      call.context.claimedAt.ticks < entry.2.ticks) : entry ∈ call.after.claimed := by
  generalize given : call.op = op at flow
  cases flow with
  | signIn username password =>
    unfold Call.Ran at ran
    rw [given] at ran
    have left : (signIn service call.before call.context username password).1 = call.after :=
      congrArg Prod.fst ran
    rw [← left, claimed_signIn]
    exact held
  | begins credential =>
    unfold Call.Ran at ran
    rw [given] at ran
    have left : (beginMfaEnrollment service call.before call.context credential).1 = call.after :=
      congrArg Prod.fst ran
    rw [← left, beginMfaEnrollment_state]
    exact held
  | completes credential code =>
    rcases completion_cases ran given with ⟨same, _⟩ | ⟨challenge, user, secret, claims, settled⟩
    · rw [same]
      exact held
    · have before := early challenge user secret code claims
      cases settled with
      | replayed _ left =>
        rw [left]
        exact mem_claim held before
      | rejected granted _ left =>
        rw [left]
        exact List.mem_filter.mpr
          ⟨mem_claim held before, decide_eq_true (ne_of_claimable held before granted)⟩
      | completed _ left =>
        rw [left, Call.enrolledAnswer, claimed_issueAfterPrimary]
        exact mem_claim held before

/-- A completed challenge is claimed until its deadline. -/
theorem mem_claimed_of_completes {call : Call} (ran : call.Ran service) {challenge : Challenge}
    (completes : call.Completes service challenge) :
    (challenge.nonce, challenge.expiresAt) ∈ call.after.claimed := by
  obtain ⟨user, secret, code, done⟩ := completes
  rw [after_of_completesFor ran done, Call.enrolledAnswer, claimed_issueAfterPrimary]
  exact mem_claim_self done.granted

/-! ## Runs -/

/-- The call of an operation in a state. -/
def callOf (service : AuthService) (state : AuthState) (entry : CallContext × AuthOp) : Call :=
  ⟨state, entry.1, entry.2, (step service state entry.1 entry.2).1,
    (step service state entry.1 entry.2).2⟩

theorem calls_cons (state : AuthState) (entry : CallContext × AuthOp)
    (rest : List (CallContext × AuthOp)) :
    calls service state (entry :: rest) =
      callOf service state entry :: calls service (callOf service state entry).after rest := rfl

theorem before_callOf (state : AuthState) (entry : CallContext × AuthOp) :
    (callOf service state entry).before = state := rfl

theorem op_callOf (state : AuthState) (entry : CallContext × AuthOp) :
    (callOf service state entry).op = entry.2 := rfl

theorem ran_callOf (state : AuthState) (entry : CallContext × AuthOp) :
    (callOf service state entry).Ran service := rfl

/-- The calls from any one on are a run from the state it found. -/
theorem calls_eq_append {state : AuthState} {ops : List (CallContext × AuthOp)}
    {history rest : List Call} {call : Call}
    (split : calls service state ops = history ++ call :: rest) :
    ∃ entry ops', (∀ other ∈ entry :: ops', other ∈ ops) ∧
      call = callOf service call.before entry ∧ rest = calls service call.after ops' := by
  induction history generalizing state ops with
  | nil =>
    cases ops with
    | nil => cases split
    | cons entry ops =>
      rw [calls_cons] at split
      obtain ⟨head, tail⟩ := List.cons.inj split
      refine ⟨entry, ops, fun _ member => member, ?_, ?_⟩
      · rw [← head, before_callOf]
      · rw [← head]
        exact tail.symm
  | cons first history ih =>
    cases ops with
    | nil => cases split
    | cons entry ops =>
      rw [calls_cons] at split
      obtain ⟨entry', ops', listed, same⟩ := ih (List.cons.inj split).2
      exact ⟨entry', ops', fun other member => List.mem_cons_of_mem _ (listed other member), same⟩

theorem keepsSecrets_calls {state : AuthState} {ops : List (CallContext × AuthOp)}
    (keeps : ∀ call ∈ calls service state ops, KeepsSecrets call.before.users call.after.users) :
    ∀ later ∈ calls service state ops, KeepsSecrets state.users later.after.users := by
  induction ops generalizing state with
  | nil =>
    intro later member
    cases member
  | cons entry rest ih =>
    rw [calls_cons] at keeps ⊢
    have first := keeps _ List.mem_cons_self
    rw [before_callOf] at first
    intro later member
    rcases List.mem_cons.mp member with here | behind
    · rw [here]
      exact first
    · exact first.trans (ih (fun call listed => keeps call (List.mem_cons_of_mem _ listed)) later
        behind)

/-- An entry outlives the calls up to one, when none of them claims at or past its deadline. -/
theorem mem_claimed_calls {state : AuthState} {ops : List (CallContext × AuthOp)}
    (flow : ∀ call ∈ calls service state ops, call.op.OfEnrollment) {middle rest : List Call}
    {second : Call} (split : calls service state ops = middle ++ second :: rest)
    {entry : Text × UtcInstant} (held : entry ∈ state.claimed)
    (early : ∀ call ∈ middle, ∀ challenge user secret code,
      call.Claims challenge user secret code → call.context.claimedAt.ticks < entry.2.ticks) :
    entry ∈ second.before.claimed := by
  induction middle generalizing state ops with
  | nil =>
    cases ops with
    | nil => cases split
    | cons first ops =>
      rw [calls_cons] at split
      rw [← (List.cons.inj split).1, before_callOf]
      exact held
  | cons call middle ih =>
    cases ops with
    | nil => cases split
    | cons first ops =>
      rw [calls_cons] at split flow
      obtain ⟨head, tail⟩ := List.cons.inj split
      have listed := early call List.mem_cons_self
      rw [← head] at listed
      exact ih (fun other member => flow other (List.mem_cons_of_mem _ member)) tail
        (mem_claimed_of_ran (ran_callOf state first) (flow _ List.mem_cons_self) held listed)
        fun other member => early other (List.mem_cons_of_mem _ member)

theorem ofEnrollment_calls {state : AuthState} {ops : List (CallContext × AuthOp)}
    (flow : ∀ entry ∈ ops, entry.2.OfEnrollment) :
    ∀ call ∈ calls service state ops, call.op.OfEnrollment := by
  induction ops generalizing state with
  | nil =>
    intro call member
    cases member
  | cons entry rest ih =>
    rw [calls_cons]
    intro call member
    rcases List.mem_cons.mp member with here | later
    · rw [here, op_callOf]
      exact flow entry List.mem_cons_self
    · exact ih (fun other listed => flow other (List.mem_cons_of_mem _ listed)) call later

/-- In every order of the calls of the flow an enrolled secret is kept exactly if no completion meets
    an enrolled user, and no challenge completes twice where the claims are timely. -/
theorem enrollment_runs (service : AuthService) (state : AuthState)
    (ops : List (CallContext × AuthOp)) (flow : ∀ entry ∈ ops, entry.2.OfEnrollment) :
    (KeepsEnrolled (calls service state ops) ↔
      ∀ call ∈ calls service state ops, ¬ call.MeetsEnrolled service) ∧
    (Timely service (calls service state ops) →
      CompletesOnce service (calls service state ops)) := by
  have ran : ∀ call ∈ calls service state ops, call.Ran service := fun call => ran_of_mem_calls
  have inFlow := @ofEnrollment_calls service state ops flow
  refine ⟨⟨?_, ?_⟩, ?_⟩
  · intro keeps call member meets
    obtain ⟨history, rest, split⟩ := List.append_of_mem member
    exact not_keepsSecrets_of_meetsEnrolled (ran call member) meets
      (keeps history call rest split call List.mem_cons_self)
  · intro fresh history call rest split
    obtain ⟨entry, ops', listed, same, behind⟩ := calls_eq_append split
    have whole : call :: rest = calls service call.before (entry :: ops') := by
      rw [calls_cons, ← same, behind]
    rw [whole]
    apply keepsSecrets_calls
    intro other member
    have here : other ∈ calls service state ops := by
      rw [split]
      exact List.mem_append_right _ (whole ▸ member)
    exact keepsSecrets_of_ran (ran other here) (inFlow other here) (fresh other here)
  · intro timely history first middle second rest split challenge completed again
    obtain ⟨user, secret, code, done⟩ := again
    have early := timely history first middle second rest split challenge user secret code completed
      done.claims
    obtain ⟨entry, ops', listed, _, behind⟩ := calls_eq_append split
    have here : first ∈ calls service state ops := by
      rw [split]
      simp
    have later := @ofEnrollment_calls service first.after ops' fun other member =>
      flow other (listed other (List.mem_cons_of_mem _ member))
    have held := mem_claimed_calls later behind.symm
      (mem_claimed_of_completes (ran first here) completed)
      fun call member => early call (List.mem_append_left _ member)
    have before := early second (List.mem_append_right _ (List.mem_singleton_self _)) challenge
      user secret code done.claims
    exact ne_of_claimable held before done.granted rfl

end

/-! ## Two challenges at once -/

/-- Every presented challenge was issued by a call before it, checked call by call. -/
def signedBefore (made : List Call) : Bool :=
  (List.range made.length).all fun index =>
    (made[index]?.bind Call.presented).all fun challenge =>
      (made.take index).any fun earlier => decide (earlier.challenge = some challenge)

theorem unforged_of_signedBefore {made : List Call} (signed : signedBefore made = true) :
    Unforged made := by
  intro history call rest split challenge presented
  have place : history.length ∈ List.range made.length := by
    rw [List.mem_range, split, List.length_append, List.length_cons]
    omega
  have here := List.all_eq_true.mp signed history.length place
  have found : made[history.length]? = some call := by
    rw [split, List.getElem?_append_right le_rfl, Nat.sub_self, List.getElem?_cons_zero]
  rw [found, Option.bind_some, presented, split, List.take_left] at here
  obtain ⟨earlier, listed, same⟩ := List.any_eq_true.mp here
  exact ⟨earlier, listed, of_decide_eq_true same⟩

theorem codes_configured (accepts : Text → Text → UtcInstant → Bool) (_ : true = true) :
    some accepts ≠ none := Option.some_ne_none accepts

/-- A service that requires a second factor, whose codes are the secrets. -/
def enrollService : AuthService where
  settings := ⟨5, 900 * 10 ^ 6, true, five_attempts, lockout_positive⟩
  sessions := flowSessions
  challengeTimeout := flowService.challengeTimeout
  passwords := flowService.passwords
  mfa := some fun secret code _ => decide (code = secret)
  casefold := Text.lower
  configured := codes_configured _

/-- A user without a second factor. -/
def enrollUser : UserRecord where
  id := Uuid.ofInt 1
  username := "meera".toList
  passwordHash := some "initial".toList

theorem enrollUser_distinct : ([enrollUser].map UserRecord.id).Nodup := List.nodup_singleton _

def enrollState : AuthState where
  users := ⟨[enrollUser], enrollUser_distinct⟩
  sessions := KeyedTable.empty
  claimed := []

/-- The challenge of a sign-in, or of an enrolment begun with a secret. -/
def enrollChallenge (secret : Option Text) (nonce : Text) : Challenge :=
  ⟨Uuid.ofInt 1, .mfaEnrollment, flowStart, flowEnd, secret, nonce⟩

/-- An enrolment begun from the challenge of the sign-in. -/
def beginsWith (secret nonce : Text) : CallContext × AuthOp :=
  ({ atFlowStart with nonce := nonce, encryptedSecret := secret },
    .beginMfaEnrollment (.challenge (enrollChallenge none "nonce".toList)))

/-- The enrolment completed, its claim read at an instant. -/
def completesWith (secret nonce : Text) (claimedAt : UtcInstant) (sessionId : ℕ)
    (token : Text) : CallContext × AuthOp :=
  ({ atFlowStart with claimedAt := claimedAt, sessionId := Uuid.ofInt sessionId, rawToken := token },
    .completeMfaEnrollment (.challenge (enrollChallenge (some secret) nonce)) secret)

/-- Two enrolments are begun, and both completed. -/
def enrollsTwice : List (CallContext × AuthOp) :=
  [signsIn, beginsWith "one".toList "first".toList, beginsWith "two".toList "second".toList,
    completesWith "one".toList "first".toList flowStart 2 "token".toList,
    completesWith "two".toList "second".toList flowStart 3 "other".toList]

/-- One enrolment is begun and completed, and completed again by a claim at its deadline. -/
def enrollsAgain : List (CallContext × AuthOp) :=
  [signsIn, beginsWith "one".toList "first".toList,
    completesWith "one".toList "first".toList flowStart 2 "token".toList,
    completesWith "one".toList "first".toList flowEnd 3 "other".toList]

theorem ofEnrollment_enrollsTwice : ∀ entry ∈ enrollsTwice, entry.2.OfEnrollment := by
  intro entry member
  simp only [enrollsTwice, List.mem_cons, List.not_mem_nil, or_false] at member
  rcases member with rfl | rfl | rfl | rfl | rfl
  · exact .signIn _ _
  · exact .begins _
  · exact .begins _
  · exact .completes _ _
  · exact .completes _ _

theorem ofEnrollment_enrollsAgain : ∀ entry ∈ enrollsAgain, entry.2.OfEnrollment := by
  intro entry member
  simp only [enrollsAgain, List.mem_cons, List.not_mem_nil, or_false] at member
  rcases member with rfl | rfl | rfl | rfl
  · exact .signIn _ _
  · exact .begins _
  · exact .completes _ _
  · exact .completes _ _

/-- The state once the enrolment is begun. -/
def begunState : AuthState :=
  (callOf enrollService (callOf enrollService enrollState signsIn).after
    (beginsWith "one".toList "first".toList)).after

/-- Its completion. -/
def completion : Call :=
  callOf enrollService begunState
    (completesWith "one".toList "first".toList flowStart 2 "token".toList)

/-- Its completion by a claim at the deadline. -/
def completionAgain : Call :=
  callOf enrollService completion.after
    (completesWith "one".toList "first".toList flowEnd 3 "other".toList)

theorem completes_completion :
    completion.Completes enrollService (enrollChallenge (some "one".toList) "first".toList) :=
  ⟨enrollUser, "one".toList, "one".toList,
    ⟨rfl, by decide, by decide, rfl, rfl⟩, by decide, by decide⟩

theorem completes_completionAgain :
    completionAgain.Completes enrollService
      (enrollChallenge (some "one".toList) "first".toList) :=
  ⟨{ enrollUser with mfaSecretEnc := some "one".toList }, "one".toList, "one".toList,
    ⟨rfl, by decide, by decide, rfl, rfl⟩, by decide, by decide⟩

theorem calls_enrollsAgain : calls enrollService enrollState enrollsAgain =
    [callOf enrollService enrollState signsIn,
      callOf enrollService (callOf enrollService enrollState signsIn).after
        (beginsWith "one".toList "first".toList)] ++
      completion :: ([] ++ completionAgain :: []) := by
  simp only [enrollsAgain, calls_cons]
  rfl

/-- The second of two begun enrolments replaces the secret of the first, and a challenge claimed at
    its deadline completes again. -/
theorem enrollment_not_kept :
    (¬ ∀ (service : AuthService) (state : AuthState) (ops : List (CallContext × AuthOp)),
      (∀ entry ∈ ops, entry.2.OfEnrollment) → Unforged (calls service state ops) →
        KeepsEnrolled (calls service state ops)) ∧
    ¬ ∀ (service : AuthService) (state : AuthState) (ops : List (CallContext × AuthOp)),
      (∀ entry ∈ ops, entry.2.OfEnrollment) → Unforged (calls service state ops) →
        CompletesOnce service (calls service state ops) := by
  constructor
  · intro always
    have kept := always enrollService enrollState enrollsTwice ofEnrollment_enrollsTwice
      (unforged_of_signedBefore (by decide))
    have replaced : (calls enrollService enrollState enrollsTwice)[4]?.map (fun call =>
        ((call.before.users.find (Uuid.ofInt 1)).bind UserRecord.mfaSecretEnc,
          (call.after.users.find (Uuid.ofInt 1)).bind UserRecord.mfaSecretEnc)) =
        some (some "one".toList, some "two".toList) := by decide
    obtain ⟨call, fifth, secrets⟩ := Option.map_eq_some_iff.mp replaced
    obtain ⟨before, after⟩ := Prod.mk.inj secrets
    obtain ⟨user, found, first⟩ := Option.bind_eq_some_iff.mp before
    obtain ⟨history, rest, split⟩ := List.append_of_mem (List.mem_of_getElem? fifth)
    obtain ⟨user', found', same⟩ := kept history call rest split call List.mem_cons_self
      (Uuid.ofInt 1) "one".toList ⟨user, found, first⟩
    rw [found', Option.bind_some, same] at after
    exact absurd after (by decide)
  · intro always
    have once := always enrollService enrollState enrollsAgain ofEnrollment_enrollsAgain
      (unforged_of_signedBefore (by decide))
    exact once _ completion [] completionAgain [] calls_enrollsAgain _ completes_completion
      completes_completionAgain

/-- The secret of one of two begun enrolments is kept when the other is not completed. -/
theorem enrollment_runs_begun_twice :
    (KeepsEnrolled (calls enrollService enrollState (enrollsTwice.take 4)) ↔
      ∀ call ∈ calls enrollService enrollState (enrollsTwice.take 4),
        ¬ call.MeetsEnrolled enrollService) ∧
    (Timely enrollService (calls enrollService enrollState (enrollsTwice.take 4)) →
      CompletesOnce enrollService (calls enrollService enrollState (enrollsTwice.take 4))) :=
  enrollment_runs enrollService enrollState (enrollsTwice.take 4) fun entry member =>
    ofEnrollment_enrollsTwice entry (List.mem_of_mem_take member)

end Auth

end CovenantRadar
