import CovenantRadar.Core.DomainErrors
import CovenantRadar.Sessions.Manager

/-!
# Signing in

Source `services/auth.py`, with the two changes an administrator makes (`services/admin_users.py`) and
the policy and verification of passwords (`security/passwords.py`); Argon2 and the classes of characters
are parameters. A call works on the users, the session rows and the claims of challenges; when it
raises, the unit of work around it undoes what it did to users and sessions.
-/

namespace CovenantRadar

namespace Auth

/-- The classes of characters the policy asks for: `isupper`, `islower`, `isdigit`, `isalnum`,
    `isspace`. -/
structure CharacterClasses where
  isUpper : Char → Bool
  isLower : Char → Bool
  isDigit : Char → Bool
  isAlnum : Char → Bool
  isSpace : Char → Bool

/-- Source `PasswordPolicy`. -/
structure PasswordPolicy where
  minLength : Nat := 12
  maxLength : Nat := 256
  requireUppercase : Bool := true
  requireLowercase : Bool := true
  requireDigit : Bool := true
  requireSpecial : Bool := true
  historySize : Nat := 5

/-- Source `PasswordVerification`. -/
structure PasswordVerification where
  valid : Bool
  needsRehash : Bool

/-- Source `PasswordService`: the policy, and what Argon2 says of a hash and a password. -/
structure PasswordService where
  policy : PasswordPolicy
  classes : CharacterClasses
  matchesHash : Text → Text → Bool
  checkNeedsRehash : Text → Bool

/-- Source `PasswordService.verify`; the dummy hash stands for a secret nobody has. -/
def PasswordService.verify (service : PasswordService) (password : Text)
    (encodedHash : Option Text) : PasswordVerification :=
  match encodedHash with
  | none => ⟨false, false⟩
  | some hash =>
      let valid := decide (hash ≠ []) && service.matchesHash hash password
      ⟨valid, valid && service.checkNeedsRehash hash⟩

/-- The errors of the requirements on one password. -/
def requirementErrors (service : PasswordService) (password : Text) : List Text :=
  let policy := service.policy
  let classes := service.classes
  let refuse (refused : Bool) (message : Text) : List Text := if refused then [message] else []
  refuse (decide (password.length < policy.minLength))
      ("must contain at least ".toList ++ Text.ofNat policy.minLength ++ " characters".toList) ++
    refuse (decide (policy.maxLength < password.length))
      ("must contain no more than ".toList ++ Text.ofNat policy.maxLength ++ " characters".toList) ++
    refuse (policy.requireUppercase && !password.any classes.isUpper)
      "must contain an uppercase character".toList ++
    refuse (policy.requireLowercase && !password.any classes.isLower)
      "must contain a lowercase character".toList ++
    refuse (policy.requireDigit && !password.any classes.isDigit)
      "must contain a digit".toList ++
    refuse (policy.requireSpecial &&
        !password.any fun c => !classes.isAlnum c && !classes.isSpace c)
      "must contain a non-alphanumeric character".toList

/-- Source `PasswordPolicy.validate`, the errors it collects. -/
def policyErrors (service : PasswordService) (password : Text) (previousHashes : List Text) :
    List Text :=
  let errors := requirementErrors service password
  if errors.isEmpty && (previousHashes.take service.policy.historySize).any
      (fun hash => (service.verify password (some hash)).valid) then
    ["must not reuse a recent password".toList]
  else errors

/-- Source `PasswordPolicyError`. -/
def passwordPolicyError (errors : List Text) : DomainError :=
  ⟨.validationError, "Password does not meet policy: ".toList ++ "; ".toList.intercalate errors ++
    ".".toList, none⟩

/-- Source `PasswordService.validate_new_password`. -/
def validateNewPassword (service : PasswordService) (password : Text) (previousHashes : List Text) :
    Except DomainError Unit :=
  let errors := policyErrors service password previousHashes
  if errors.isEmpty then .ok () else .error (passwordPolicyError errors)

open Sessions

/-! ## Users -/

/-- Source `UserRecord`. -/
structure UserRecord where
  id : Uuid
  username : Text
  passwordHash : Option Text
  isActive : Bool := true
  failedAttempts : Int := 0
  lockedUntil : Option UtcInstant := none
  passwordChangedAt : Option UtcInstant := none
  mustChangePassword : Bool := false
  mfaSecretEnc : Option Text := none
  passwordHistory : List Text := []
  deriving DecidableEq

/-- The users by identifier. -/
abbrev UserStore := KeyedTable UserRecord.id

/-- Source `AuthenticationSettings`. -/
structure AuthenticationSettings where
  lockoutThreshold : Int
  lockoutDuration : Int
  mfaRequired : Bool
  thresholdPositive : 1 ≤ lockoutThreshold
  durationPositive : 0 < lockoutDuration

/-- Source `AuthService`: its settings, the session manager and the timeout of challenges, the password
    service, and whether a code is accepted for a protected secret at an instant. -/
structure AuthService where
  settings : AuthenticationSettings
  sessions : SessionManager
  challengeTimeout : Int
  passwords : PasswordService
  mfa : Option (Text → Text → UtcInstant → Bool)
  casefold : Text → Text
  configured : settings.mfaRequired = true → mfa ≠ none

/-- What the calls read and change. -/
structure AuthState where
  users : UserStore
  sessions : SessionStore
  claimed : ReplayStore

/-- What a call takes from its surroundings: the readings of the clock, in the order they are made,
    what it draws at random, and the client. -/
structure CallContext where
  readAt : UtcInstant
  challengeReadAt : UtcInstant
  claimedAt : UtcInstant
  checkedAt : UtcInstant
  changedAt : UtcInstant
  revokedAt : UtcInstant
  issuedAt : UtcInstant
  sessionId : Uuid
  rawToken : Text
  nonce : Text
  passwordHash : Text
  encryptedSecret : Text
  ipAddress : Option Text
  userAgent : Option Text

/-! ## Results -/

/-- Source `AuthStatus`. -/
inductive AuthStatus where
  | success
  | failed
  | mfaRequired
  | mfaEnrollmentRequired
  | passwordChangeRequired
  deriving DecidableEq, Repr

/-- Source `AuthResult`. -/
structure AuthResult where
  status : AuthStatus
  message : Option Text := none
  userId : Option Uuid := none
  session : Option SessionRecord := none
  challenge : Option Challenge := none

/-- What a call raises. -/
inductive AuthError where
  | domain (error : DomainError)
  | raised (message : Text)
  deriving DecidableEq

/-- Source `GENERIC_AUTHENTICATION_MESSAGE`. -/
def genericAuthenticationMessage : Text := "Invalid username or password.".toList

/-- Source `GENERIC_MFA_MESSAGE`. -/
def genericMfaMessage : Text := "The verification code is invalid.".toList

/-- Source `GENERIC_SESSION_MESSAGE`. -/
def genericSessionMessage : Text := "The sign-in session is invalid or expired.".toList

/-- Source `_failed_result`. -/
def failedResult : AuthResult := { status := .failed, message := some genericAuthenticationMessage }

/-- The failure of a second factor. -/
def mfaFailure : AuthResult := { status := .failed, message := some genericMfaMessage }

/-- A date out of range. -/
def dateOutOfRange : AuthError := .raised "date value out of range".toList

/-- A row that cannot be inserted. -/
def duplicateSession : AuthError := .raised "A session with this token digest already exists.".toList

/-- What a call leaves and answers. -/
abbrev Answer := AuthState × Except AuthError AuthResult

/-- The unit of work undone: the claims are kept elsewhere. -/
def undone (before : AuthState) (claimed : ReplayStore) : AuthState :=
  { before with claimed := claimed }

/-! ## Issuing -/

variable (service : AuthService)

/-- Source `_normalise_username`. -/
def normaliseUsername (username : Text) : Text :=
  let clean := Text.strip username
  if 64 < clean.length ∨ (clean.any fun c => decide (c.toNat < 32) || decide (c.toNat = 127)) then []
  else service.casefold clean

/-- Source `UserStore.find_by_username`. -/
def findByUsername (users : UserStore) (username : Text) : Option UserRecord :=
  users.rows.find? fun user => decide (user.username = username)

/-- Source `SessionManager.issue`, into the store of a state. -/
def issueSession (state : AuthState) (context : CallContext) (userId : Uuid) (now : UtcInstant) :
    Except AuthError (AuthState × SessionRecord) :=
  match newSession service.sessions context.sessionId userId context.rawToken context.ipAddress
    context.userAgent now with
  | none => .error dateOutOfRange
  | some record =>
      match create state.sessions record with
      | none => .error duplicateSession
      | some sessions => .ok ({ state with sessions := sessions }, record)

/-- A challenge as the answer of a call; `before` is what an error goes back to. -/
def challengeAnswer (before state : AuthState) (context : CallContext) (status : AuthStatus)
    (purpose : Purpose) (userId : Uuid) (now : UtcInstant) : Answer :=
  match issueChallenge service.challengeTimeout userId purpose none context.nonce now with
  | none => (undone before state.claimed, .error dateOutOfRange)
  | some challenge =>
      (state, .ok { status := status, userId := some userId, challenge := some challenge })

/-- Source `_issue_after_primary`. -/
def issueAfterPrimary (before state : AuthState) (context : CallContext) (user : UserRecord)
    (now : UtcInstant) : Answer :=
  if user.mustChangePassword then
    challengeAnswer service before state context .passwordChangeRequired .passwordChange user.id now
  else
    match issueSession service state context user.id now with
    | .error error => (undone before state.claimed, .error error)
    | .ok issued =>
        (issued.1, .ok { status := .success, userId := some user.id, session := some issued.2 })

/-! ## Signing in with a password -/

/-- The user once a lock has run out. -/
def unlocked (user : UserRecord) : UserRecord :=
  if user.lockedUntil = none then user
  else { user with failedAttempts := 0, lockedUntil := none }

/-- A user record written back where it changed. -/
def saveChanged (users : UserStore) (old new : UserRecord) : UserStore :=
  if new = old then users else users.put new

/-- The user after a rejected password. -/
def afterRejection (user : UserRecord) (now : UtcInstant) : Option UserRecord :=
  let failedAttempts := max 0 user.failedAttempts + 1
  if service.settings.lockoutThreshold ≤ failedAttempts then
    (now.plus service.settings.lockoutDuration).map fun lockedUntil =>
      { user with failedAttempts := failedAttempts, lockedUntil := some lockedUntil }
  else some { user with failedAttempts := failedAttempts, lockedUntil := none }

/-- The user after an accepted password. -/
def afterAcceptance (user : UserRecord) (needsRehash : Bool) (context : CallContext) : UserRecord :=
  { user with
    failedAttempts := 0
    lockedUntil := none
    passwordHash := if needsRehash then some context.passwordHash else user.passwordHash }

/-- The end of `sign_in`, for a user whose password is verified. -/
def afterPassword (before saved : AuthState) (context : CallContext) (user : UserRecord)
    (now : UtcInstant) : Answer :=
  if service.settings.mfaRequired = true then
    if user.mfaSecretEnc = none then
      challengeAnswer service before saved context .mfaEnrollmentRequired .mfaEnrollment user.id now
    else challengeAnswer service before saved context .mfaRequired .mfa user.id now
  else issueAfterPrimary service before saved context user now

/-- Source `AuthService.sign_in`. -/
def signIn (state : AuthState) (context : CallContext) (username password : Text) : Answer :=
  let now := context.readAt
  match findByUsername state.users (normaliseUsername service username) with
  | none => (state, .ok failedResult)
  | some found =>
      let verification := service.passwords.verify password found.passwordHash
      if found.lockedUntil.any fun lockedUntil => decide (now.ticks < lockedUntil.ticks) then
        (state, .ok failedResult)
      else
        let user := unlocked found
        let opened := { state with users := saveChanged state.users found user }
        if user.isActive = false then (opened, .ok failedResult)
        else if verification.valid = false then
          match afterRejection service user now with
          | none => (state, .error dateOutOfRange)
          | some updated =>
              ({ opened with users := opened.users.put updated }, .ok failedResult)
        else
          let updated := afterAcceptance user verification.needsRehash context
          afterPassword service state
            { opened with users := saveChanged opened.users user updated } context updated now

/-! ## The second factor -/

/-- Whether a code is accepted for a protected secret. -/
def accepts (secret code : Text) (instant : UtcInstant) : Bool :=
  service.mfa.any fun verify => verify secret code instant

/-- What the two completions of a challenge share: the claim, the code, and the release of the claim
    when the code is rejected. -/
def withCode (state : AuthState) (context : CallContext) (challenge : Challenge)
    (secret code : Text) (next : AuthState → Answer) : Answer :=
  let claimed := claim state.claimed challenge context.claimedAt
  if claimable state.claimed challenge.nonce context.claimedAt = false then
    ({ state with claimed := claimed }, .ok mfaFailure)
  else if accepts service secret code context.checkedAt = false then
    ({ state with claimed := release claimed challenge }, .ok mfaFailure)
  else next { state with claimed := claimed }

/-- Source `AuthService.verify_mfa`. -/
def verifyMfa (state : AuthState) (context : CallContext) (credential : Credential) (code : Text) :
    Answer :=
  match readChallenge credential .mfa context.challengeReadAt with
  | none => (state, .ok mfaFailure)
  | some challenge =>
      match state.users.find challenge.userId with
      | none => (state, .ok mfaFailure)
      | some user =>
          if user.isActive = false then (state, .ok mfaFailure)
          else
            match user.mfaSecretEnc with
            | none => (state, .ok mfaFailure)
            | some secret =>
                withCode service state context challenge secret code fun claimed =>
                  issueAfterPrimary service state claimed context user context.issuedAt

/-- Source `AuthService.begin_mfa_enrollment`. -/
def beginMfaEnrollment (state : AuthState) (context : CallContext) (credential : Credential) :
    Answer :=
  let refused : Answer := (state, .error (.domain ⟨.validationError, genericSessionMessage, none⟩))
  match readChallenge credential .mfaEnrollment context.challengeReadAt with
  | none => refused
  | some challenge =>
      match state.users.find challenge.userId with
      | none => refused
      | some user =>
          if user.isActive = false then refused
          else if user.mfaSecretEnc ≠ none then
            (state, .error (.domain (.conflict "MFA is already enrolled for this account.".toList)))
          else if service.mfa.isNone then
            (state, .error (.domain
              ⟨.validationError, "MFA enrollment is not available.".toList, none⟩))
          else
            match issueChallenge service.challengeTimeout user.id .mfaEnrollment
              (some context.encryptedSecret) context.nonce context.issuedAt with
            | none => (state, .error dateOutOfRange)
            | some refreshed =>
                (state, .ok {
                  status := .mfaEnrollmentRequired
                  userId := some user.id
                  challenge := some refreshed })

/-- Source `AuthService.complete_mfa_enrollment`. -/
def completeMfaEnrollment (state : AuthState) (context : CallContext) (credential : Credential)
    (code : Text) : Answer :=
  match readChallenge credential .mfaEnrollment context.challengeReadAt with
  | none => (state, .ok mfaFailure)
  | some challenge =>
      match state.users.find challenge.userId with
      | none => (state, .ok mfaFailure)
      | some user =>
          if user.isActive = false then (state, .ok mfaFailure)
          else
            match challenge.encryptedSecret with
            | none => (state, .ok mfaFailure)
            | some secret =>
                withCode service state context challenge secret code fun claimed =>
                  let updated := { user with mfaSecretEnc := some secret }
                  issueAfterPrimary service state
                    { claimed with users := claimed.users.put updated } context updated
                    context.issuedAt

/-! ## Changing the password -/

/-- Source `_user_from_credential`. -/
def userFromCredential (state : AuthState) (context : CallContext) (credential : Credential) :
    Option UserRecord × Option Challenge :=
  match validateCredential service.sessions state.sessions credential context.readAt with
  | some session => (state.users.find session.userId, none)
  | none =>
      match readChallenge credential .passwordChange context.challengeReadAt with
      | none => (none, none)
      | some challenge => (state.users.find challenge.userId, some challenge)

/-- The hashes a new password must not repeat, and what is kept of them. -/
def previousHashes (user : UserRecord) : List Text :=
  (user.passwordHash.toList ++ user.passwordHistory).filter fun hash => decide (hash ≠ [])

/-- The user with the new password. -/
def withPassword (user : UserRecord) (context : CallContext) : UserRecord :=
  { user with
    passwordHash := some context.passwordHash
    passwordHistory :=
      ((user.passwordHash :: user.passwordHistory.map some).take
        service.passwords.policy.historySize).filterMap fun hash =>
          hash.filter fun text => decide (text ≠ [])
    passwordChangedAt := some context.changedAt
    mustChangePassword := false
    failedAttempts := 0
    lockedUntil := none }

/-- The store after the change: the user written, all sessions revoked. -/
def changed (state : AuthState) (context : CallContext) (user : UserRecord) : AuthState :=
  { state with
    users := state.users.put (withPassword service user context)
    sessions := revokeAllIn state.sessions user.id context.revokedAt }

/-- `change_password` once the challenge is claimed; an error releases the claim again. -/
def applyChange (state : AuthState) (context : CallContext) (user : UserRecord)
    (challenge : Option Challenge) (newPassword : Text) : Answer :=
  let claimed := challenge.elim state.claimed fun challenge =>
    claim state.claimed challenge context.claimedAt
  let released := challenge.elim claimed (release claimed)
  match validateNewPassword service.passwords newPassword (previousHashes user) with
  | .error error => (undone state released, .error (.domain error))
  | .ok () =>
      match issueSession service (changed service { state with claimed := claimed } context user)
        context user.id context.issuedAt with
      | .error error => (undone state released, .error error)
      | .ok issued =>
          (issued.1, .ok { status := .success, userId := some user.id, session := some issued.2 })

/-- Source `AuthService.change_password`. -/
def changePassword (state : AuthState) (context : CallContext) (credential : Credential)
    (newPassword : Text) (confirmation : Option Text) : Answer :=
  let presented := userFromCredential service state context credential
  match presented.1 with
  | none => (state, .error (.domain ⟨.validationError, genericSessionMessage, none⟩))
  | some user =>
      if confirmation.any fun text => decide (text ≠ newPassword) then
        (state, .error (.domain
          (.validationError "The new passwords do not match." "password_confirmation")))
      else if presented.2.any fun challenge =>
          !claimable state.claimed challenge.nonce context.claimedAt then
        (undone state (presented.2.elim state.claimed fun challenge =>
            claim state.claimed challenge context.claimedAt),
          .error (.domain ⟨.validationError, genericSessionMessage, none⟩))
      else applyChange service state context user presented.2 newPassword

/-! ## Administration -/

/-- `_user`, where it finds nobody. -/
def userNotFound (userId : Uuid) : AuthError :=
  .domain (.notFound ("User ".toList ++ userId.str ++ " was not found.".toList))

/-- Source `AdminUsersService.deactivate_user`; `refusal` is what the check of the caller answers. -/
def deactivateUser (state : AuthState) (context : CallContext) (userId : Uuid)
    (refusal : Option DomainError) (lastAdministrator : Bool) : AuthState × Except AuthError Unit :=
  match refusal with
  | some error => (state, .error (.domain error))
  | none =>
      match state.users.find userId with
      | none => (state, .error (userNotFound userId))
      | some user =>
          if user.isActive = false then
            (state, .error (.domain (.conflict
              ("User ".toList ++ Text.repr user.username ++ " is already inactive.".toList))))
          else if lastAdministrator then
            (state, .error (.domain (.conflict
              "The last active administrator cannot be deactivated.".toList)))
          else
            ({ state with
                users := state.users.put { user with isActive := false }
                sessions := revokeAllIn state.sessions userId context.revokedAt }, .ok ())

/-- Source `AdminUsersService.reset_password`, of a local user. -/
def resetPassword (state : AuthState) (context : CallContext) (userId : Uuid)
    (refusal : Option DomainError) (password : Text) : AuthState × Except AuthError Unit :=
  match refusal with
  | some error => (state, .error (.domain error))
  | none =>
      match state.users.find userId with
      | none => (state, .error (userNotFound userId))
      | some user =>
          if password = [] then
            (state, .error (.domain (.validationError "A replacement password is required."
              "password")))
          else
            match validateNewPassword service.passwords password [] with
            | .error error => (state, .error (.domain error))
            | .ok () =>
                ({ state with
                    users := state.users.put { user with
                      passwordHash := some context.passwordHash
                      passwordChangedAt := some context.changedAt
                      mustChangePassword := true
                      failedAttempts := 0
                      lockedUntil := none }
                    sessions := revokeAllIn state.sessions userId context.revokedAt }, .ok ())

/-! ## Calls in any order -/

/-- A call. -/
inductive AuthOp where
  | signIn (username password : Text)
  | verifyMfa (credential : Credential) (code : Text)
  | beginMfaEnrollment (credential : Credential)
  | completeMfaEnrollment (credential : Credential) (code : Text)
  | changePassword (credential : Credential) (newPassword : Text) (confirmation : Option Text)
  | deactivateUser (userId : Uuid) (refusal : Option DomainError) (lastAdministrator : Bool)
  | resetPassword (userId : Uuid) (refusal : Option DomainError) (password : Text)

/-- The state a call leaves, and what it answers to someone signing in. -/
def step (state : AuthState) (context : CallContext) : AuthOp →
    AuthState × Except AuthError (Option AuthResult)
  | .signIn username password =>
      (signIn service state context username password).map id (Except.map some)
  | .verifyMfa credential code =>
      (verifyMfa service state context credential code).map id (Except.map some)
  | .beginMfaEnrollment credential =>
      (beginMfaEnrollment service state context credential).map id (Except.map some)
  | .completeMfaEnrollment credential code =>
      (completeMfaEnrollment service state context credential code).map id (Except.map some)
  | .changePassword credential newPassword confirmation =>
      (changePassword service state context credential newPassword confirmation).map id
        (Except.map some)
  | .deactivateUser userId refusal lastAdministrator =>
      (deactivateUser state context userId refusal lastAdministrator).map id
        (Except.map fun _ => none)
  | .resetPassword userId refusal password =>
      (resetPassword service state context userId refusal password).map id
        (Except.map fun _ => none)

/-- A call as it ran: the state it found, and what it left and answered. -/
structure Call where
  before : AuthState
  context : CallContext
  op : AuthOp
  after : AuthState
  answer : Except AuthError (Option AuthResult)

/-- The calls of a run, each on the state the one before it left. -/
def calls (state : AuthState) : List (CallContext × AuthOp) → List Call
  | [] => []
  | (context, op) :: rest =>
      let left := step service state context op
      ⟨state, context, op, left.1, left.2⟩ :: calls left.1 rest

/-- The session a call issued. -/
def Call.session (call : Call) : Option SessionRecord :=
  match call.answer with
  | .ok (some result) => result.session
  | _ => none

/-- The challenge a call issued. -/
def Call.challenge (call : Call) : Option Challenge :=
  match call.answer with
  | .ok (some result) => result.challenge
  | _ => none

end Auth

end CovenantRadar
