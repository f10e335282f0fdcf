import CovenantRadar.Misc.KeyedTable
import CovenantRadar.Python.Timedelta

/-!
# Sessions

Source `security/sessions.py`: the session rows, their store, and the manager that issues, validates,
refreshes and revokes them; the signed challenges that carry a sign-in from one call to the next, and
the store that keeps a challenge from being completed twice. A signed value is held as its verified
contents: a session identifier and a token, or a challenge. The digest of a token and of a client are
parameters.
-/

namespace CovenantRadar

namespace Sessions

/-- Source `SessionSettings`, the timeouts in microseconds. -/
structure SessionSettings where
  idleTimeout : Int
  absoluteTimeout : Int
  idlePositive : 0 < idleTimeout
  ordered : idleTimeout ≤ absoluteTimeout

/-- Source `SessionRecord`. -/
structure SessionRecord where
  id : Uuid
  userId : Uuid
  tokenHash : Text
  issuedAt : UtcInstant
  lastSeenAt : UtcInstant
  expiresAt : UtcInstant
  absoluteExpiresAt : UtcInstant
  ipHash : Option Text
  userAgentHash : Option Text
  revokedAt : Option UtcInstant
  deriving DecidableEq

/-- Source `InMemorySessionStore`: a row for each digest of a token. -/
abbrev SessionStore := KeyedTable SessionRecord.tokenHash

/-- Source `SessionManager`, with `_token_hash` and `_client_hash`. -/
structure SessionManager where
  settings : SessionSettings
  tokenHash : Text → Text
  clientHash : Text → Text

/-- What a valid cookie contains. -/
structure Cookie where
  sessionId : Uuid
  rawToken : Text

/-- The earlier of two instants. -/
def earlier (a b : UtcInstant) : UtcInstant := if b.ticks < a.ticks then b else a

theorem ticks_earlier (a b : UtcInstant) : (earlier a b).ticks = min a.ticks b.ticks := by
  unfold earlier
  split_ifs with later
  · exact (min_eq_right later.le).symm
  · exact (min_eq_left (not_lt.mp later)).symm

/-- `_client_hash(value)`, of an absent or empty value. -/
def clientDigest (manager : SessionManager) (value : Option Text) : Option Text :=
  value.bind fun text => if text = [] then none else some (manager.clientHash text)

/-! ## The store -/

/-- Source `InMemorySessionStore.create`; `none` where it raises. -/
def create (store : SessionStore) (record : SessionRecord) : Option SessionStore :=
  if fresh : store.find record.tokenHash = none then some (store.insert record fresh) else none

/-- Source `InMemorySessionStore.save`; `none` where it raises. -/
def save (store : SessionStore) (record : SessionRecord) : Option SessionStore :=
  if (store.find record.tokenHash).isSome then some (store.put record) else none

/-- A row as `revoke_all` leaves it. -/
def SessionRecord.revokeFor (record : SessionRecord) (userId : Uuid) (revokedAt : UtcInstant) :
    SessionRecord :=
  if record.userId = userId ∧ record.revokedAt = none then
    { record with revokedAt := some revokedAt }
  else record

theorem tokenHash_revokeFor (userId : Uuid) (revokedAt : UtcInstant) (record : SessionRecord) :
    (record.revokeFor userId revokedAt).tokenHash = record.tokenHash := by
  unfold SessionRecord.revokeFor
  split_ifs <;> rfl

/-- Source `InMemorySessionStore.revoke_all`. -/
def revokeAllIn (store : SessionStore) (userId : Uuid) (revokedAt : UtcInstant) : SessionStore :=
  store.update (fun record => record.revokeFor userId revokedAt)
    (tokenHash_revokeFor userId revokedAt)

/-! ## The manager -/

/-- Source `SessionManager.issue`, the row of a new session; `none` where a date is out of range. -/
def newSession (manager : SessionManager) (id userId : Uuid) (rawToken : Text)
    (ipAddress userAgent : Option Text) (issuedAt : UtcInstant) : Option SessionRecord := do
  let absoluteExpiresAt ← issuedAt.plus manager.settings.absoluteTimeout
  let idle ← issuedAt.plus manager.settings.idleTimeout
  return {
    id := id
    userId := userId
    tokenHash := manager.tokenHash rawToken
    issuedAt := issuedAt
    lastSeenAt := issuedAt
    expiresAt := earlier idle absoluteExpiresAt
    absoluteExpiresAt := absoluteExpiresAt
    ipHash := clientDigest manager ipAddress
    userAgentHash := clientDigest manager userAgent
    revokedAt := none }

/-- Whether a row is live at an instant. -/
def SessionRecord.isLive (record : SessionRecord) (instant : UtcInstant) : Bool :=
  decide (record.revokedAt = none) &&
    !(decide (record.absoluteExpiresAt.ticks ≤ instant.ticks) ||
      decide (record.expiresAt.ticks ≤ instant.ticks))

/-- The row of a cookie. -/
def lookup (manager : SessionManager) (store : SessionStore) (cookie : Cookie) :
    Option SessionRecord :=
  (store.find (manager.tokenHash cookie.rawToken)).filter fun record =>
    decide (record.id = cookie.sessionId)

/-- Source `SessionManager.validate`. -/
def validate (manager : SessionManager) (store : SessionStore) (cookie : Cookie)
    (instant : UtcInstant) : Option SessionRecord :=
  (lookup manager store cookie).filter fun record => record.isLive instant

/-- Source `SessionManager.refresh`, the row that is written back. -/
def refreshed (manager : SessionManager) (record : SessionRecord)
    (ipAddress userAgent : Option Text) (instant : UtcInstant) : Option SessionRecord := do
  let idle ← instant.plus manager.settings.idleTimeout
  let expiresAt := earlier idle record.absoluteExpiresAt
  if expiresAt.ticks ≤ instant.ticks then none
  else return { record with
    lastSeenAt := instant
    expiresAt := expiresAt
    ipHash := (clientDigest manager ipAddress).or record.ipHash
    userAgentHash := (clientDigest manager userAgent).or record.userAgentHash }

/-- Source `SessionManager.revoke`, the row that is written back. -/
def revoked (record : SessionRecord) (instant : UtcInstant) : Option SessionRecord :=
  if record.revokedAt = none then some { record with revokedAt := some instant } else none

/-! ## Challenges before a session -/

/-- Source `_CHALLENGE_PURPOSES`. -/
inductive Purpose where
  | mfa
  | mfaEnrollment
  | passwordChange
  deriving DecidableEq, Repr

/-- Source `Challenge`; of the claims the one that is ever set. -/
structure Challenge where
  userId : Uuid
  purpose : Purpose
  issuedAt : UtcInstant
  expiresAt : UtcInstant
  encryptedSecret : Option Text
  nonce : Text
  deriving DecidableEq

/-- What a caller presents. -/
inductive Credential where
  | session (cookie : Cookie)
  | challenge (challenge : Challenge)
  | unverified

/-- Source `SessionManager.issue_challenge`; `none` where the deadline is out of range. -/
def issueChallenge (timeout : Int) (userId : Uuid) (purpose : Purpose)
    (encryptedSecret : Option Text) (nonce : Text) (issuedAt : UtcInstant) : Option Challenge :=
  (issuedAt.plus timeout).map fun expiresAt =>
    ⟨userId, purpose, issuedAt, expiresAt, encryptedSecret, nonce⟩

/-- Source `SessionManager.read_challenge`. -/
def readChallenge (credential : Credential) (purpose : Purpose) (instant : UtcInstant) :
    Option Challenge :=
  match credential with
  | .challenge challenge =>
      if challenge.purpose = purpose ∧ challenge.nonce ≠ [] ∧
          ¬ instant.ticks < challenge.issuedAt.ticks ∧ instant.ticks < challenge.expiresAt.ticks then
        some challenge
      else none
  | _ => none

/-- Source `SessionManager.validate` on what a caller presents. -/
def validateCredential (manager : SessionManager) (store : SessionStore) (credential : Credential)
    (instant : UtcInstant) : Option SessionRecord :=
  match credential with
  | .session cookie => validate manager store cookie instant
  | _ => none

/-! ## Replays -/

/-- Source `InMemoryChallengeReplayStore`: the nonces claimed and until when. -/
abbrev ReplayStore := List (Text × UtcInstant)

/-- The claims that have not expired. -/
def unexpired (claimed : ReplayStore) (instant : UtcInstant) : ReplayStore :=
  claimed.filter fun entry => decide (instant.ticks < entry.2.ticks)

/-- Whether `claim` grants a nonce. -/
def claimable (claimed : ReplayStore) (nonce : Text) (instant : UtcInstant) : Bool :=
  (unexpired claimed instant).all fun entry => decide (entry.1 ≠ nonce)

/-- Source `InMemoryChallengeReplayStore.claim`, the entries it leaves. -/
def claim (claimed : ReplayStore) (challenge : Challenge) (instant : UtcInstant) : ReplayStore :=
  if claimable claimed challenge.nonce instant then
    unexpired claimed instant ++ [(challenge.nonce, challenge.expiresAt)]
  else unexpired claimed instant

/-- Source `InMemoryChallengeReplayStore.release`. -/
def release (claimed : ReplayStore) (challenge : Challenge) : ReplayStore :=
  claimed.filter fun entry => decide (entry.1 ≠ challenge.nonce)

theorem readChallenge_eq_some {credential : Credential} {purpose : Purpose} {instant : UtcInstant}
    {challenge : Challenge} (read : readChallenge credential purpose instant = some challenge) :
    credential = .challenge challenge ∧ challenge.purpose = purpose := by
  unfold readChallenge at read
  cases credential with
  | challenge given =>
    simp only at read
    split_ifs at read with accepted
    cases read
    exact ⟨rfl, accepted.1⟩
  | session _ => cases read
  | unverified => cases read

theorem issueChallenge_eq_some {timeout : Int} {userId : Uuid} {purpose : Purpose}
    {encryptedSecret : Option Text} {nonce : Text} {issuedAt : UtcInstant} {challenge : Challenge}
    (issued : issueChallenge timeout userId purpose encryptedSecret nonce issuedAt =
      some challenge) :
    challenge.userId = userId ∧ challenge.purpose = purpose := by
  obtain ⟨expiresAt, _, rfl⟩ := Option.map_eq_some_iff.mp issued
  exact ⟨rfl, rfl⟩

end Sessions

end CovenantRadar
