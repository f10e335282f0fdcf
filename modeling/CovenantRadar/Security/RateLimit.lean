import CovenantRadar.Misc.LruDict
import CovenantRadar.Python.Timedelta

/-!
# The request rate limiter

Source `security/ratelimit.py`: the in-memory store keeps the instants of the last requests of each
key in an ordered dictionary of at most `max_keys` keys.
-/

namespace CovenantRadar

namespace RateLimit

/-- Source `RateLimitRule`; the window in microseconds. -/
structure RateLimitRule where
  limit : Nat
  window : Int
  positive : 0 < limit
  lasting : 0 < window

/-- The rules of `RateLimitSettings`. -/
structure RateLimitSettings where
  authentication : RateLimitRule := ⟨10, 60 * 10 ^ 6, by decide, by decide⟩
  passwordReset : RateLimitRule := ⟨5, 15 * 60 * 10 ^ 6, by decide, by decide⟩
  api : RateLimitRule := ⟨120, 60 * 10 ^ 6, by decide, by decide⟩

/-- Source `RateLimitDecision`. -/
structure RateLimitDecision where
  allowed : Bool
  limit : Nat
  remaining : Nat
  retryAfterSeconds : Int
  resetAt : UtcInstant

/-- `InMemoryRateLimitStore._hits`, with its `max_keys`. -/
abbrev RateLimitStore (maxKeys : Nat) := LruDict Text (List UtcInstant) maxKeys

/-- The instants left of a key when those up to the cutoff are popped. -/
def expire (cutoff : UtcInstant) (timestamps : List UtcInstant) : List UtcInstant :=
  timestamps.dropWhile fun timestamp => decide (timestamp.ticks ≤ cutoff.ticks)

/-- `ceil(delta.total_seconds())`. -/
def ceilSeconds (microseconds : Int) : Int := -(-microseconds / 10 ^ 6)

/-- What a request is told, from the instants left of its key. -/
def decision (rule : RateLimitRule) (timestamps : List UtcInstant) (instant : UtcInstant) :
    Except PyError RateLimitDecision :=
  if rule.limit ≤ timestamps.length then
    match timestamps with
    | [] => .error (.keyError "deque index out of range")
    | oldest :: _ =>
        match oldest.plus rule.window with
        | none => .error (.overflowError "date value out of range")
        | some resetAt =>
            .ok ⟨false, rule.limit, 0, max 1 (ceilSeconds (resetAt.ticks - instant.ticks)), resetAt⟩
  else
    match instant.plus rule.window with
    | none => .error (.overflowError "date value out of range")
    | some resetAt => .ok ⟨true, rule.limit, rule.limit - (timestamps.length + 1), 0, resetAt⟩

/-- The instants a request leaves for its key. -/
def recorded (rule : RateLimitRule) (timestamps : List UtcInstant) (instant : UtcInstant) :
    List UtcInstant :=
  if rule.limit ≤ timestamps.length then timestamps else timestamps ++ [instant]

variable {maxKeys : Nat}

/-- Source `InMemoryRateLimitStore.consume`. -/
def consume (store : RateLimitStore maxKeys) (key : Text) (rule : RateLimitRule)
    (instant : UtcInstant) : Except PyError RateLimitDecision × RateLimitStore maxKeys :=
  match instant.plus (-rule.window) with
  | none => (.error (.overflowError "date value out of range"), store)
  | some cutoff =>
      let timestamps := expire cutoff ((store.get key).getD [])
      (decision rule timestamps instant, store.use key (recorded rule timestamps instant))

/-- Source `RateLimiter.rule_for`. -/
def ruleFor (settings : RateLimitSettings) (category : Text) : Except PyError RateLimitRule :=
  match dictGet [("authentication".toList, settings.authentication),
      ("password_reset".toList, settings.passwordReset), ("api".toList, settings.api)]
    category with
  | some rule => .ok rule
  | none => .error (.valueError (String.ofList
      ("Unknown rate-limit category: ".toList ++ Text.repr category ++ ".".toList)))

/-- `f"{category}:{key}"`. -/
def storeKey (category key : Text) : Text := category ++ ':' :: key

/-- Source `RateLimiter.check`. -/
def check (settings : RateLimitSettings) (store : RateLimitStore maxKeys) (category key : Text)
    (instant : UtcInstant) : Except PyError RateLimitDecision × RateLimitStore maxKeys :=
  if key = [] then (.error (.valueError "A non-empty rate-limit key is required."), store)
  else
    match ruleFor settings category with
    | .error error => (.error error, store)
    | .ok rule => consume store (storeKey category key) rule instant

/-! ## Requests one after the other -/

/-- A request under a category and a key. -/
structure Request where
  category : Text
  key : Text
  instant : UtcInstant

/-- The store, and the requests answered so far. -/
structure Traffic (maxKeys : Nat) where
  store : RateLimitStore maxKeys
  answered : List (Request × Except PyError RateLimitDecision)

/-- One request. -/
def step (settings : RateLimitSettings) (traffic : Traffic maxKeys) (request : Request) :
    Traffic maxKeys :=
  let answer := check settings traffic.store request.category request.key request.instant
  ⟨answer.2, traffic.answered ++ [(request, answer.1)]⟩

/-- The traffic of requests one after the other. -/
def run (settings : RateLimitSettings) (positive : 0 < maxKeys) (requests : List Request) :
    Traffic maxKeys :=
  requests.foldl (step settings) ⟨LruDict.empty positive, []⟩

/-- The answer to a request after others. -/
def answerTo (settings : RateLimitSettings) (positive : 0 < maxKeys) (before : List Request)
    (request : Request) : Except PyError RateLimitDecision :=
  (check settings (run settings positive before).store request.category request.key
    request.instant).1

/-- The request was let through. -/
def isAllowed : Except PyError RateLimitDecision → Bool
  | .ok decision => decision.allowed
  | .error _ => false

/-- The instants at which requests of a category and key were let through. -/
def allowedTicks (category key : Text) (traffic : Traffic maxKeys) : List Int :=
  (traffic.answered.filter fun served => decide (served.1.category = category ∧
    served.1.key = key) && isAllowed served.2).map fun served => served.1.instant.ticks

end RateLimit

end CovenantRadar
