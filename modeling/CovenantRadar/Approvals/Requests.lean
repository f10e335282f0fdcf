import CovenantRadar.Misc.Loop
import CovenantRadar.Python.Timedelta
import CovenantRadar.Security.Principal

/-!
# Maker-checker requests

Source `security/maker_checker.py`: the request, the operations that can be proposed, the settings,
and the repository port with the contract its adapters keep.
-/

namespace CovenantRadar

namespace Approvals

open Security

variable {σ π : Type}

/-- Source `MakerCheckerState`. -/
inductive RequestState where
  | pending
  | approved
  | rejected
  | expired
  deriving DecidableEq, Repr

/-- `state.value`. -/
def RequestState.value : RequestState → Text
  | pending => "pending".toList
  | approved => "approved".toList
  | rejected => "rejected".toList
  | expired => "expired".toList

/-- Source `MakerCheckerRequest`. -/
structure Request (π : Type) where
  id : Uuid
  subjectType : Text
  subjectId : Uuid
  operation : Text
  payload : π
  makerId : Uuid
  checkerId : Option Uuid
  state : RequestState
  createdAt : UtcInstant
  decidedAt : Option UtcInstant
  reason : Option Text
  version : Nat

/-- A request as it is submitted. -/
structure Request.Submitted (request : Request π) : Prop where
  pending : request.state = .pending
  unchecked : request.checkerId = none
  undecided : request.decidedAt = none
  unexplained : request.reason = none

/-- A control character, which no text of a request may hold. -/
def isControl (c : Char) : Bool := c.toNat < 32

/-- Source `_validated_operation`. -/
def validatedOperation (operation : Text) : Except DomainError Text :=
  let name := Text.strip operation
  let isLetter (c : Char) : Bool := ('a' ≤ c ∧ c ≤ 'z') ∨ ('A' ≤ c ∧ c ≤ 'Z')
  let matches' := match name with
    | [] => false
    | first :: rest =>
      isLetter first && rest.all fun c => isLetter c || c.isDigit || ['_', '.', '-'].contains c
  if matches' && decide (name.length ≤ 50) then .ok name
  else
    .error (.validationError "operation must be a non-empty identifier of at most 50 characters."
      "operation")

/-- Source `_validated_subject_type`. -/
def validatedSubjectType (subjectType : Text) : Except DomainError Text :=
  let value := Text.strip subjectType
  if value = [] ∨ 50 < value.length then
    .error (.validationError "subject_type must be a non-empty value of at most 50 characters."
      "subject_type")
  else if value.any fun c => isControl c || c.toNat == 127 then
    .error (.validationError "subject_type contains a control character." "subject_type")
  else .ok value

/-- Source `validate_reason`. -/
def validateReason (reason : Option Text) (required : Bool) : Except DomainError (Option Text) :=
  let missing : Except DomainError (Option Text) :=
    .error (.validationError "A reason is required when rejecting a request." "reason")
  match reason with
  | none => if required then missing else .ok none
  | some reason =>
    let value := Text.strip reason
    if value = [] ∧ required = true then missing
    else if 2000 < value.length then
      .error (.validationError "reason must be at most 2000 characters." "reason")
    else if value.any fun c => isControl c && !(['\t', '\n', '\r'].contains c) then
      .error (.validationError "reason contains a prohibited control character." "reason")
    else .ok (if value = [] then none else some value)

/-- Source `ApprovalOperation`: its permissions, which differ, and the hook that applies an
    approved payload to the aggregate. -/
structure ApprovalOperation (σ π : Type) where
  name : Text
  proposePermission : Permission
  approvePermission : Permission
  distinct : proposePermission ≠ approvePermission
  callback : Request π → Uuid → σ → Except DomainError σ

/-- Source `ApplicationCallbackRegistry.get`. -/
def getOperation (operations : List (ApprovalOperation σ π)) (operation : Text) :
    Except DomainError (ApprovalOperation σ π) :=
  match validatedOperation operation with
  | .error error => .error error
  | .ok name =>
    match operations.find? fun definition => definition.name = name with
    | some definition => .ok definition
    | none =>
      .error ⟨.validationError, "No maker-checker callback is registered for operation ".toList ++
        Text.repr name ++ ['.'], some "operation".toList⟩

/-- Source `MakerCheckerSettings`; the window is in microseconds. -/
structure Settings where
  expiryWindow : Int
  enabledOperations : List (Text × Bool)
  positive : 0 < expiryWindow

/-- Source `MakerCheckerSettings.is_enabled`, on the name of an operation. -/
def Settings.isEnabled (settings : Settings) (operation : Text) : Bool :=
  ((settings.enabledOperations.find? fun entry => entry.1 = operation).map (·.2)).getD true

/-- Source `_is_expired`. -/
def isExpired (request : Request π) (now : UtcInstant) (settings : Settings) : Bool :=
  request.createdAt.ticks + settings.expiryWindow ≤ now.ticks

/-! ## The repository port -/

namespace Request

/-- The row a decision leaves. -/
def decided (request : Request π) (checkerId : Uuid) (state : RequestState) (at' : UtcInstant)
    (reason : Option Text) : Request π :=
  { request with
    checkerId := some checkerId, state, decidedAt := some at', reason
    version := request.version + 1 }

/-- The row an expiry leaves. -/
def expired (request : Request π) (at' : UtcInstant) (reason : Option Text) : Request π :=
  { request with
    state := .expired, decidedAt := some at', reason, version := request.version + 1 }

end Request

/-- Source `MakerCheckerRepository`, with what its methods promise: a request is stored under a
    new identifier, and a write finds the row pending and at the expected version. -/
structure Repository (ρ π : Type) where
  getForUpdate : ρ → Uuid → Option (Request π)
  listPending : ρ → List (Request π)
  create : ρ → Request π → Except DomainError (Request π × ρ)
  decide : ρ → Uuid → Uuid → RequestState → UtcInstant → Option Text → Nat →
    Except DomainError (Request π × ρ)
  expire : ρ → Uuid → UtcInstant → Nat → Except DomainError (Request π × ρ)
  id_eq : ∀ {rows id request}, getForUpdate rows id = some request → request.id = id
  mem_listPending : ∀ {rows request}, request ∈ listPending rows ↔
    getForUpdate rows request.id = some request ∧ request.state = .pending
  create_spec : ∀ {rows request persisted rows'}, request.Submitted →
    create rows request = .ok (persisted, rows') → getForUpdate rows request.id = none ∧
      persisted = request ∧ ∀ id, getForUpdate rows' id =
        if id = request.id then some request else getForUpdate rows id
  create_returns : ∀ {rows request}, getForUpdate rows request.id = none →
    ∃ persisted rows', create rows request = .ok (persisted, rows')
  decide_spec : ∀ {rows id checkerId state at' reason expected decided rows'},
    decide rows id checkerId state at' reason expected = .ok (decided, rows') →
      ∃ request, getForUpdate rows id = some request ∧ request.state = .pending ∧
        request.version = expected ∧ decided = request.decided checkerId state at' reason ∧
        ∀ other, getForUpdate rows' other =
          if other = id then some decided else getForUpdate rows other
  decide_returns : ∀ {rows id request} checkerId state at' reason,
    getForUpdate rows id = some request → request.state = .pending →
      ∃ decided rows', decide rows id checkerId state at' reason request.version =
        .ok (decided, rows')
  expire_spec : ∀ {rows id at' expected expired rows'},
    expire rows id at' expected = .ok (expired, rows') →
      ∃ request, getForUpdate rows id = some request ∧ request.state = .pending ∧
        request.version = expected ∧ (∃ reason, expired = request.expired at' reason) ∧
        ∀ other, getForUpdate rows' other =
          if other = id then some expired else getForUpdate rows other
  expire_returns : ∀ {rows id request} at', getForUpdate rows id = some request →
    request.state = .pending →
      ∃ expired rows', expire rows id at' request.version = .ok (expired, rows')

end Approvals

end CovenantRadar
