import CovenantRadar.Approvals.Requests

/-!
# The approval service

Source `services/approvals.py`: proposing, deciding and expiring maker-checker requests. A method
that raises has still done what it did before it raised, so every method returns the state it
leaves next to its result; whether that state is kept is up to the caller's transaction.
-/

namespace CovenantRadar

namespace Approvals

open Security

variable {ρ σ π α : Type}

/-- The events of one request. -/
inductive EventType where
  | submitted
  | approved
  | rejected
  | expired
  | disabledApplied
  deriving DecidableEq, Repr

/-- Source `_event_payload`: the fields of the request and the flags of the event. -/
structure EventPayload (π : Type) where
  request : Request π
  checkerRequired : Bool
  noSecondActorRequired : Bool := false
  approved : Option Bool := none
  applied : Option Bool := none
  notificationRequired : Bool := false

/-- A recorded event: about one request, or the summary of an expiry sweep. -/
inductive Event (π : Type) where
  | request (eventType : EventType) (payload : EventPayload π) (actor : Option Uuid)
  | expireBatch (id : Uuid) (candidates : Nat) (expired : List Uuid)

/-- What the service works on. The last field lists the callbacks that returned, with the actor
    each was given. -/
structure State (ρ σ π : Type) where
  rows : ρ
  aggregate : σ
  audit : List (Event π)
  notifications : List (EventPayload π)
  applications : List (Request π × Uuid)

/-- Source `ApprovalService`: its repository, its settings and its registry. -/
structure Service (ρ σ π : Type) where
  repository : Repository ρ π
  settings : Settings
  operations : List (ApprovalOperation σ π)

/-- A result, and the state it is left in. -/
abbrev Outcome (ρ σ π α : Type) : Type := Except DomainError α × State ρ σ π

namespace State

/-- `self._audit(...)`. -/
def record (state : State ρ σ π) (eventType : EventType) (payload : EventPayload π)
    (actor : Option Uuid) : State ρ σ π :=
  { state with audit := state.audit ++ [.request eventType payload actor] }

/-- `definition.callback(request, actor)`, after it returned this aggregate. -/
def apply (state : State ρ σ π) (request : Request π) (actor : Uuid) (aggregate : σ) :
    State ρ σ π :=
  { state with aggregate, applications := state.applications ++ [(request, actor)] }

end State

namespace Service

variable (service : Service ρ σ π)

/-- The subject of a proposal. -/
structure Subject where
  type : Text
  id : Uuid

/-- The start of `submit`: the operation and the pending request, or what is wrong. -/
def propose (operation : Text) (subject : Subject) (payload : π) (maker : Principal)
    (id : Uuid) (now : UtcInstant) :
    Except DomainError (ApprovalOperation σ π × Request π) := do
  let definition ← getOperation service.operations operation
  authorize maker definition.proposePermission
  let subjectType ← validatedSubjectType subject.type
  return (definition,
    { id, subjectType, subjectId := subject.id, operation := definition.name, payload
      makerId := maker.id, checkerId := none, state := .pending, createdAt := now
      decidedAt := none, reason := none, version := 1 })

/-- Source `submit`, the direct application when the control is off. -/
def applyDirectly (definition : ApprovalOperation σ π) (request : Request π) (maker : Principal)
    (now : UtcInstant) (state : State ρ σ π) : Outcome ρ σ π (Request π) :=
  let direct := { request with state := .approved, decidedAt := some now }
  match definition.callback direct maker.id state.aggregate with
  | .error error => (.error error, state)
  | .ok aggregate =>
    (.ok direct, (state.apply direct maker.id aggregate).record .disabledApplied
      { request := direct, checkerRequired := false, noSecondActorRequired := true
        applied := some true }
      (some maker.id))

/-- Source `submit`. -/
def submit (operation : Text) (subject : Subject) (payload : π) (maker : Principal) (id : Uuid)
    (now : UtcInstant) (state : State ρ σ π) : Outcome ρ σ π (Request π) :=
  match service.propose operation subject payload maker id now with
  | .error error => (.error error, state)
  | .ok (definition, request) =>
    if service.settings.isEnabled definition.name then
      match service.repository.create state.rows request with
      | .error error => (.error error, state)
      | .ok (persisted, rows) =>
        if persisted.state = .pending then
          (.ok persisted, { state with rows }.record .submitted
            { request := persisted, checkerRequired := true } (some maker.id))
        else
          (.error (.conflict ("Maker-checker repository returned request ".toList ++
            persisted.id.str ++ " in state ".toList ++ persisted.state.value ++
            "; a submitted request must be pending.".toList)), { state with rows })
    else applyDirectly definition request maker now state

/-- Source `_expire_locked`. -/
def expireLocked (request : Request π) (now : UtcInstant) (state : State ρ σ π) :
    Outcome ρ σ π (Request π) :=
  match service.repository.expire state.rows request.id now request.version with
  | .error error => (.error error, state)
  | .ok (expired, rows) =>
    if expired.state = .expired then
      let payload : EventPayload π :=
        { request := expired, checkerRequired := true, notificationRequired := true }
      (.ok expired, { { state with rows }.record .expired payload none with
        notifications := state.notifications ++ [payload] })
    else
      (.error (.conflict ("Maker-checker request ".toList ++ request.id.str ++
        " did not transition to expired.".toList)), { state with rows })

/-- `raise NotFound(...)`, for a request that is not there. -/
def requestNotFound (id : Uuid) : DomainError :=
  .notFound ("Maker-checker request ".toList ++ id.str ++ " was not found.".toList)

/-- The start of `decide`: the request under its lock and its operation, or what is wrong. -/
def decidable (id : Uuid) (checker : Principal) (rows : ρ) :
    Except DomainError (ApprovalOperation σ π × Request π) :=
  match service.repository.getForUpdate rows id with
  | none => .error (requestNotFound id)
  | some request => do
    let definition ← getOperation service.operations request.operation
    authorize checker definition.approvePermission
    if request.state ≠ .pending then
      .error (.conflict ("Maker-checker request ".toList ++ id.str ++
        " was already decided as ".toList ++ request.state.value ++
        "; a prior decision cannot be changed.".toList))
    else if request.makerId = checker.id then
      .error (.conflict ("Maker-checker request ".toList ++ id.str ++
        " cannot be decided by its maker; ".toList ++
        "the distinct-actor rule requires a different checker.".toList))
    else return (definition, request)

/-- The end of `decide`: the callback of an approval, then the transition, then its event. -/
def settle (definition : ApprovalOperation σ π) (request : Request π) (checker : Principal)
    (approved : Bool) (reason : Option Text) (now : UtcInstant) (state : State ρ σ π) :
    Outcome ρ σ π (Request π) :=
  let target : RequestState := if approved then .approved else .rejected
  let candidate := request.decided checker.id target now reason
  let applied : Except DomainError (State ρ σ π) :=
    if approved then
      (definition.callback candidate checker.id state.aggregate).map fun aggregate =>
        state.apply candidate checker.id aggregate
    else .ok state
  match applied with
  | .error error => (.error error, state)
  | .ok state =>
    match service.repository.decide state.rows request.id checker.id target now reason
        request.version with
    | .error error => (.error error, state)
    | .ok (decided, rows) =>
      if decided.state = target then
        (.ok decided, { state with rows }.record (if approved then .approved else .rejected)
          { request := decided, checkerRequired := true, approved := some approved
            applied := some approved }
          (some checker.id))
      else
        (.error (.conflict ("Maker-checker request ".toList ++ request.id.str ++
          " did not transition to the requested state ".toList ++ target.value ++ ['.'])),
          { state with rows })

/-- Source `decide`. -/
def decide (id : Uuid) (checker : Principal) (approved : Bool) (reason : Option Text)
    (now : UtcInstant) (state : State ρ σ π) : Outcome ρ σ π (Request π) :=
  match service.decidable id checker state.rows with
  | .error error => (.error error, state)
  | .ok (definition, request) =>
    if isExpired request now service.settings then
      -- the expiry is done, and then the decision is refused
      match service.expireLocked request now state with
      | (.error error, state) => (.error error, state)
      | (.ok _, state) =>
        (.error (.conflict ("Maker-checker request ".toList ++ id.str ++
          " has expired and cannot be approved or rejected; its state is expired.".toList)),
          state)
    else
      match validateReason reason (!approved) with
      | .error error => (.error error, state)
      | .ok reason => service.settle definition request checker approved reason now state

/-- Source `expire`. -/
def expire (id : Uuid) (now : UtcInstant) (state : State ρ σ π) : Outcome ρ σ π (Request π) :=
  match service.repository.getForUpdate state.rows id with
  | none => (.error (requestNotFound id), state)
  | some request =>
    if request.state ≠ .pending then (.ok request, state)
    else if isExpired request now service.settings then service.expireLocked request now state
    else (.ok request, state)

/-- Source `list_pending`, what it does with a request that looks expired: it reads it again
    under its lock. -/
def expireListed (id : Uuid) (now : UtcInstant) (state : State ρ σ π) : Outcome ρ σ π Unit :=
  match service.repository.getForUpdate state.rows id with
  | none => (.ok (), state)
  | some locked =>
    if locked.state = .pending ∧ isExpired locked now service.settings = true then
      match service.expireLocked locked now state with
      | (.error error, state) => (.error error, state)
      | (.ok _, state) => (.ok (), state)
    else (.ok (), state)

/-- Source `list_pending`, the loop over the requests that were pending when it began. -/
def listPendingFrom (checker : Principal) (now : UtcInstant) :
    List (Request π) → State ρ σ π → Outcome ρ σ π (List (Request π))
  | [], state => (.ok [], state)
  | pending :: rest, state =>
    if pending.state ≠ .pending then listPendingFrom checker now rest state
    else
      match getOperation service.operations pending.operation with
      | .error error => (.error error, state)
      | .ok definition =>
        if service.settings.isEnabled definition.name = false ∨ pending.makerId = checker.id ∨
            checker.has definition.approvePermission = false then
          listPendingFrom checker now rest state
        else if isExpired pending now service.settings then
          match service.expireListed pending.id now state with
          | (.error error, state) => (.error error, state)
          | (.ok _, state) => listPendingFrom checker now rest state
        else
          match listPendingFrom checker now rest state with
          | (.error error, state) => (.error error, state)
          | (.ok requests, state) => (.ok (pending :: requests), state)

/-- The queue is shown by age, then by identifier. -/
def queueKey (request : Request π) : Int ×ₗ Nat := toLex (request.createdAt.ticks, request.id.int)

/-- Source `list_pending`. -/
def listPending (checker : Principal) (now : UtcInstant) (state : State ρ σ π) :
    Outcome ρ σ π (List (Request π)) :=
  match service.listPendingFrom checker now (service.repository.listPending state.rows) state with
  | (.error error, state) => (.error error, state)
  | (.ok requests, state) =>
    (.ok (requests.insertionSort fun a b => queueKey a ≤ queueKey b), state)

/-- Source `expire_pending`, the loop over the candidates; every turn reads the clock. -/
def expireEach : List (Request π × UtcInstant) → State ρ σ π → Outcome ρ σ π (List (Request π))
  | [], state => (.ok [], state)
  | (candidate, now) :: rest, state =>
    match service.expire candidate.id now state with
    | (.error error, state) => (.error error, state)
    | (.ok transitioned, state) =>
      match expireEach rest state with
      | (.error error, state) => (.error error, state)
      | (.ok expired, state) =>
        (.ok (if transitioned.state = .expired then transitioned :: expired else expired), state)

/-- The order of an expiry sweep's result. -/
def expiredKey (request : Request π) : Int ×ₗ Nat :=
  toLex ((request.decidedAt.getD request.createdAt).ticks, request.id.int)

/-- Source `expire_pending`. The clock is read once for each candidate. -/
def expirePending (clock : Nat → UtcInstant) (batchId : Uuid) (state : State ρ σ π) :
    Outcome ρ σ π (List (Request π)) :=
  let candidates := (service.repository.listPending state.rows).filter fun request =>
    request.state == .pending
  match service.expireEach (candidates.zipIdx.map fun entry => (entry.1, clock entry.2)) state with
  | (.error error, state) => (.error error, state)
  | (.ok expired, state) =>
    let expired := expired.insertionSort fun a b => expiredKey a ≤ expiredKey b
    (.ok expired, { state with
      audit := state.audit ++ [.expireBatch batchId candidates.length (expired.map (·.id))] })

end Service

end Approvals

end CovenantRadar
