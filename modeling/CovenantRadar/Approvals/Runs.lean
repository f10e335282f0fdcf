import CovenantRadar.Approvals.Effects
import CovenantRadar.Approvals.Rows

/-!
# Runs of the approval service

What holds of every request after any interleaving of calls, over any repository that keeps its
contract.
-/

namespace CovenantRadar

namespace Approvals

open Security

variable {ρ σ π : Type} {service : Service ρ σ π} {state state' : State ρ σ π}

namespace State

/-- What was recorded of a request, the direct applications apart. -/
def history (state : State ρ σ π) (id : Uuid) : List EventType :=
  state.audit.filterMap fun event =>
    match event with
    | .request eventType payload _ =>
      if payload.request.id = id ∧ eventType ≠ .disabledApplied then some eventType else none
    | .expireBatch _ _ _ => none

/-- The requests whose direct application was recorded. -/
def directEvents (state : State ρ σ π) : List (Request π) :=
  state.audit.filterMap fun event =>
    match event with
    | .request .disabledApplied payload _ => some payload.request
    | _ => none

/-- The applications of a request after its approval by a checker. -/
def approvals (state : State ρ σ π) (id : Uuid) : List (Request π) :=
  (state.applications.map (·.1)).filter fun request => request.id = id ∧ request.checkerId ≠ none

/-- The applications without a checker. -/
def directApplications (state : State ρ σ π) : List (Request π) :=
  (state.applications.map (·.1)).filter fun request => request.checkerId = none

@[simp] theorem rows_record (eventType : EventType) (payload : EventPayload π)
    (actor : Option Uuid) : (state.record eventType payload actor).rows = state.rows := rfl

@[simp] theorem rows_apply (request : Request π) (actor : Uuid) (aggregate : σ) :
    (state.apply request actor aggregate).rows = state.rows := rfl

@[simp] theorem history_record (eventType : EventType) (payload : EventPayload π)
    (actor : Option Uuid) (id : Uuid) :
    (state.record eventType payload actor).history id = state.history id ++
      if payload.request.id = id ∧ eventType ≠ .disabledApplied then [eventType] else [] := by
  unfold history record
  rw [List.filterMap_append]
  congr 1
  split_ifs with same <;> simp [same]

@[simp] theorem approvals_apply (request : Request π) (actor : Uuid) (aggregate : σ) (id : Uuid) :
    (state.apply request actor aggregate).approvals id = state.approvals id ++
      if request.id = id ∧ request.checkerId ≠ none then [request] else [] := by
  unfold approvals apply
  rw [List.map_append, List.filter_append, List.map_singleton, List.filter_singleton]
  congr 1
  by_cases same : request.id = id <;> by_cases unchecked : request.checkerId = none <;>
    simp [same, unchecked]

@[simp] theorem directApplications_apply (request : Request π) (actor : Uuid) (aggregate : σ) :
    (state.apply request actor aggregate).directApplications = state.directApplications ++
      if request.checkerId = none then [request] else [] := by
  unfold directApplications apply
  rw [List.map_append, List.filter_append, List.map_singleton, List.filter_singleton]
  congr 1
  by_cases unchecked : request.checkerId = none <;> simp [unchecked]

@[simp] theorem directEvents_record (eventType : EventType) (payload : EventPayload π)
    (actor : Option Uuid) : (state.record eventType payload actor).directEvents =
      state.directEvents ++ if eventType = .disabledApplied then [payload.request] else [] := by
  unfold directEvents record
  rw [List.filterMap_append]
  congr 1
  cases eventType <;> simp

@[simp] theorem history_rows (rows : ρ) (id : Uuid) :
    ({ state with rows } : State ρ σ π).history id = state.history id := rfl

@[simp] theorem history_apply (request : Request π) (actor : Uuid) (aggregate : σ) (id : Uuid) :
    (state.apply request actor aggregate).history id = state.history id := rfl

@[simp] theorem approvals_rows (rows : ρ) (id : Uuid) :
    ({ state with rows } : State ρ σ π).approvals id = state.approvals id := rfl

@[simp] theorem approvals_record (eventType : EventType) (payload : EventPayload π)
    (actor : Option Uuid) (id : Uuid) :
    (state.record eventType payload actor).approvals id = state.approvals id := rfl

@[simp] theorem directEvents_rows (rows : ρ) :
    ({ state with rows } : State ρ σ π).directEvents = state.directEvents := rfl

@[simp] theorem directEvents_apply (request : Request π) (actor : Uuid) (aggregate : σ) :
    (state.apply request actor aggregate).directEvents = state.directEvents := rfl

@[simp] theorem directApplications_rows (rows : ρ) :
    ({ state with rows } : State ρ σ π).directApplications = state.directApplications := rfl

@[simp] theorem directApplications_record (eventType : EventType) (payload : EventPayload π)
    (actor : Option Uuid) :
    (state.record eventType payload actor).directApplications = state.directApplications := rfl

end State

/-! ## The life of one request -/

/-- The event of leaving pending. -/
def RequestState.event : RequestState → List EventType
  | pending => []
  | approved => [.approved]
  | rejected => [.rejected]
  | expired => [.expired]

/-- What is recorded of a request, and how often it was applied, as its row tells. -/
structure Recorded (settings : Settings) (request : Request π) (history : List EventType)
    (approvals : List (Request π)) : Prop where
  events : history = .submitted :: request.state.event
  applied : approvals = if request.state = .approved then [request] else []
  checked : request.state = .approved ∨ request.state = .rejected →
    ∃ checker, request.checkerId = some checker ∧ checker ≠ request.makerId
  inTime : request.state = .approved → ∃ decidedAt, request.decidedAt = some decidedAt ∧
    decidedAt.ticks < request.createdAt.ticks + settings.expiryWindow

/-- A request that is not stored has no record. -/
def Lifecycle (settings : Settings) : Option (Request π) → List EventType → List (Request π) → Prop
  | none, history, approvals => history = [] ∧ approvals = []
  | some request, history, approvals => Recorded settings request history approvals

theorem lifecycle_effect (effect : Effect service state state') (id : Uuid)
    (before : Lifecycle service.settings (service.repository.getForUpdate state.rows id)
      (state.history id) (state.approvals id)) :
    Lifecycle service.settings (service.repository.getForUpdate state'.rows id)
      (state'.history id) (state'.approvals id) := by
  cases effect with
  | unchanged => exact before
  | @submitted request rows payload actor enabled fresh undecided stored named =>
    simp only [State.rows_record, State.history_record, State.history_rows, State.approvals_record,
      State.approvals_rows, stored, named]
    by_cases same : id = request.id
    · subst same
      rw [fresh] at before
      obtain ⟨unrecorded, unapplied⟩ := before
      rw [if_pos rfl]
      exact
        { events := by simp [unrecorded, undecided.pending, RequestState.event]
          applied := by simp [unapplied, undecided.pending]
          checked := by simp [undecided.pending]
          inTime := by simp [undecided.pending] }
    · simpa [same, Ne.symm same] using before
  | @direct definition request maker aggregate payload actor _ unchecked _ _ _ named =>
    simpa [unchecked] using before
  | @approved definition request checker now reason aggregate rows payload actor found pending
      distinct inTime _ _ stored named =>
    simp only [State.rows_record, State.history_record, State.history_rows, State.approvals_record,
      State.approvals_rows, State.approvals_apply, State.history_apply, stored, named]
    by_cases same : id = request.id
    · subst same
      rw [found] at before
      rw [if_pos rfl]
      exact
        { events := by simp [before.events, pending, Request.decided, RequestState.event]
          applied := by simp [before.applied, pending, Request.decided]
          checked := fun _ => ⟨checker, rfl, distinct.symm⟩
          inTime := fun _ => ⟨now, rfl, by
            unfold isExpired at inTime
            rw [decide_eq_false_iff_not, not_le] at inTime
            exact inTime⟩ }
    · simpa [same, Ne.symm same, Request.decided] using before
  | @rejected request checker now reason rows payload actor found pending distinct stored named =>
    simp only [State.rows_record, State.history_record, State.history_rows, State.approvals_record,
      State.approvals_rows, stored, named]
    by_cases same : id = request.id
    · subst same
      rw [found] at before
      rw [if_pos rfl]
      exact
        { events := by simp [before.events, pending, Request.decided, RequestState.event]
          applied := by simp [before.applied, pending, Request.decided]
          checked := fun _ => ⟨checker, rfl, distinct.symm⟩
          inTime := by simp [Request.decided] }
    · simpa [same, Ne.symm same, Request.decided] using before
  | @expired request now reason rows payload found pending elapsed stored named =>
    have history : (({ state with rows } : State ρ σ π).record .expired payload none).history id =
        state.history id ++ if request.id = id then [.expired] else [] := by
      simp [named, Request.expired]
    change Lifecycle _ (service.repository.getForUpdate rows id)
      ((({ state with rows } : State ρ σ π).record .expired payload none).history id)
      (state.approvals id)
    rw [history, stored]
    by_cases same : id = request.id
    · subst same
      rw [found] at before
      rw [if_pos rfl]
      exact
        { events := by simp [before.events, pending, Request.expired, RequestState.event]
          applied := before.applied.trans (by simp [pending, Request.expired])
          checked := by simp [Request.expired]
          inTime := by simp [Request.expired] }
    · rw [if_neg same, if_neg (Ne.symm same), List.append_nil]
      exact before
  | @swept batchId candidates expired =>
    have history : ({ state with
        audit := state.audit ++ [.expireBatch batchId candidates expired] } : State ρ σ π).history id =
          state.history id := by
      unfold State.history
      rw [List.filterMap_append]
      exact List.append_nil _
    rw [history]
    exact before

/-- A stored request stays, and one that is not pending any more stays as it is. -/
theorem stored_effect (effect : Effect service state state') {id : Uuid} {request : Request π}
    (found : service.repository.getForUpdate state.rows id = some request) :
    ∃ request', service.repository.getForUpdate state'.rows id = some request' ∧
      (request.state ≠ .pending → request' = request) := by
  have replaced : ∀ {rows : ρ} {old row : Request π},
      service.repository.getForUpdate state.rows old.id = some old → old.state = .pending →
      (∀ other, service.repository.getForUpdate rows other =
        if other = old.id then some row else service.repository.getForUpdate state.rows other) →
      ∃ request', service.repository.getForUpdate rows id = some request' ∧
        (request.state ≠ .pending → request' = request) := by
    intro rows old row stored pending written
    rw [written]
    by_cases same : id = old.id
    · rw [same, stored] at found
      cases found
      exact ⟨row, if_pos same, fun settled => absurd pending settled⟩
    · exact ⟨request, by rw [if_neg same, found], fun _ => rfl⟩
  cases effect with
  | unchanged => exact ⟨request, found, fun _ => rfl⟩
  | @submitted new rows _ _ _ fresh _ stored _ =>
    refine ⟨request, ?_, fun _ => rfl⟩
    rw [State.rows_record, stored, if_neg, found]
    rintro rfl
    rw [fresh] at found
    cases found
  | direct => exact ⟨request, found, fun _ => rfl⟩
  | approved stored pending _ _ _ _ written => exact replaced stored pending written
  | rejected stored pending _ written => exact replaced stored pending written
  | expired stored pending _ written => exact replaced stored pending written
  | swept => exact ⟨request, found, fun _ => rfl⟩

/-! ## Requests that are applied without a second actor -/

/-- Every direct application is recorded, and happens at once while the control is off. -/
structure DirectlyApplied (settings : Settings) (state : State ρ σ π) : Prop where
  recorded : state.directEvents = state.directApplications
  atOnce : ∀ request ∈ state.directApplications, request.state = .approved ∧
    request.decidedAt = some request.createdAt ∧ settings.isEnabled request.operation = false

theorem directlyApplied_effect (effect : Effect service state state')
    (before : DirectlyApplied service.settings state) :
    DirectlyApplied service.settings state' := by
  -- all but the direct application leave both lists as they are
  have kept : state'.directEvents = state.directEvents →
      state'.directApplications = state.directApplications →
      DirectlyApplied service.settings state' := by
    intro events applications
    exact ⟨by rw [events, applications, before.recorded], by
      rw [applications]
      exact before.atOnce⟩
  cases effect with
  | unchanged => exact before
  | submitted => exact kept (by simp) (by simp)
  | @direct definition request maker aggregate payload actor disabled unchecked approved atOnce _
      named =>
    refine ⟨by simp [unchecked, named, before.recorded], ?_⟩
    intro applied listed
    simp only [State.directApplications_record, State.directApplications_apply, unchecked, if_true,
      List.mem_append, List.mem_singleton] at listed
    rcases listed with earlier | rfl
    · exact before.atOnce applied earlier
    · exact ⟨approved, atOnce, disabled⟩
  | approved => exact kept (by simp) (by simp [Request.decided])
  | rejected => exact kept (by simp) (by simp)
  | @expired request now reason rows payload _ _ _ _ _ =>
    have events : (({ state with rows } : State ρ σ π).record .expired payload none).directEvents =
        state.directEvents := by simp
    exact kept events rfl
  | @swept id candidates expired =>
    refine kept ?_ rfl
    unfold State.directEvents
    rw [List.filterMap_append]
    exact List.append_nil _

/-! ## Runs -/

/-- A call of the service, or one section of the two calls that are loops: between their sections
    other callers may get in. -/
inductive Call (π : Type) where
  | submit (operation : Text) (subject : Service.Subject) (payload : π) (maker : Principal)
      (id : Uuid) (now : UtcInstant)
  | decide (id : Uuid) (checker : Principal) (approved : Bool) (reason : Option Text)
      (now : UtcInstant)
  | expire (id : Uuid) (now : UtcInstant)
  | listPending (checker : Principal) (now : UtcInstant)
  | expirePending (clock : Nat → UtcInstant) (batchId : Uuid)
  | expireListed (id : Uuid) (now : UtcInstant)
  | summarise (batchId : Uuid) (candidates : Nat) (expired : List Uuid)

/-- The state a call leaves, also when it raises. -/
def Call.after (service : Service ρ σ π) (state : State ρ σ π) : Call π → State ρ σ π
  | submit operation subject payload maker id now =>
    (service.submit operation subject payload maker id now state).2
  | decide id checker approved reason now =>
    (service.decide id checker approved reason now state).2
  | expire id now => (service.expire id now state).2
  | listPending checker now => (service.listPending checker now state).2
  | expirePending clock batchId => (service.expirePending clock batchId state).2
  | expireListed id now => (service.expireListed id now state).2
  | summarise batchId candidates expired =>
    { state with audit := state.audit ++ [.expireBatch batchId candidates expired] }

theorem Call.effects (service : Service ρ σ π) (state : State ρ σ π) (call : Call π) :
    Effects service state (call.after service state) := by
  cases call with
  | submit operation subject payload maker id now =>
    exact .single (submit_effect service operation subject payload maker id now state)
  | decide id checker approved reason now =>
    exact .single (decide_effect service id checker approved reason now state)
  | expire id now => exact .single (expire_lapse service id now state).effect
  | listPending checker now => exact (listPending_lapses service checker now state).effects
  | expirePending clock batchId => exact (expirePending_lapses service clock batchId state).effects
  | expireListed id now => exact .single (expireListed_lapse service id now state).effect
  | summarise batchId candidates expired => exact .single .swept

/-- Calls one after the other, under one setting; the callbacks may read anything else. A call
    whose transaction is rolled back leaves nothing, and is no step. -/
inductive Run (repository : Repository ρ π) (settings : Settings) (start : State ρ σ π) :
    State ρ σ π → Prop where
  | start : Run repository settings start start
  | call {state : State ρ σ π} (operations : List (ApprovalOperation σ π)) (call : Call π)
      (before : Run repository settings start state) :
      Run repository settings start (call.after ⟨repository, settings, operations⟩ state)

/-- What every call preserves, a run preserves. -/
theorem Run.invariant {repository : Repository ρ π} {settings : Settings}
    {start final : State ρ σ π} (inv : State ρ σ π → Prop)
    (preserved : ∀ operations state state',
      Effect ⟨repository, settings, operations⟩ state state' → inv state → inv state')
    (run : Run repository settings start final) (initial : inv start) : inv final := by
  induction run with
  | start => exact initial
  | @call state operations call _ ih =>
    have sections : ∀ {state' : State ρ σ π},
        Effects ⟨repository, settings, operations⟩ state state' → inv state' := by
      intro state' effects
      induction effects with
      | refl => exact ih
      | tail _ effect ih => exact preserved operations _ _ effect ih
    exact sections (call.effects _ state)

/-- Nothing has been submitted yet. -/
structure Fresh (repository : Repository ρ π) (state : State ρ σ π) : Prop where
  rows : ∀ id, repository.getForUpdate state.rows id = none
  audit : state.audit = []
  applications : state.applications = []

/-- The life of every request, at any point of any run: its record has its submission and the one
    event of its state; its payload has been applied once if it is approved, by a checker who is
    not its maker and before its window elapsed, and not otherwise; once it has left pending it
    stays as it is. Where the control is off, every application is at once and recorded once. -/
theorem run_requests {repository : Repository ρ π} {settings : Settings}
    {start middle final : State ρ σ π} (fresh : Fresh repository start)
    (before : Run repository settings start middle) (after : Run repository settings middle final) :
    (∀ id, Lifecycle settings (repository.getForUpdate middle.rows id) (middle.history id)
      (middle.approvals id)) ∧
    (∀ id request, repository.getForUpdate middle.rows id = some request →
      ∃ request', repository.getForUpdate final.rows id = some request' ∧
        (request.state ≠ .pending → request' = request)) ∧
    DirectlyApplied settings middle := by
  refine ⟨fun id => ?_, fun id request found => ?_, ?_⟩
  · apply before.invariant (fun state => Lifecycle settings
      (repository.getForUpdate state.rows id) (state.history id) (state.approvals id))
    · exact fun operations state state' effect => lifecycle_effect effect id
    · rw [fresh.rows]
      simp [Lifecycle, State.history, State.approvals, fresh.audit, fresh.applications]
  · apply after.invariant (fun state => ∃ request', repository.getForUpdate state.rows id =
      some request' ∧ (request.state ≠ .pending → request' = request))
    · intro operations state state' effect held
      obtain ⟨row, stored, same⟩ := held
      obtain ⟨row', stored', same'⟩ := stored_effect effect stored
      refine ⟨row', stored', fun settled => ?_⟩
      have kept := same settled
      exact (same' (by rw [kept]; exact settled)).trans kept
    · exact ⟨request, found, fun _ => rfl⟩
  · apply before.invariant (DirectlyApplied settings)
    · exact fun operations state state' effect => directlyApplied_effect effect
    · refine ⟨?_, ?_⟩
      · simp [State.directEvents, State.directApplications, fresh.audit, fresh.applications]
      · simp [State.directApplications, fresh.applications]

theorem week_pos : (0 : Int) < 7 * dayMicroseconds := by decide

/-- A service with one operation that counts its applications. -/
def countingService : Service (Rows Unit) Nat Unit where
  repository := databaseRepository Unit
  settings := { expiryWindow := 7 * dayMicroseconds, enabledOperations := [], positive := week_pos }
  operations :=
    [{ name := "covenant_amendment".toList
       proposePermission := .registerCovenant
       approvePermission := .approveCovenant
       distinct := registerCovenant_ne_approveCovenant
       callback := fun _ _ count => .ok (count + 1) }]

theorem fifth_valid : 1 ≤ 2026 ∧ 2026 ≤ 9999 ∧ 1 ≤ 1 ∧ 1 ≤ 12 ∧
    1 ≤ 5 ∧ 5 ≤ daysInMonth 2026 1 := by decide

theorem sixth_valid : 1 ≤ 2026 ∧ 2026 ≤ 9999 ∧ 1 ≤ 1 ∧ 1 ≤ 12 ∧
    1 ≤ 6 ∧ 6 ≤ daysInMonth 2026 1 := by decide

/-- Noon of two days in January 2026. -/
def januaryNoon (next : Bool) : UtcInstant where
  date := if next then ⟨2026, 1, 6, sixth_valid⟩ else ⟨2026, 1, 5, fifth_valid⟩
  microsecond := 43200 * 10 ^ 6
  inDay := by decide

/-- A maker's proposal. -/
def sampleProposal : Call Unit :=
  .submit "covenant_amendment".toList ⟨"covenant_version".toList, Uuid.ofInt 5⟩ ()
    { id := Uuid.ofInt 1, permissions := [.registerCovenant], kind := .user } (Uuid.ofInt 7)
    (januaryNoon false)

/-- Its approval by a checker, a day later. -/
def sampleApproval : Call Unit :=
  .decide (Uuid.ofInt 7)
    { id := Uuid.ofInt 2, permissions := [.approveCovenant], kind := .user } true none
    (januaryNoon true)

/-- Nothing submitted, nothing applied. -/
def sampleStart : State (Rows Unit) Nat Unit := ⟨KeyedTable.empty, 0, [], [], []⟩

/-- The state after the two calls. -/
def sampleState : State (Rows Unit) Nat Unit :=
  sampleApproval.after countingService (sampleProposal.after countingService sampleStart)

theorem run_requests_sample :
    sampleState.history (Uuid.ofInt 7) = [.submitted, .approved] ∧
      (sampleState.approvals (Uuid.ofInt 7)).length = 1 ∧ sampleState.aggregate = 1 := by
  have fresh : Fresh (databaseRepository Unit) sampleStart := ⟨fun _ => rfl, rfl, rfl⟩
  have run : Run (databaseRepository Unit) countingService.settings sampleStart sampleState :=
    .call countingService.operations sampleApproval
      (.call countingService.operations sampleProposal .start)
  have recorded := (run_requests fresh run .start).1 (Uuid.ofInt 7)
  have stored : ∃ request, (databaseRepository Unit).getForUpdate sampleState.rows (Uuid.ofInt 7) =
      some request ∧ request.state = .approved := ⟨_, rfl, rfl⟩
  obtain ⟨request, found, approved⟩ := stored
  rw [found] at recorded
  refine ⟨recorded.events.trans (by rw [approved]; rfl), ?_, rfl⟩
  rw [recorded.applied, if_pos approved]
  rfl

end Approvals

end CovenantRadar
