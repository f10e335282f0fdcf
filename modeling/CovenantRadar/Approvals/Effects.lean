import CovenantRadar.Approvals.Service

/-!
# What a call of the approval service does

Every method amounts to a few kinds of change. Each is said once here, with the guards that let it
happen; what follows about requests is derived from the kinds alone.
-/

namespace CovenantRadar

namespace Approvals

open Security

variable {ρ σ π : Type} {service : Service ρ σ π} {state : State ρ σ π}

/-! ## The starts of the methods -/

theorem getOperation_eq_ok {operations : List (ApprovalOperation σ π)} {operation : Text}
    {definition : ApprovalOperation σ π} (found : getOperation operations operation = .ok definition) :
    validatedOperation operation = .ok definition.name ∧ definition ∈ operations := by
  unfold getOperation at found
  cases valid : validatedOperation operation with
  | error error =>
    rw [valid] at found
    cases found
  | ok name =>
    simp only [valid] at found
    cases search : operations.find? fun definition => definition.name = name with
    | none =>
      rw [search] at found
      cases found
    | some listed =>
      rw [search] at found
      cases found
      have same := List.find?_some search
      rw [decide_eq_true_eq] at same
      exact ⟨by rw [same], List.mem_of_find?_eq_some search⟩

theorem propose_eq_ok {operation : Text} {subject : Service.Subject} {payload : π}
    {maker : Principal} {id : Uuid} {now : UtcInstant} {definition : ApprovalOperation σ π}
    {request : Request π}
    (proposed : service.propose operation subject payload maker id now = .ok (definition, request)) :
    getOperation service.operations operation = .ok definition ∧ request.Submitted ∧
      request.id = id ∧ request.operation = definition.name ∧ request.payload = payload ∧
      request.makerId = maker.id ∧ request.createdAt = now := by
  unfold Service.propose at proposed
  obtain ⟨found, looked, proposed⟩ := Except.bind_eq_ok_iff.mp proposed
  obtain ⟨_, _, proposed⟩ := Except.bind_eq_ok_iff.mp proposed
  obtain ⟨_, _, proposed⟩ := Except.bind_eq_ok_iff.mp proposed
  cases proposed
  exact ⟨looked, ⟨rfl, rfl, rfl, rfl⟩, rfl, rfl, rfl, rfl, rfl⟩

theorem decidable_eq_ok {id : Uuid} {checker : Principal} {rows : ρ}
    {definition : ApprovalOperation σ π} {request : Request π}
    (decidable : service.decidable id checker rows = .ok (definition, request)) :
    service.repository.getForUpdate rows id = some request ∧
      getOperation service.operations request.operation = .ok definition ∧
      request.state = .pending ∧ request.makerId ≠ checker.id := by
  unfold Service.decidable at decidable
  cases found : service.repository.getForUpdate rows id with
  | none =>
    rw [found] at decidable
    cases decidable
  | some row =>
    simp only [found] at decidable
    obtain ⟨operation, looked, decidable⟩ := Except.bind_eq_ok_iff.mp decidable
    obtain ⟨_, _, decidable⟩ := Except.bind_eq_ok_iff.mp decidable
    by_cases pending : row.state = .pending
    · by_cases maker : row.makerId = checker.id
      · simp only [pending, maker, ne_eq, not_true_eq_false, if_false, if_true] at decidable
        cases decidable
      · simp only [pending, maker, ne_eq, not_true_eq_false, if_false] at decidable
        cases decidable
        exact ⟨rfl, looked, pending, maker⟩
    · simp only [pending, ne_eq, not_false_eq_true, if_true] at decidable
      cases decidable

/-! ## The kinds of change -/

/-- What one locked section of a method makes of the state. -/
inductive Effect (service : Service ρ σ π) (state : State ρ σ π) : State ρ σ π → Prop where
  | unchanged : Effect service state state
  | submitted {request : Request π} {rows : ρ} {payload : EventPayload π} {actor : Option Uuid}
      (enabled : service.settings.isEnabled request.operation = true)
      (fresh : service.repository.getForUpdate state.rows request.id = none)
      (undecided : request.Submitted)
      (stored : ∀ id, service.repository.getForUpdate rows id =
        if id = request.id then some request else service.repository.getForUpdate state.rows id)
      (named : payload.request = request) :
      Effect service state ({ state with rows }.record .submitted payload actor)
  | direct {definition : ApprovalOperation σ π} {request : Request π} {maker : Uuid} {aggregate : σ}
      {payload : EventPayload π} {actor : Option Uuid}
      (disabled : service.settings.isEnabled request.operation = false)
      (unchecked : request.checkerId = none)
      (approved : request.state = .approved)
      (atOnce : request.decidedAt = some request.createdAt)
      (called : definition.callback request maker state.aggregate = .ok aggregate)
      (named : payload.request = request) :
      Effect service state
        ((state.apply request maker aggregate).record .disabledApplied payload actor)
  | approved {definition : ApprovalOperation σ π} {request : Request π} {checker : Uuid}
      {now : UtcInstant} {reason : Option Text} {aggregate : σ} {rows : ρ}
      {payload : EventPayload π} {actor : Option Uuid}
      (found : service.repository.getForUpdate state.rows request.id = some request)
      (pending : request.state = .pending)
      (distinct : request.makerId ≠ checker)
      (inTime : isExpired request now service.settings = false)
      (operation : getOperation service.operations request.operation = .ok definition)
      (called : definition.callback (request.decided checker .approved now reason) checker
        state.aggregate = .ok aggregate)
      (stored : ∀ id, service.repository.getForUpdate rows id =
        if id = request.id then some (request.decided checker .approved now reason)
        else service.repository.getForUpdate state.rows id)
      (named : payload.request = request.decided checker .approved now reason) :
      Effect service state ({ state.apply (request.decided checker .approved now reason) checker
        aggregate with rows }.record .approved payload actor)
  | rejected {request : Request π} {checker : Uuid} {now : UtcInstant} {reason : Option Text}
      {rows : ρ} {payload : EventPayload π} {actor : Option Uuid}
      (found : service.repository.getForUpdate state.rows request.id = some request)
      (pending : request.state = .pending)
      (distinct : request.makerId ≠ checker)
      (stored : ∀ id, service.repository.getForUpdate rows id =
        if id = request.id then some (request.decided checker .rejected now reason)
        else service.repository.getForUpdate state.rows id)
      (named : payload.request = request.decided checker .rejected now reason) :
      Effect service state ({ state with rows }.record .rejected payload actor)
  | expired {request : Request π} {now : UtcInstant} {reason : Option Text} {rows : ρ}
      {payload : EventPayload π}
      (found : service.repository.getForUpdate state.rows request.id = some request)
      (pending : request.state = .pending)
      (elapsed : isExpired request now service.settings = true)
      (stored : ∀ id, service.repository.getForUpdate rows id =
        if id = request.id then some (request.expired now reason)
        else service.repository.getForUpdate state.rows id)
      (named : payload.request = request.expired now reason) :
      Effect service state { { state with rows }.record .expired payload none with
        notifications := state.notifications ++ [payload] }
  | swept {id : Uuid} {candidates : Nat} {expired : List Uuid} :
      Effect service state
        { state with audit := state.audit ++ [.expireBatch id candidates expired] }

/-- The sections of a method, one after the other. -/
abbrev Effects (service : Service ρ σ π) : State ρ σ π → State ρ σ π → Prop :=
  Relation.ReflTransGen (Effect service)

/-- The changes that only let time pass: requests expire, and nothing is applied. -/
inductive Lapse (service : Service ρ σ π) (state : State ρ σ π) : State ρ σ π → Prop where
  | unchanged : Lapse service state state
  | expired {request : Request π} {now : UtcInstant} {reason : Option Text} {rows : ρ}
      {payload : EventPayload π}
      (found : service.repository.getForUpdate state.rows request.id = some request)
      (pending : request.state = .pending)
      (elapsed : isExpired request now service.settings = true)
      (stored : ∀ id, service.repository.getForUpdate rows id =
        if id = request.id then some (request.expired now reason)
        else service.repository.getForUpdate state.rows id)
      (named : payload.request = request.expired now reason) :
      Lapse service state { { state with rows }.record .expired payload none with
        notifications := state.notifications ++ [payload] }
  | swept {id : Uuid} {candidates : Nat} {expired : List Uuid} :
      Lapse service state
        { state with audit := state.audit ++ [.expireBatch id candidates expired] }

/-- Expiries one after the other. -/
abbrev Lapses (service : Service ρ σ π) : State ρ σ π → State ρ σ π → Prop :=
  Relation.ReflTransGen (Lapse service)

theorem Lapse.effect {state' : State ρ σ π} (lapse : Lapse service state state') :
    Effect service state state' := by
  cases lapse with
  | unchanged => exact .unchanged
  | expired found pending elapsed stored named =>
    exact .expired found pending elapsed stored named
  | swept => exact .swept

theorem Lapses.effects {state' : State ρ σ π} (lapses : Lapses service state state') :
    Effects service state state' :=
  @Relation.ReflTransGen.mono _ (Lapse service) (Effect service) (fun _ _ lapse => lapse.effect)
    _ _ lapses

/-! ## The methods -/

theorem submit_effect (service : Service ρ σ π) (operation : Text) (subject : Service.Subject)
    (payload : π) (maker : Principal) (id : Uuid) (now : UtcInstant) (state : State ρ σ π) :
    Effect service state (service.submit operation subject payload maker id now state).2 := by
  unfold Service.submit
  cases proposed : service.propose operation subject payload maker id now with
  | error error => exact .unchanged
  | ok proposal =>
    obtain ⟨definition, request⟩ := proposal
    obtain ⟨_, undecided, _, named, _⟩ := propose_eq_ok proposed
    simp only
    by_cases enabled : service.settings.isEnabled definition.name = true
    · rw [if_pos enabled]
      cases created : service.repository.create state.rows request with
      | error error => exact .unchanged
      | ok created' =>
        obtain ⟨persisted, rows⟩ := created'
        obtain ⟨fresh, rfl, stored⟩ := service.repository.create_spec undecided created
        simp only [undecided.pending, if_true]
        exact .submitted (by rw [named, enabled]) fresh undecided stored rfl
    · rw [if_neg enabled]
      unfold Service.applyDirectly
      simp only
      cases called : definition.callback { request with state := .approved, decidedAt := some now }
          maker.id state.aggregate with
      | error error => exact .unchanged
      | ok aggregate =>
        have created := (propose_eq_ok proposed).2.2.2.2.2.2
        refine .direct (by simpa [named] using enabled) undecided.unchecked rfl ?_ called rfl
        exact congrArg some created.symm

/-- What a proposal that was accepted has done: a pending request is stored, or the payload is
    applied. -/
theorem submit_eq_ok {operation : Text} {subject : Service.Subject} {payload : π}
    {maker : Principal} {id : Uuid} {now : UtcInstant} {request : Request π}
    {state' : State ρ σ π}
    (submitted : service.submit operation subject payload maker id now state =
      (.ok request, state')) :
    ∃ definition, getOperation service.operations operation = .ok definition ∧
      request.operation = definition.name ∧ request.payload = payload ∧
      (service.settings.isEnabled definition.name = true ∧ request.Submitted ∧
          service.repository.getForUpdate state.rows request.id = none ∧
          state'.aggregate = state.aggregate ∧
          (∀ other, service.repository.getForUpdate state'.rows other =
            if other = request.id then some request
            else service.repository.getForUpdate state.rows other) ∨
        service.settings.isEnabled definition.name = false ∧ state'.rows = state.rows ∧
          definition.callback request maker.id state.aggregate = .ok state'.aggregate) := by
  unfold Service.submit at submitted
  cases proposed : service.propose operation subject payload maker id now with
  | error error =>
    rw [proposed] at submitted
    cases submitted
  | ok proposal =>
    obtain ⟨definition, proposal⟩ := proposal
    obtain ⟨looked, undecided, _, named, about, _⟩ := propose_eq_ok proposed
    simp only [proposed] at submitted
    refine ⟨definition, looked, ?_⟩
    by_cases enabled : service.settings.isEnabled definition.name = true
    · rw [if_pos enabled] at submitted
      cases created : service.repository.create state.rows proposal with
      | error error =>
        rw [created] at submitted
        cases submitted
      | ok created' =>
        obtain ⟨persisted, rows⟩ := created'
        obtain ⟨fresh, rfl, stored⟩ := service.repository.create_spec undecided created
        simp only [created, undecided.pending, if_true] at submitted
        cases submitted
        exact ⟨named, about, .inl ⟨enabled, undecided, fresh, rfl, stored⟩⟩
    · rw [if_neg enabled] at submitted
      unfold Service.applyDirectly at submitted
      simp only at submitted
      cases called : definition.callback
          { proposal with state := .approved, decidedAt := some now } maker.id state.aggregate with
      | error error =>
        rw [called] at submitted
        cases submitted
      | ok aggregate =>
        rw [called] at submitted
        cases submitted
        exact ⟨named, about, .inr ⟨by simpa using enabled, rfl, called⟩⟩

theorem expireLocked_lapse {request : Request π} {now : UtcInstant}
    (found : service.repository.getForUpdate state.rows request.id = some request)
    (pending : request.state = .pending)
    (elapsed : isExpired request now service.settings = true) :
    Lapse service state (service.expireLocked request now state).2 := by
  unfold Service.expireLocked
  obtain ⟨expired, rows, written⟩ := service.repository.expire_returns now found pending
  obtain ⟨row, found', _, _, ⟨reason, rfl⟩, stored⟩ := service.repository.expire_spec written
  rw [found] at found'
  cases found'
  simp only [written, Request.expired, if_true]
  exact .expired found pending elapsed stored rfl

theorem settle_effect {definition : ApprovalOperation σ π} {request : Request π}
    {checker : Principal} {now : UtcInstant} (approved : Bool) (reason : Option Text)
    (found : service.repository.getForUpdate state.rows request.id = some request)
    (operation : getOperation service.operations request.operation = .ok definition)
    (pending : request.state = .pending) (distinct : request.makerId ≠ checker.id)
    (inTime : isExpired request now service.settings = false) :
    Effect service state
      (service.settle definition request checker approved reason now state).2 := by
  unfold Service.settle
  cases approved with
  | true =>
    simp only [if_true]
    cases called : definition.callback (request.decided checker.id .approved now reason) checker.id
        state.aggregate with
    | error error => exact .unchanged
    | ok aggregate =>
      obtain ⟨decided, rows, written⟩ :=
        service.repository.decide_returns checker.id .approved now reason found pending
      obtain ⟨row, found', _, _, rfl, stored⟩ := service.repository.decide_spec written
      rw [found] at found'
      cases found'
      simp only [Except.map, State.apply, written]
      exact .approved found pending distinct inTime operation called stored rfl
  | false =>
    simp only [Bool.false_eq_true, if_false]
    obtain ⟨decided, rows, written⟩ :=
      service.repository.decide_returns checker.id .rejected now reason found pending
    obtain ⟨row, found', _, _, rfl, stored⟩ := service.repository.decide_spec written
    rw [found] at found'
    cases found'
    simp only [written]
    exact .rejected found pending distinct stored rfl

/-- What a decision that was accepted has done: the row is decided, and the payload of an approval
    applied. -/
theorem decide_eq_ok {id : Uuid} {checker : Principal} {approved : Bool} {reason : Option Text}
    {now : UtcInstant} {decided : Request π} {state' : State ρ σ π}
    (returned : service.decide id checker approved reason now state = (.ok decided, state')) :
    ∃ request definition reason', service.repository.getForUpdate state.rows id = some request ∧
      getOperation service.operations request.operation = .ok definition ∧
      request.state = .pending ∧
      decided = request.decided checker.id (if approved then .approved else .rejected) now reason' ∧
      (∀ other, service.repository.getForUpdate state'.rows other =
        if other = id then some decided else service.repository.getForUpdate state.rows other) ∧
      (if approved = true then
        definition.callback decided checker.id state.aggregate = .ok state'.aggregate
      else state'.aggregate = state.aggregate) := by
  unfold Service.decide at returned
  cases decidable : service.decidable id checker state.rows with
  | error error =>
    rw [decidable] at returned
    cases returned
  | ok start =>
    obtain ⟨definition, request⟩ := start
    obtain ⟨found, operation, pending, _⟩ := decidable_eq_ok decidable
    cases service.repository.id_eq found
    simp only [decidable] at returned
    by_cases elapsed : isExpired request now service.settings = true
    · rw [if_pos elapsed] at returned
      split at returned <;> cases returned
    rw [if_neg elapsed] at returned
    cases valid : validateReason reason (!approved) with
    | error error =>
      rw [valid] at returned
      cases returned
    | ok reason' =>
      simp only [valid] at returned
      refine ⟨request, definition, reason', found, operation, pending, ?_⟩
      unfold Service.settle at returned
      cases approved with
      | true =>
        simp only [if_true] at returned ⊢
        cases called : definition.callback (request.decided checker.id .approved now reason')
            checker.id state.aggregate with
        | error error =>
          rw [called] at returned
          cases returned
        | ok aggregate =>
          obtain ⟨row, rows, written⟩ :=
            service.repository.decide_returns checker.id .approved now reason' found pending
          obtain ⟨_, found', _, _, rfl, stored⟩ := service.repository.decide_spec written
          rw [found] at found'
          cases found'
          simp only [called, Except.map, State.apply, written] at returned
          cases returned
          exact ⟨rfl, stored, called⟩
      | false =>
        simp only [Bool.false_eq_true, if_false] at returned ⊢
        obtain ⟨row, rows, written⟩ :=
          service.repository.decide_returns checker.id .rejected now reason' found pending
        obtain ⟨_, found', _, _, rfl, stored⟩ := service.repository.decide_spec written
        rw [found] at found'
        cases found'
        simp only [written] at returned
        cases returned
        exact ⟨rfl, stored, rfl⟩

theorem decide_effect (service : Service ρ σ π) (id : Uuid) (checker : Principal)
    (approved : Bool) (reason : Option Text) (now : UtcInstant) (state : State ρ σ π) :
    Effect service state (service.decide id checker approved reason now state).2 := by
  unfold Service.decide
  cases decidable : service.decidable id checker state.rows with
  | error error => exact .unchanged
  | ok start =>
    obtain ⟨definition, request⟩ := start
    obtain ⟨found, operation, pending, distinct⟩ := decidable_eq_ok decidable
    cases service.repository.id_eq found
    simp only
    by_cases elapsed : isExpired request now service.settings = true
    · rw [if_pos elapsed]
      have effect := (expireLocked_lapse found pending elapsed).effect
      split
      · rename_i same
        rw [same] at effect
        exact effect
      · rename_i same
        rw [same] at effect
        exact effect
    · rw [if_neg elapsed]
      cases validateReason reason (!approved) with
      | error error => exact .unchanged
      | ok reason =>
        exact settle_effect approved reason found operation pending distinct (by simpa using elapsed)

theorem expire_lapse (service : Service ρ σ π) (id : Uuid) (now : UtcInstant) (state : State ρ σ π) :
    Lapse service state (service.expire id now state).2 := by
  unfold Service.expire
  cases found : service.repository.getForUpdate state.rows id with
  | none => exact .unchanged
  | some request =>
    cases service.repository.id_eq found
    simp only
    split_ifs with settled elapsed
    · exact .unchanged
    · exact expireLocked_lapse found (not_not.mp settled) elapsed
    · exact .unchanged

theorem expireListed_lapse (service : Service ρ σ π) (id : Uuid) (now : UtcInstant) (state : State ρ σ π) :
    Lapse service state (service.expireListed id now state).2 := by
  unfold Service.expireListed
  cases found : service.repository.getForUpdate state.rows id with
  | none => exact .unchanged
  | some request =>
    cases service.repository.id_eq found
    simp only
    split_ifs with due
    · have lapse := expireLocked_lapse found due.1 due.2
      split
      · rename_i same
        rw [same] at lapse
        exact lapse
      · rename_i same
        rw [same] at lapse
        exact lapse
    · exact .unchanged

theorem listPendingFrom_lapses (service : Service ρ σ π) (checker : Principal)
    (now : UtcInstant) (requests : List (Request π)) (state : State ρ σ π) :
    Lapses service state (service.listPendingFrom checker now requests state).2 := by
  induction requests generalizing state with
  | nil => exact .refl
  | cons pending rest ih =>
    unfold Service.listPendingFrom
    by_cases settled : pending.state ≠ .pending
    · rw [if_pos settled]
      exact ih state
    rw [if_neg settled]
    cases getOperation service.operations pending.operation with
    | error error => exact .refl
    | ok definition =>
      simp only
      split
      · exact ih state
      · split
        · have lapse := expireListed_lapse service pending.id now state
          split
          · rename_i same
            rw [same] at lapse
            exact .single lapse
          · rename_i same
            rw [same] at lapse
            exact .head lapse (ih _)
        · have lapses := ih state
          split
          · rename_i same
            rw [same] at lapses
            exact lapses
          · rename_i same
            rw [same] at lapses
            exact lapses

theorem listPending_lapses (service : Service ρ σ π) (checker : Principal) (now : UtcInstant)
    (state : State ρ σ π) : Lapses service state (service.listPending checker now state).2 := by
  have lapses := listPendingFrom_lapses service checker now
    (service.repository.listPending state.rows) state
  unfold Service.listPending
  split
  · rename_i same
    rw [same] at lapses
    exact lapses
  · rename_i same
    rw [same] at lapses
    exact lapses

theorem expireEach_lapses (service : Service ρ σ π)
    (candidates : List (Request π × UtcInstant)) (state : State ρ σ π) :
    Lapses service state (service.expireEach candidates state).2 := by
  induction candidates generalizing state with
  | nil => exact .refl
  | cons candidate rest ih =>
    unfold Service.expireEach
    have lapse := expire_lapse service candidate.1.id candidate.2 state
    split
    · rename_i same
      rw [same] at lapse
      exact .single lapse
    · rename_i between same
      rw [same] at lapse
      have lapses := ih between
      split
      · rename_i same
        rw [same] at lapses
        exact .head lapse lapses
      · rename_i same
        rw [same] at lapses
        exact .head lapse lapses

theorem expirePending_lapses (service : Service ρ σ π) (clock : Nat → UtcInstant) (batchId : Uuid)
    (state : State ρ σ π) :
    Lapses service state (service.expirePending clock batchId state).2 := by
  have lapses := expireEach_lapses service
    (((service.repository.listPending state.rows).filter fun request =>
      request.state == .pending).zipIdx.map fun entry => (entry.1, clock entry.2)) state
  unfold Service.expirePending
  simp only
  split
  · rename_i same
    rw [same] at lapses
    exact lapses
  · rename_i same
    rw [same] at lapses
    exact lapses.tail .swept

end Approvals

end CovenantRadar
