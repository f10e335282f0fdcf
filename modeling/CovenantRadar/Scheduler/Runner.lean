import CovenantRadar.Scheduler.Ledger

/-!
# Attempts of the job runner

Source `scheduler/runner.py`: `run_now` starts an attempt in the ledger, runs its handler on a
thread of its own and waits for it, at most as long as the job's timeout. The handlers, the callers
that wait and the calls of the ledger take their steps in any order.
-/

namespace CovenantRadar

namespace Scheduler

variable {μ : Type}

/-- Source `InterruptionPolicy`. -/
inductive InterruptionPolicy where
  | resume
  | restart
  deriving DecidableEq, Repr

/-- Source `JobPolicy`; the timeout is kept as its text, which a timed-out attempt records. -/
structure JobPolicy where
  maxAttempts : Int
  interruption : InterruptionPolicy
  timeoutSeconds : Text
  positive : 1 ≤ maxAttempts

/-- Source `JobRegistry`: the policy of every job that is registered. -/
abbrev JobRegistry : Type := Text → Option JobPolicy

/-- What a handler comes to: metrics, or an exception. -/
inductive HandlerOutcome (μ : Type) where
  | returned (metrics : Option μ)
  | raised (message : Text)

/-- The thread of an attempt, `_work`. -/
inductive Worker (μ : Type) where
  | created
  | executing
  | ended (outcome : HandlerOutcome μ)
  | done (recorded : JobRun μ)

/-- The caller of an attempt, in `_execute` and after it. -/
inductive Caller (μ : Type) where
  | waiting
  | returned (outcome : JobRun μ)
  | finished

/-- An attempt that was started: its row, its thread and its caller. -/
structure Attempt (μ : Type) where
  run : JobRun μ
  worker : Worker μ
  caller : Caller μ

/-- The ledger and the attempts that were started. -/
structure RunnerState (μ : Type) where
  ledger : Ledger μ
  attempts : List (Attempt μ)

/-- A step of the thread or of the caller of an attempt. -/
inductive Action (μ : Type) where
  | begin
  | finish (outcome : HandlerOutcome μ)
  | close (now : UtcInstant)
  | collect
  | timeout (now : UtcInstant)
  | retry (id : Uuid) (newRunId : Text) (startedAt : UtcInstant)

/-- A new trigger, or a step of the attempt in a place. -/
inductive Event (μ : Type) where
  | trigger (request : StartRequest)
  | act (place : Nat) (action : Action μ)

/-! ## The steps -/

/-- Source `_apply_terminal`: the row as the transition left it, or as someone else did. -/
def applyTerminal (id : Uuid) (transition : Option (JobRun μ) × Ledger μ) :
    Option (JobRun μ × Ledger μ) :=
  match transition with
  | (some run, ledger) => some (run, ledger)
  | (none, ledger) => (ledger.find id).map fun run => (run, ledger)

/-- Source `_finalize_success` and `_finalize_failure`. -/
def finalize (ledger : Ledger μ) (id : Uuid) (now : UtcInstant) :
    HandlerOutcome μ → Option (JobRun μ × Ledger μ)
  | .returned metrics => applyTerminal id (ledger.succeed id now metrics)
  | .raised message => applyTerminal id (ledger.fail id now message none)

/-- Source `_finalize_timeout`. -/
def finalizeTimeout (ledger : Ledger μ) (run : JobRun μ) (policy : JobPolicy) (now : UtcInstant) :
    Option (JobRun μ × Ledger μ) :=
  applyTerminal run.id (ledger.fail run.id now ("Job ".toList ++ Text.repr run.jobName ++
    " did not finish within its ".toList ++ policy.timeoutSeconds ++ "-second timeout.".toList) none)

/-- The attempt in a place is replaced. -/
def RunnerState.replace (state : RunnerState μ) (place : Nat) (attempt : Attempt μ) :
    RunnerState μ :=
  { state with attempts := state.attempts.set place attempt }

/-- Source `run_now`, up to where the thread is started: nothing happens where it raises. -/
def RunnerState.start (state : RunnerState μ) (registry : JobRegistry) (request : StartRequest) :
    Option (RunnerState μ) :=
  if (registry request.jobName).isSome then
    match state.ledger.startOrRefuse request with
    | .error _ => none
    | .ok (run, ledger) => some
        { ledger, attempts := state.attempts ++ [{ run, worker := .created, caller := .waiting }] }
  else none

/-- The request of a retry. -/
def retryRequest (run : JobRun μ) (id : Uuid) (newRunId : Text) (startedAt : UtcInstant) :
    StartRequest where
  id := id
  newRunId := newRunId
  jobName := run.jobName
  trigger := "retry".toList
  startedAt := startedAt
  runId := some run.runId
  attempt := run.attempt + 1

/-- A step of the attempt in a place, or `none` where it is not its turn. -/
def Attempt.step (registry : JobRegistry) (state : RunnerState μ) (place : Nat)
    (attempt : Attempt μ) : Action μ → Option (RunnerState μ)
  | .begin =>
    match attempt.worker with
    | .created => some (state.replace place { attempt with worker := .executing })
    | _ => none
  | .finish outcome =>
    match attempt.worker with
    | .executing => some (state.replace place { attempt with worker := .ended outcome })
    | _ => none
  | .close now =>
    match attempt.worker with
    | .ended outcome =>
      (finalize state.ledger attempt.run.id now outcome).map fun recorded =>
        { state.replace place { attempt with worker := .done recorded.1 } with ledger := recorded.2 }
    | _ => none
  | .collect =>
    match attempt.worker, attempt.caller with
    | .done recorded, .waiting =>
      some (state.replace place { attempt with caller := .returned recorded })
    | _, _ => none
  | .timeout now =>
    match attempt.worker, attempt.caller, registry attempt.run.jobName with
    | .done _, _, _ => none
    | _, .waiting, some policy =>
      (finalizeTimeout state.ledger attempt.run policy now).map fun recorded =>
        { state.replace place { attempt with caller := .returned recorded.1 } with
          ledger := recorded.2 }
    | _, _, _ => none
  | .retry id newRunId startedAt =>
    match attempt.caller, registry attempt.run.jobName with
    | .returned outcome, some policy =>
      if outcome.state = .failed ∧ attempt.run.attempt < policy.maxAttempts then
        (state.replace place { attempt with caller := .finished }).start registry
          (retryRequest attempt.run id newRunId startedAt)
      else none
    | _, _ => none

/-- The state after an event, or `none` where it cannot happen. -/
def Event.step (registry : JobRegistry) (state : RunnerState μ) :
    Event μ → Option (RunnerState μ)
  | trigger request => state.start registry request
  | act place action => state.attempts[place]?.bind fun attempt =>
      attempt.step registry state place action

/-! ## What a step does -/

/-- The handler has not ended yet. -/
def Worker.Open : Worker μ → Prop
  | created => True
  | executing => True
  | ended _ => False
  | done _ => False

/-- The attempts move on: no handler opens again, and no caller waits again. -/
def Follows (attempts attempts' : List (Attempt μ)) : Prop :=
  attempts'.length = attempts.length ∧
    ∀ (place : Nat) (attempt' : Attempt μ), attempts'[place]? = some attempt' →
      ∃ attempt : Attempt μ, attempts[place]? = some attempt ∧ attempt'.run = attempt.run ∧
        (attempt'.worker.Open → attempt.worker.Open) ∧
        (attempt'.caller = .waiting → attempt.caller = .waiting)

/-- The job of which an event starts an attempt. -/
def Event.starts (state : RunnerState μ) : Event μ → Option Text
  | trigger request => some request.jobName
  | act place (.retry _ _ _) => state.attempts[place]?.map fun attempt => attempt.run.jobName
  | act _ _ => none

/-- What an event makes of the state, where it starts attempts of allowed jobs. -/
inductive Event.Effect (allowed : Text → Prop) (state : RunnerState μ) : RunnerState μ → Prop where
  | moved {attempts : List (Attempt μ)} (follows : Follows state.attempts attempts) :
      Effect allowed state { state with attempts }
  | settled {attempts : List (Attempt μ)} {ledger : Ledger μ} {place : Nat} {attempt : Attempt μ}
      (follows : Follows state.attempts attempts) (here : attempts[place]? = some attempt)
      (left' : attempt.worker.Open → attempt.caller ≠ .waiting)
      (others : ∀ id, id ≠ attempt.run.id → ledger.find id = state.ledger.find id)
      (kept : ∀ id run, state.ledger.find id = some run → ∃ run', ledger.find id = some run') :
      Effect allowed state { ledger, attempts }
  | started {attempts : List (Attempt μ)} {run : JobRun μ} (permitted : allowed run.jobName)
      (follows : Follows state.attempts attempts)
      (waits : ∀ (place : Nat) (attempt attempt' : Attempt μ),
        state.attempts[place]? = some attempt → attempts[place]? = some attempt' →
        attempt.caller = .waiting → attempt'.caller = .waiting)
      (alone : ∀ other ∈ state.ledger.rows, other.jobName = run.jobName → other.state ≠ .running)
      (running : run.state = .running) (fresh : state.ledger.find run.id = none) :
      Effect allowed state
        { ledger := state.ledger.insert run fresh
          attempts := attempts ++ [{ run, worker := .created, caller := .waiting }] }

theorem Follows.refl (attempts : List (Attempt μ)) : Follows attempts attempts :=
  ⟨rfl, fun _ attempt found => ⟨attempt, found, rfl, id, id⟩⟩

/-- A replaced attempt that moved on. -/
theorem follows_set {attempts : List (Attempt μ)} {place : Nat} {attempt attempt' : Attempt μ}
    (here : attempts[place]? = some attempt) (run : attempt'.run = attempt.run)
    (opened : attempt'.worker.Open → attempt.worker.Open)
    (waits : attempt'.caller = .waiting → attempt.caller = .waiting) :
    Follows attempts (attempts.set place attempt') := by
  refine ⟨List.length_set, ?_⟩
  intro other found there
  rw [List.getElem?_set] at there
  split_ifs at there with same bound
  · cases there
    exact ⟨attempt, by rw [← same, here], run, opened, waits⟩
  · exact ⟨found, there, rfl, id, id⟩

theorem RunnerState.start_effect {state state' : RunnerState μ} {registry : JobRegistry}
    {request : StartRequest} (started : state.start registry request = some state') :
    ∃ run : JobRun μ, run = request.run ∧
      (∀ other ∈ state.ledger.rows, other.jobName = request.jobName → other.state ≠ .running) ∧
      ∃ fresh : state.ledger.find run.id = none, state' =
        { ledger := state.ledger.insert run fresh
          attempts := state.attempts ++ [{ run, worker := .created, caller := .waiting }] } := by
  unfold RunnerState.start at started
  by_cases known : (registry request.jobName).isSome = true
  · rw [if_pos known] at started
    cases accepted : state.ledger.startOrRefuse request with
    | error error =>
      rw [accepted] at started
      cases started
    | ok result =>
      obtain ⟨run, ledger⟩ := result
      rw [accepted] at started
      cases started
      obtain ⟨rfl, alone, fresh, rfl⟩ := startOrRefuse_eq_ok accepted
      exact ⟨_, rfl, alone, fresh, rfl⟩
  · rw [if_neg known] at started
    cases started

/-- A terminal transition of a row touches no other one. -/
theorem applyTerminal_transition {ledger ledger' : Ledger μ} {id : Uuid} {target : JobState}
    {now : UtcInstant} {error : Option Text} {metrics : Option μ} {run : JobRun μ}
    (terminal : target ≠ .running)
    (applied : applyTerminal id (ledger.transition id target now error metrics) =
      some (run, ledger')) :
    (∀ other, other ≠ id → ledger'.find other = ledger.find other) ∧
      ∀ other row, ledger.find other = some row → ∃ row', ledger'.find other = some row' := by
  have same : ledger' = (ledger.transition id target now error metrics).2 := by
    unfold applyTerminal at applied
    split at applied
    · rename_i equal
      cases applied
      rw [equal]
    · rename_i equal
      rw [Option.map_eq_some_iff] at applied
      obtain ⟨row, _, pair⟩ := applied
      cases pair
      rw [equal]
  subst same
  refine ⟨?_, fun other row found => ((transition_effect id now error metrics terminal).find_kept
    found).1⟩
  intro other apart
  unfold Ledger.transition
  cases found : ledger.find id with
  | none => rfl
  | some row =>
    obtain ⟨_, rfl⟩ := KeyedTable.find_eq_some_iff.mp found
    simp only
    split_ifs with running
    · have found' : ledger.find (row.ended target now error metrics).id = some row := found
      have ended : (ledger.put (row.ended target now error metrics)).find other =
          if other = row.id then some (row.ended target now error metrics)
          else ledger.find other := KeyedTable.find_put found' other
      rw [if_neg apart] at ended
      exact ended
    · rfl

theorem finalize_eq_some {ledger ledger' : Ledger μ} {id : Uuid} {now : UtcInstant}
    {outcome : HandlerOutcome μ} {run : JobRun μ}
    (applied : finalize ledger id now outcome = some (run, ledger')) :
    (∀ other, other ≠ id → ledger'.find other = ledger.find other) ∧
      ∀ other row, ledger.find other = some row → ∃ row', ledger'.find other = some row' := by
  cases outcome with
  | returned metrics => exact applyTerminal_transition (by simp) applied
  | raised message => exact applyTerminal_transition (by simp) applied

theorem Attempt.step_effect {registry : JobRegistry} {allowed : Text → Prop}
    {state state' : RunnerState μ} {place : Nat} {attempt : Attempt μ} {action : Action μ}
    (permitted : ∀ job ∈ (Event.act place action).starts state, allowed job)
    (here : state.attempts[place]? = some attempt)
    (stepped : attempt.step registry state place action = some state') :
    Event.Effect allowed state state' := by
  have bound : place < state.attempts.length := (List.getElem?_eq_some_iff.mp here).1
  have placed : ∀ attempt' : Attempt μ,
      (state.attempts.set place attempt')[place]? = some attempt' := by
    intro attempt'
    simp [bound]
  unfold Attempt.step at stepped
  cases action with
  | begin =>
    simp only at stepped
    split at stepped
    · rename_i created
      cases stepped
      exact .moved (follows_set here rfl (by rw [created]; exact fun _ => trivial) id)
    · cases stepped
  | finish outcome =>
    simp only at stepped
    split at stepped
    · cases stepped
      exact .moved (follows_set here rfl (fun opened => opened.elim) id)
    · cases stepped
  | close now =>
    simp only at stepped
    split at stepped
    · rw [Option.map_eq_some_iff] at stepped
      obtain ⟨recorded, applied, rfl⟩ := stepped
      obtain ⟨others, kept⟩ := finalize_eq_some applied
      refine .settled (follows_set here rfl (fun opened => opened.elim) id) (placed _) ?_ others kept
      intro opened
      exact opened.elim
    · cases stepped
  | collect =>
    simp only at stepped
    split at stepped
    · cases stepped
      exact .moved (follows_set here rfl id nofun)
    · cases stepped
  | timeout now =>
    simp only at stepped
    split at stepped
    · cases stepped
    · rw [Option.map_eq_some_iff] at stepped
      obtain ⟨recorded, applied, rfl⟩ := stepped
      obtain ⟨others, kept⟩ := applyTerminal_transition (by simp) applied
      exact .settled (follows_set here rfl id nofun) (placed _) (fun _ => nofun) others kept
    · cases stepped
  | retry id newRunId startedAt =>
    simp only at stepped
    split at stepped
    · rename_i returned _
      split_ifs at stepped
      obtain ⟨run, rfl, alone, fresh, rfl⟩ := RunnerState.start_effect stepped
      have follows : Follows state.attempts
          (state.attempts.set place { attempt with caller := .finished }) :=
        follows_set here rfl (fun opened => opened) nofun
      have permitted' : allowed attempt.run.jobName :=
        permitted _ (by simp only [Event.starts, here]; rfl)
      refine @Event.Effect.started _ allowed state _
        (retryRequest attempt.run id newRunId startedAt).run permitted' follows ?_ alone rfl fresh
      intro other before after found there waits
      by_cases same : place = other
      · rw [← same, here] at found
        cases found
        rw [returned] at waits
        cases waits
      · rw [List.getElem?_set, if_neg same, found] at there
        cases there
        exact waits
    · cases stepped

theorem Event.effect {registry : JobRegistry} {allowed : Text → Prop}
    {state state' : RunnerState μ} {event : Event μ}
    (permitted : ∀ job ∈ event.starts state, allowed job)
    (stepped : event.step registry state = some state') : Event.Effect allowed state state' := by
  cases event with
  | trigger request =>
    obtain ⟨run, rfl, alone, fresh, rfl⟩ := RunnerState.start_effect stepped
    refine .started (permitted _ rfl) (.refl _) ?_ alone rfl fresh
    intro place attempt attempt' here there waits
    rw [here] at there
    cases there
    exact waits
  | act place action =>
    unfold Event.step at stepped
    rw [Option.bind_eq_some_iff] at stepped
    obtain ⟨attempt, here, stepped⟩ := stepped
    exact attempt.step_effect permitted here stepped

end Scheduler

end CovenantRadar
