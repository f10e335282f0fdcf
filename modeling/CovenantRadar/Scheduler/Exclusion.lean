import CovenantRadar.Approvals.Runs
import CovenantRadar.Scheduler.Runner

/-!
# Handlers of one job

The ledger keeps two attempts of a job apart as long as an attempt's row is running while its
handler is. A timeout ends the row and leaves the handler: from then on only what is started next
decides whether two handlers of the job execute at the same time.
-/

namespace CovenantRadar

namespace Scheduler

variable {μ : Type} {registry : JobRegistry} {state state' : RunnerState μ}

/-- The handler is executing. -/
def Worker.Executing : Worker μ → Prop
  | created => False
  | executing => True
  | ended _ => False
  | done _ => False

theorem Worker.Executing.open {worker : Worker μ} (executing : worker.Executing) : worker.Open := by
  cases worker with
  | executing => trivial
  | created => exact executing.elim
  | ended outcome => exact executing.elim
  | done recorded => exact executing.elim

/-- The attempt timed out before its handler ended. -/
def Attempt.Overdue (attempt : Attempt μ) : Prop :=
  attempt.worker.Open ∧ attempt.caller ≠ .waiting

/-- No two handlers of a job execute at the same time. -/
def RunnerState.Exclusive (state : RunnerState μ) : Prop :=
  ∀ (place place' : Nat) (attempt attempt' : Attempt μ), state.attempts[place]? = some attempt →
    state.attempts[place']? = some attempt' → attempt.worker.Executing →
    attempt'.worker.Executing → attempt.run.jobName = attempt'.run.jobName → place = place'

/-- No attempt of the job is overdue. -/
def RunnerState.Prompt (state : RunnerState μ) (jobName : Text) : Prop :=
  ∀ attempt ∈ state.attempts, attempt.run.jobName = jobName → ¬ attempt.Overdue

/-- An event that starts no attempt of a job with an overdue one. -/
def PromptStep (registry : JobRegistry) (state state' : RunnerState μ) : Prop :=
  ∃ event : Event μ, (∀ job ∈ event.starts state, state.Prompt job) ∧
    event.step registry state = some state'

/-- Such events one after the other. -/
abbrev PromptRun (registry : JobRegistry) : RunnerState μ → RunnerState μ → Prop :=
  Relation.ReflTransGen (PromptStep registry)

/-! ## The invariant -/

/-- Every attempt has a row of its own, which is running while the handler is waited for, and at
    most one handler of a job has not ended. -/
structure Watched (state : RunnerState μ) : Prop where
  stored : ∀ (place : Nat) (attempt : Attempt μ), state.attempts[place]? = some attempt →
    ∃ row, state.ledger.find attempt.run.id = some row
  watched : ∀ (place : Nat) (attempt : Attempt μ), state.attempts[place]? = some attempt →
    attempt.worker.Open → attempt.caller = .waiting →
    ∃ row, state.ledger.find attempt.run.id = some row ∧ row.state = .running ∧
      row.jobName = attempt.run.jobName
  distinct : ∀ (place place' : Nat) (attempt attempt' : Attempt μ),
    state.attempts[place]? = some attempt → state.attempts[place']? = some attempt' →
    attempt.run.id = attempt'.run.id → place = place'
  single : ∀ (place place' : Nat) (attempt attempt' : Attempt μ),
    state.attempts[place]? = some attempt → state.attempts[place']? = some attempt' →
    attempt.worker.Open → attempt'.worker.Open → attempt.run.jobName = attempt'.run.jobName →
    place = place'

theorem Watched.exclusive (watched : Watched state) : state.Exclusive := by
  intro place place' attempt attempt' here there executing executing' same
  exact watched.single place place' attempt attempt' here there executing.open executing'.open same

/-- Attempts that only move on, over a ledger that keeps the rows that are waited for. -/
theorem Watched.follows (watched : Watched state) {attempts : List (Attempt μ)} {ledger : Ledger μ}
    (follows : Follows state.attempts attempts)
    (kept : ∀ id row, state.ledger.find id = some row → ∃ row', ledger.find id = some row')
    (waited : ∀ (place : Nat) (attempt : Attempt μ), attempts[place]? = some attempt →
      attempt.worker.Open → attempt.caller = .waiting →
      ledger.find attempt.run.id = state.ledger.find attempt.run.id) :
    Watched { ledger, attempts } where
  stored := by
    intro place attempt here
    obtain ⟨before, found, same, _⟩ := follows.2 place attempt here
    obtain ⟨row, stored⟩ := watched.stored place before found
    rw [same]
    exact kept _ row stored
  watched := by
    intro place attempt here opened waits
    obtain ⟨before, found, same, opened', waits'⟩ := follows.2 place attempt here
    have unchanged := waited place attempt here opened waits
    obtain ⟨row, stored, running, named⟩ :=
      watched.watched place before found (opened' opened) (waits' waits)
    refine ⟨row, ?_, running, by rw [named, same]⟩
    change ledger.find attempt.run.id = some row
    rw [unchanged, same, stored]
  distinct := by
    intro place place' attempt attempt' here there same
    obtain ⟨before, found, run, _⟩ := follows.2 place attempt here
    obtain ⟨before', found', run', _⟩ := follows.2 place' attempt' there
    exact watched.distinct place place' before before' found found' (by rw [← run, same, run'])
  single := by
    intro place place' attempt attempt' here there opened opened' same
    obtain ⟨before, found, run, still, _⟩ := follows.2 place attempt here
    obtain ⟨before', found', run', still', _⟩ := follows.2 place' attempt' there
    exact watched.single place place' before before' found found' (still opened) (still' opened')
      (by rw [← run, same, run'])

/-- An attempt that is started behind the others, of a job whose handlers have all ended. -/
theorem Watched.started (watched : Watched state) {run : JobRun μ} (running : run.state = .running)
    (fresh : state.ledger.find run.id = none)
    (closed : ∀ attempt ∈ state.attempts, attempt.run.jobName = run.jobName →
      ¬ attempt.worker.Open) :
    Watched { ledger := state.ledger.insert run fresh
              attempts := state.attempts ++
                [{ run, worker := .created, caller := .waiting }] } := by
  have apart : ∀ (place : Nat) (attempt : Attempt μ), state.attempts[place]? = some attempt →
      attempt.run.id ≠ run.id := by
    intro place attempt here same
    obtain ⟨row, stored⟩ := watched.stored place attempt here
    rw [same, fresh] at stored
    cases stored
  have kept : ∀ (place : Nat) (attempt : Attempt μ), state.attempts[place]? = some attempt →
      (state.ledger.insert run fresh).find attempt.run.id =
        state.ledger.find attempt.run.id := by
    intro place attempt here
    rw [KeyedTable.find_insert, if_neg (apart place attempt here)]
  -- an attempt is one of those before, or the new one in the last place
  have split : ∀ {place : Nat} {attempt : Attempt μ}, (state.attempts ++
      [{ run, worker := .created, caller := .waiting }])[place]? = some attempt →
      state.attempts[place]? = some attempt ∨
        place = state.attempts.length ∧
          attempt = { run, worker := .created, caller := .waiting } := by
    intro place attempt here
    rw [List.getElem?_append] at here
    split_ifs at here with bound
    · exact .inl here
    · rw [List.getElem?_singleton] at here
      split_ifs at here with last
      cases here
      exact .inr ⟨by omega, rfl⟩
  refine ⟨?_, ?_, ?_, ?_⟩
  · intro place attempt here
    rcases split here with before | ⟨_, rfl⟩
    · obtain ⟨row, stored⟩ := watched.stored place attempt before
      exact ⟨row, (kept place attempt before).trans stored⟩
    · exact ⟨run, by rw [KeyedTable.find_insert, if_pos rfl]⟩
  · intro place attempt here opened waits
    rcases split here with before | ⟨_, rfl⟩
    · obtain ⟨row, stored, rest⟩ := watched.watched place attempt before opened waits
      exact ⟨row, (kept place attempt before).trans stored, rest⟩
    · exact ⟨run, by rw [KeyedTable.find_insert, if_pos rfl], running, rfl⟩
  · intro place place' attempt attempt' here there same
    rcases split here with before | ⟨rfl, rfl⟩
    · rcases split there with before' | ⟨_, rfl⟩
      · exact watched.distinct place place' attempt attempt' before before' same
      · exact absurd same (apart place attempt before)
    · rcases split there with before' | ⟨rfl, rfl⟩
      · exact absurd same.symm (apart place' attempt' before')
      · rfl
  · intro place place' attempt attempt' here there opened opened' same
    rcases split here with before | ⟨rfl, rfl⟩
    · rcases split there with before' | ⟨_, rfl⟩
      · exact watched.single place place' attempt attempt' before before' opened opened' same
      · exact absurd opened (closed attempt (List.mem_of_getElem? before) same)
    · rcases split there with before' | ⟨rfl, rfl⟩
      · exact absurd opened' (closed attempt' (List.mem_of_getElem? before') same.symm)
      · rfl

theorem Event.Effect.watched (effect : Event.Effect state.Prompt state state')
    (watched : Watched state) : Watched state' := by
  cases effect with
  | moved follows => exact watched.follows follows (fun _ row found => ⟨row, found⟩) fun _ _ _ _ _ => rfl
  | @settled attempts ledger place attempt follows here left' others kept =>
    refine watched.follows follows kept ?_
    intro place' attempt' there opened waits
    apply others
    intro same
    obtain ⟨before, found, run, _⟩ := follows.2 place attempt here
    obtain ⟨before', found', run', _⟩ := follows.2 place' attempt' there
    have equal : place' = place :=
      watched.distinct place' place before' before found' found (by rw [← run', same, run])
    rw [equal, here] at there
    cases there
    exact left' opened waits
  | @started attempts run permitted follows still alone running fresh =>
    have watched' : Watched { state with attempts } :=
      watched.follows follows (fun _ row found => ⟨row, found⟩) fun _ _ _ _ _ => rfl
    refine watched'.started running fresh ?_
    intro attempt listed same opened
    obtain ⟨place, here⟩ := List.mem_iff_getElem?.mp listed
    by_cases waits : attempt.caller = .waiting
    · -- it is waited for: its row is running
      obtain ⟨row, stored, running', named⟩ := watched'.watched place attempt here opened waits
      exact alone row (KeyedTable.find_eq_some_iff.mp stored).1 (named.trans same) running'
    · -- it timed out
      obtain ⟨before, found, run', opened', _⟩ := follows.2 place attempt here
      refine permitted before (List.mem_of_getElem? found) (by rw [← run', same]) ⟨opened' opened, ?_⟩
      intro waits'
      exact waits (still place before attempt found here waits')

/-! ## Overlaps -/

/-- Some events, one after the other. -/
abbrev EventRun (registry : JobRegistry) : RunnerState μ → RunnerState μ → Prop :=
  Relation.ReflTransGen fun state state' => ∃ event : Event μ, event.step registry state = some state'

theorem begin_step {place : Nat} {attempt : Attempt μ}
    (here : state.attempts[place]? = some attempt) (created : attempt.worker = .created) :
    (Event.act place .begin).step registry state =
      some (state.replace place { attempt with worker := .executing }) := by
  simp only [Event.step, here, Option.bind_some, Attempt.step, created]

/-- Two handlers that have not ended can execute at the same time. -/
theorem overlap {place place' : Nat} {attempt attempt' : Attempt μ} (apart : place ≠ place')
    (here : state.attempts[place]? = some attempt) (there : state.attempts[place']? = some attempt')
    (opened : attempt.worker.Open) (created : attempt'.worker = .created)
    (same : attempt.run.jobName = attempt'.run.jobName) :
    ∃ state', EventRun registry state state' ∧ ¬ state'.Exclusive := by
  have bound : place < state.attempts.length := (List.getElem?_eq_some_iff.mp here).1
  have bound' : place' < state.attempts.length := (List.getElem?_eq_some_iff.mp there).1
  -- the other one begins
  have second : EventRun registry state
      (state.replace place' { attempt' with worker := .executing }) :=
    .single ⟨_, begin_step there created⟩
  have here' : (state.replace place' { attempt' with worker := .executing }).attempts[place]? =
      some attempt := by
    rw [RunnerState.replace, List.getElem?_set, if_neg (Ne.symm apart), here]
  have there' : (state.replace place' { attempt' with worker := .executing }).attempts[place']? =
      some { attempt' with worker := .executing } := by
    simp [RunnerState.replace, bound']
  cases worker : attempt.worker with
  | created =>
    refine ⟨_, second.tail ⟨_, begin_step here' worker⟩, ?_⟩
    intro exclusive
    refine apart (exclusive place place' { attempt with worker := .executing }
      { attempt' with worker := .executing } ?_ ?_ trivial trivial same)
    · simp [RunnerState.replace, bound]
    · rw [RunnerState.replace, List.getElem?_set, if_neg apart, there']
  | executing =>
    refine ⟨_, second, ?_⟩
    intro exclusive
    exact apart (exclusive place place' attempt _ here' there' (by rw [worker]; trivial) trivial same)
  | ended outcome =>
    rw [worker] at opened
    exact opened.elim
  | done recorded =>
    rw [worker] at opened
    exact opened.elim

/-- A start behind an overdue attempt of the same job. -/
theorem start_overlap {request : StartRequest} {place : Nat} {attempt : Attempt μ}
    (started : state.start registry request = some state')
    (here : state.attempts[place]? = some attempt) (opened : attempt.worker.Open)
    (same : attempt.run.jobName = request.jobName) :
    ∃ state'', EventRun registry state' state'' ∧ ¬ state''.Exclusive := by
  obtain ⟨run, rfl, _, fresh, rfl⟩ := RunnerState.start_effect started
  have bound : place < state.attempts.length := (List.getElem?_eq_some_iff.mp here).1
  refine overlap (Nat.ne_of_lt bound) ?_ List.getElem?_concat_length opened rfl same
  change (state.attempts ++ [_])[place]? = some attempt
  rw [List.getElem?_append_left bound, here]

/-- From a runner without attempts, two handlers of a job never execute at the same time in a run
    that starts no attempt of a job while one of it is overdue; and such a start, whenever it is
    accepted, lets two handlers of the job execute at the same time. -/
theorem run_exclusive {start : RunnerState μ} (idle : start.attempts = []) :
    (∀ state, PromptRun registry start state → state.Exclusive) ∧
      ∀ (state state' : RunnerState μ) (event : Event μ),
        event.step registry state = some state' →
        (∃ job ∈ event.starts state, ¬ state.Prompt job) →
        ∃ state'', EventRun registry state' state'' ∧ ¬ state''.Exclusive := by
  constructor
  · intro state run
    have watched : Watched state := by
      induction run with
      | refl => constructor <;> simp [idle]
      | tail _ step ih =>
        obtain ⟨event, prompt, stepped⟩ := step
        exact (Event.effect prompt stepped).watched ih
    exact watched.exclusive
  · intro state state' event stepped overdue
    obtain ⟨job, starts, late⟩ := overdue
    simp only [RunnerState.Prompt, not_forall, not_not] at late
    obtain ⟨attempt, listed, same, opened, _⟩ := late
    obtain ⟨place, here⟩ := List.mem_iff_getElem?.mp listed
    cases event with
    | trigger request =>
      cases starts
      exact start_overlap stepped here opened same
    | act other action =>
      unfold Event.step at stepped
      rw [Option.bind_eq_some_iff] at stepped
      obtain ⟨retried, there, stepped⟩ := stepped
      cases action with
      | retry id newRunId startedAt =>
        simp only [Event.starts, there, Option.map_some, Option.mem_def, Option.some.injEq] at starts
        simp only [Attempt.step] at stepped
        split at stepped
        · split_ifs at stepped
          by_cases equal : other = place
          · -- the attempt that is retried is itself overdue
            subst equal
            rw [here] at there
            cases there
            have bound : other < state.attempts.length := (List.getElem?_eq_some_iff.mp here).1
            refine @start_overlap _ _ _ _ _ other { attempt with caller := .finished } stepped ?_
              opened rfl
            simp [RunnerState.replace, bound]
          · refine @start_overlap _ _ _ _ _ place attempt stepped ?_ opened (same.trans starts.symm)
            rw [RunnerState.replace, List.getElem?_set, if_neg equal, here]
        · cases stepped
      | _ => cases starts

/-- A registry of one job, with three attempts. -/
def sampleRegistry : JobRegistry := fun jobName =>
  if jobName = "nightly.score".toList then
    some { maxAttempts := 3, interruption := .resume, timeoutSeconds := "1800.0".toList
           positive := by decide }
  else none

/-- Nothing was started. -/
def idleRunner : RunnerState Unit := ⟨KeyedTable.empty, []⟩

/-- A scheduled trigger of the job. -/
def sampleTrigger : Event Unit :=
  .trigger ⟨Uuid.ofInt 1, "jr-1".toList, "nightly.score".toList, "scheduled".toList,
    Approvals.januaryNoon false, none, 1⟩

theorem run_exclusive_sample : ∃ state : RunnerState Unit, PromptRun sampleRegistry idleRunner state ∧
    state.attempts.length = 1 ∧ state.Exclusive := by
  have step : PromptStep sampleRegistry idleRunner _ :=
    ⟨sampleTrigger, fun _ _ _ listed => absurd listed (List.not_mem_nil), rfl⟩
  refine ⟨_, .single step, rfl, (run_exclusive rfl).1 _ (.single step)⟩

/-- The first attempt times out while its handler executes, and is retried. -/
theorem handlers_overlap : ∃ state : RunnerState Unit,
    EventRun sampleRegistry idleRunner state ∧ ¬ state.Exclusive := by
  have executing : EventRun sampleRegistry idleRunner _ :=
    (Relation.ReflTransGen.single ⟨sampleTrigger, rfl⟩).tail ⟨.act 0 .begin, rfl⟩
  have timedOut : EventRun sampleRegistry idleRunner _ :=
    executing.tail ⟨.act 0 (.timeout (Approvals.januaryNoon true)), rfl⟩
  have retried : EventRun sampleRegistry idleRunner _ :=
    (timedOut.tail ⟨.act 0 (.retry (Uuid.ofInt 2) "jr-2".toList (Approvals.januaryNoon true)),
      rfl⟩).tail ⟨.act 1 .begin, rfl⟩
  refine ⟨_, retried, ?_⟩
  intro exclusive
  exact absurd (exclusive 0 1 _ _ rfl rfl trivial trivial rfl) (by decide)

end Scheduler

end CovenantRadar
