import CovenantRadar.Approvals.Requests
import CovenantRadar.Misc.KeyedTable
import CovenantRadar.Python.Reading

/-!
# The run ledger

Source `scheduler/ledger.py`: the rows of `job_run`, the check-and-insert that starts an attempt,
and the conditional updates that end one. Each call is atomic.
-/

namespace CovenantRadar

namespace Scheduler

variable {μ : Type}

/-- Source `RUNNING` and `TERMINAL_STATES`. -/
inductive JobState where
  | running
  | succeeded
  | failed
  | interrupted
  | abandoned
  deriving DecidableEq, Repr

/-- Source `JobRun`: one attempt of one job. -/
structure JobRun (μ : Type) where
  id : Uuid
  jobName : Text
  runId : Text
  trigger : Text
  startedAt : UtcInstant
  finishedAt : Option UtcInstant
  state : JobState
  attempt : Int
  error : Option Text
  metrics : Option μ

/-- The row of an attempt that has ended. -/
def JobRun.ended (run : JobRun μ) (state : JobState) (finishedAt : UtcInstant)
    (error : Option Text) (metrics : Option μ) : JobRun μ :=
  { run with state, finishedAt := some finishedAt, error, metrics }

/-- The table `job_run`. -/
abbrev Ledger (μ : Type) : Type := KeyedTable (fun run : JobRun μ => run.id)

/-- What a start is given, with the identifiers that `new_id()` and `new_job_run_id()` give. -/
structure StartRequest where
  id : Uuid
  newRunId : Text
  jobName : Text
  trigger : Text
  startedAt : UtcInstant
  runId : Option Text
  attempt : Int

/-- The row of a started attempt. -/
def StartRequest.run (request : StartRequest) : JobRun μ where
  id := request.id
  jobName := request.jobName
  -- `run_id or new_job_run_id()`
  runId := match request.runId with
    | none => request.newRunId
    | some runId => if runId = [] then request.newRunId else runId
  trigger := request.trigger
  startedAt := request.startedAt
  finishedAt := none
  state := .running
  attempt := request.attempt
  error := none
  metrics := none

/-- Source `JobAlreadyRunningError`. -/
def alreadyRunning (jobName : Text) (running : JobRun μ) : DomainError :=
  .conflict ("Job ".toList ++ Text.repr jobName ++ " is already running as run ".toList ++
    Text.repr running.runId ++ " (attempt ".toList ++ Text.ofInt running.attempt ++
    ", triggered by ".toList ++ Text.repr running.trigger ++ ", started ".toList ++
    running.startedAt.isoformatAuto ++ "); refusing to start a second instance.".toList)

namespace Ledger

/-- Source `running_run`. -/
def runningRun (ledger : Ledger μ) (jobName : Text) : Option (JobRun μ) :=
  ((ledger.rows.filter fun run =>
    decide (run.jobName = jobName) && decide (run.state = .running)).insertionSort
      fun a b => b.startedAt.ticks ≤ a.startedAt.ticks).head?

/-- Source `start_or_refuse`. -/
def startOrRefuse (ledger : Ledger μ) (request : StartRequest) :
    Except DomainError (JobRun μ × Ledger μ) :=
  if request.attempt < 1 then
    .error ⟨.raised, "attempt must be at least 1.".toList, none⟩
  else
    match ledger.runningRun request.jobName with
    | some running => .error (alreadyRunning request.jobName running)
    | none =>
      let run : JobRun μ := request.run
      if fresh : KeyedTable.find ledger run.id = none then .ok (run, ledger.insert run fresh)
      else .error ⟨.raised, "UNIQUE constraint failed: job_run.id".toList, none⟩

/-- Source `_transition`: `None` where the row was not running. -/
def transition (ledger : Ledger μ) (id : Uuid) (state : JobState) (finishedAt : UtcInstant)
    (error : Option Text) (metrics : Option μ) : Option (JobRun μ) × Ledger μ :=
  match ledger.find id with
  | none => (none, ledger)
  | some run =>
    if run.state = .running then
      (some (run.ended state finishedAt error metrics),
        ledger.put (run.ended state finishedAt error metrics))
    else (none, ledger)

/-- Source `succeed`. -/
def succeed (ledger : Ledger μ) (id : Uuid) (finishedAt : UtcInstant) (metrics : Option μ) :
    Option (JobRun μ) × Ledger μ :=
  ledger.transition id .succeeded finishedAt none metrics

/-- Source `fail`. -/
def fail (ledger : Ledger μ) (id : Uuid) (finishedAt : UtcInstant) (error : Text)
    (metrics : Option μ) : Option (JobRun μ) × Ledger μ :=
  ledger.transition id .failed finishedAt (some error) metrics

/-- Source `interrupt`. -/
def interrupt (ledger : Ledger μ) (id : Uuid) (finishedAt : UtcInstant) :
    Option (JobRun μ) × Ledger μ :=
  ledger.transition id .interrupted finishedAt
    (some "Interrupted by a scheduler restart.".toList) none

/-- Source `abandon`. -/
def abandon (ledger : Ledger μ) (id : Uuid) (finishedAt : UtcInstant) :
    Option (JobRun μ) × Ledger μ :=
  ledger.transition id .abandoned finishedAt
    (some "Abandoned at graceful shutdown: exceeded the shutdown grace period.".toList) none

end Ledger

/-! ## Calls -/

/-- A call that writes to the ledger. -/
inductive Call (μ : Type) where
  | startOrRefuse (request : StartRequest)
  | succeed (id : Uuid) (finishedAt : UtcInstant) (metrics : Option μ)
  | fail (id : Uuid) (finishedAt : UtcInstant) (error : Text) (metrics : Option μ)
  | interrupt (id : Uuid) (finishedAt : UtcInstant)
  | abandon (id : Uuid) (finishedAt : UtcInstant)

/-- The ledger after a call; one that raises leaves it as it was. -/
def Call.after (ledger : Ledger μ) : Call μ → Ledger μ
  | startOrRefuse request =>
    match ledger.startOrRefuse request with
    | .error _ => ledger
    | .ok (_, next) => next
  | succeed id finishedAt metrics => (ledger.succeed id finishedAt metrics).2
  | fail id finishedAt error metrics => (ledger.fail id finishedAt error metrics).2
  | interrupt id finishedAt => (ledger.interrupt id finishedAt).2
  | abandon id finishedAt => (ledger.abandon id finishedAt).2

/-- The ledger after calls in a row. -/
def runCalls (ledger : Ledger μ) (calls : List (Call μ)) : Ledger μ :=
  calls.foldl Call.after ledger

/-- What a call makes of the ledger. -/
inductive Effect (ledger : Ledger μ) : Ledger μ → Prop where
  | unchanged : Effect ledger ledger
  | started {run : JobRun μ} (running : run.state = .running)
      (alone : ∀ other ∈ ledger.rows, other.jobName = run.jobName → other.state ≠ .running)
      (fresh : ledger.find run.id = none) : Effect ledger (ledger.insert run fresh)
  | ended {run run' : JobRun μ} (found : ledger.find run.id = some run)
      (running : run.state = .running) (id : run'.id = run.id) (jobName : run'.jobName = run.jobName)
      (terminal : run'.state ≠ .running) : Effect ledger (ledger.put run')

variable {ledger ledger' : Ledger μ}

theorem runningRun_eq_none_iff {jobName : Text} :
    ledger.runningRun jobName = none ↔
      ∀ run ∈ ledger.rows, run.jobName = jobName → run.state ≠ .running := by
  unfold Ledger.runningRun
  rw [List.head?_eq_none_iff]
  constructor
  · intro none' run listed named running
    have member : run ∈ ((ledger.rows.filter fun run =>
        decide (run.jobName = jobName) && decide (run.state = .running)).insertionSort
          fun a b => b.startedAt.ticks ≤ a.startedAt.ticks) := by
      rw [List.mem_insertionSort, List.mem_filter]
      simp [listed, named, running]
    rw [none'] at member
    cases member
  · intro alone
    rw [List.eq_nil_iff_forall_not_mem]
    intro run member
    rw [List.mem_insertionSort, List.mem_filter, Bool.and_eq_true, decide_eq_true_eq,
      decide_eq_true_eq] at member
    exact alone run member.1 member.2.1 member.2.2

theorem startOrRefuse_eq_ok {request : StartRequest} {run : JobRun μ}
    (started : ledger.startOrRefuse request = .ok (run, ledger')) :
    run = request.run ∧
      (∀ other ∈ ledger.rows, other.jobName = request.jobName → other.state ≠ .running) ∧
      ∃ fresh : KeyedTable.find ledger run.id = none, ledger' = ledger.insert run fresh := by
  unfold Ledger.startOrRefuse at started
  by_cases early : request.attempt < 1
  · rw [if_pos early] at started
    cases started
  rw [if_neg early] at started
  cases search : ledger.runningRun request.jobName with
  | some running =>
    rw [search] at started
    cases started
  | none =>
    simp only [search] at started
    split_ifs at started with fresh
    cases started
    exact ⟨rfl, runningRun_eq_none_iff.mp search, fresh, rfl⟩

/-- An attempt starts exactly when none of the job is running. -/
theorem startOrRefuse_returns {request : StartRequest} (counted : 1 ≤ request.attempt)
    (fresh : ledger.find request.id = none)
    (alone : ∀ other ∈ ledger.rows, other.jobName = request.jobName → other.state ≠ .running) :
    ledger.startOrRefuse request = .ok (request.run, ledger.insert request.run fresh) := by
  unfold Ledger.startOrRefuse
  rw [if_neg (not_lt.mpr counted), runningRun_eq_none_iff.mpr alone]
  exact dif_pos fresh

theorem transition_effect (id : Uuid) {state : JobState} (finishedAt : UtcInstant)
    (error : Option Text) (metrics : Option μ) (terminal : state ≠ .running) :
    Effect ledger (ledger.transition id state finishedAt error metrics).2 := by
  unfold Ledger.transition
  cases found : ledger.find id with
  | none => exact .unchanged
  | some run =>
    obtain ⟨_, rfl⟩ := KeyedTable.find_eq_some_iff.mp found
    simp only
    by_cases running : run.state = .running
    · rw [if_pos running]
      exact .ended found running rfl rfl terminal
    · rw [if_neg running]
      exact .unchanged

theorem Call.effect (call : Call μ) (ledger : Ledger μ) : Effect ledger (call.after ledger) := by
  cases call with
  | startOrRefuse request =>
    cases started : ledger.startOrRefuse request with
    | error error =>
      simp only [Call.after, started]
      exact .unchanged
    | ok result =>
      obtain ⟨run, ledger'⟩ := result
      simp only [Call.after, started]
      obtain ⟨rfl, alone, fresh, rfl⟩ := startOrRefuse_eq_ok started
      exact .started rfl alone fresh
  | succeed id finishedAt metrics => exact transition_effect id finishedAt _ _ (by simp)
  | fail id finishedAt error metrics => exact transition_effect id finishedAt _ _ (by simp)
  | interrupt id finishedAt => exact transition_effect id finishedAt _ _ (by simp)
  | abandon id finishedAt => exact transition_effect id finishedAt _ _ (by simp)

/-! ## Invariants -/

/-- No two rows of a job are running. -/
def Exclusive (ledger : Ledger μ) : Prop :=
  ∀ run ∈ ledger.rows, ∀ other ∈ ledger.rows, run.state = .running → other.state = .running →
    run.jobName = other.jobName → run = other

theorem Effect.exclusive (effect : Effect ledger ledger') (exclusive : Exclusive ledger) :
    Exclusive ledger' := by
  cases effect with
  | unchanged => exact exclusive
  | @started started _ alone fresh =>
    intro run listed other listed' running running' same
    rw [KeyedTable.rows_insert, List.mem_append, List.mem_singleton] at listed listed'
    rcases listed with listed | rfl
    · rcases listed' with listed' | rfl
      · exact exclusive run listed other listed' running running' same
      · exact absurd running (alone run listed same)
    · rcases listed' with listed' | rfl
      · exact absurd running' (alone other listed' same.symm)
      · rfl
  | @ended old new _ _ _ _ terminal =>
    -- a running row of the new table is one of the old
    have kept : ∀ run ∈ (ledger.put new).rows, run.state = .running → run ∈ ledger.rows := by
      intro run listed running
      rw [KeyedTable.rows_put, List.mem_map] at listed
      obtain ⟨row, member, rfl⟩ := listed
      split_ifs at running ⊢ with same
      · exact absurd running terminal
      · exact member
    intro run listed other listed' running running' same
    exact exclusive run (kept run listed running) other (kept other listed' running') running
      running' same

/-- A row stays in the table, and one that has ended stays as it is. -/
theorem Effect.find_kept (effect : Effect ledger ledger') {id : Uuid} {run : JobRun μ}
    (found : ledger.find id = some run) :
    (∃ run', ledger'.find id = some run') ∧
      (run.state ≠ .running → ledger'.find id = some run) := by
  cases effect with
  | unchanged => exact ⟨⟨run, found⟩, fun _ => found⟩
  | @started started _ _ fresh =>
    have apart : id ≠ started.id := by
      intro same
      rw [same, fresh] at found
      cases found
    have kept : (ledger.insert started fresh).find id = some run := by
      rw [KeyedTable.find_insert, if_neg apart, found]
    exact ⟨⟨run, kept⟩, fun _ => kept⟩
  | @ended old new found' running sameId _ terminal =>
    rw [KeyedTable.find_put (by rw [sameId]; exact found')]
    by_cases here : id = new.id
    · rw [if_pos here]
      refine ⟨⟨new, rfl⟩, fun settled => ?_⟩
      rw [here, sameId, found'] at found
      cases found
      exact absurd running settled
    · rw [if_neg here]
      exact ⟨⟨run, found⟩, fun _ => found⟩

theorem exclusive_runCalls (exclusive : Exclusive ledger) (calls : List (Call μ)) :
    Exclusive (runCalls ledger calls) := by
  induction calls generalizing ledger with
  | nil => exact exclusive
  | cons call rest ih => exact ih ((call.effect ledger).exclusive exclusive)

/-- A row that has ended stays as it is, whatever is called. -/
theorem find_runCalls {id : Uuid} {run : JobRun μ} (found : ledger.find id = some run)
    (settled : run.state ≠ .running) (calls : List (Call μ)) :
    (runCalls ledger calls).find id = some run := by
  induction calls generalizing ledger with
  | nil => exact found
  | cons call rest ih => exact ih (((call.effect ledger).find_kept found).2 settled)

/-- The row of the identifier is running. -/
def isRunning (ledger : Ledger μ) (id : Uuid) : Bool :=
  (ledger.find id).any fun run => run.state = .running

/-- How often the row of the identifier leaves `running`. -/
def exits (id : Uuid) (ledger : Ledger μ) : List (Call μ) → Nat
  | [] => 0
  | call :: rest =>
    (if isRunning ledger id && !isRunning (call.after ledger) id then 1 else 0) +
      exits id (call.after ledger) rest

theorem exits_eq_zero {id : Uuid} {run : JobRun μ} (found : ledger.find id = some run)
    (settled : run.state ≠ .running) (calls : List (Call μ)) : exits id ledger calls = 0 := by
  induction calls generalizing ledger with
  | nil => rfl
  | cons call rest ih =>
    have idle : isRunning ledger id = false := by
      unfold isRunning
      rw [found]
      simpa using settled
    unfold exits
    rw [idle, ih (((call.effect ledger).find_kept found).2 settled)]
    rfl

theorem exits_le_one (id : Uuid) (ledger : Ledger μ) (calls : List (Call μ)) :
    exits id ledger calls ≤ 1 := by
  induction calls generalizing ledger with
  | nil => exact Nat.zero_le 1
  | cons call rest ih =>
    unfold exits
    by_cases leaves : isRunning ledger id = true ∧ isRunning (call.after ledger) id = false
    · -- the row is there, and has ended
      obtain ⟨running, ended⟩ := leaves
      have present : ∃ run, ledger.find id = some run := by
        unfold isRunning at running
        rw [Option.any_eq_true] at running
        obtain ⟨run, found, _⟩ := running
        exact ⟨run, found⟩
      obtain ⟨run, found⟩ := present
      obtain ⟨run', found'⟩ := ((call.effect ledger).find_kept found).1
      have settled : run'.state ≠ .running := by
        unfold isRunning at ended
        rw [found'] at ended
        simpa using ended
      rw [exits_eq_zero found' settled, running, ended]
      decide
    · have stays : (isRunning ledger id && !isRunning (call.after ledger) id) = false := by
        rw [Bool.and_eq_false_iff, Bool.not_eq_false']
        by_cases running : isRunning ledger id = true
        · right
          simpa [running] using leaves
        · left
          simpa using running
      rw [stays]
      simpa using ih (call.after ledger)

/-- After any calls on an empty ledger: at most one row of each job is running; no row leaves
    `running` twice; a row that has ended never changes again; and a job with no running row can
    be started. -/
theorem run_ledger (calls : List (Call μ)) :
    Exclusive (runCalls (KeyedTable.empty : Ledger μ) calls) ∧
      (∀ id, exits id (KeyedTable.empty : Ledger μ) calls ≤ 1) ∧
      (∀ run ∈ (runCalls (KeyedTable.empty : Ledger μ) calls).rows, run.state ≠ .running →
        ∀ rest, run ∈ (runCalls (runCalls (KeyedTable.empty : Ledger μ) calls) rest).rows) ∧
      ∀ request : StartRequest, 1 ≤ request.attempt →
        (runCalls (KeyedTable.empty : Ledger μ) calls).find request.id = none →
        (∀ run ∈ (runCalls (KeyedTable.empty : Ledger μ) calls).rows,
          run.jobName = request.jobName → run.state ≠ .running) →
        ∃ started next, (runCalls (KeyedTable.empty : Ledger μ) calls).startOrRefuse request =
          .ok (started, next) ∧ started ∈ next.rows ∧ started.state = .running := by
  refine ⟨exclusive_runCalls ?_ calls, fun id => exits_le_one id _ calls, ?_, ?_⟩
  · intro run listed
    cases listed
  · intro run listed settled rest
    exact (KeyedTable.find_eq_some_iff.mp
      (find_runCalls (KeyedTable.find_of_mem listed) settled rest)).1
  · intro request counted fresh alone
    exact ⟨_, _, startOrRefuse_returns counted fresh alone,
      List.mem_append_right _ (List.mem_singleton_self _), rfl⟩

end Scheduler

end CovenantRadar
