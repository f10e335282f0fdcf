import Mathlib

/-!
# Interleaved transactions

A transaction reads the committed state one read at a time, each read at the moment it is made, and
is then refused or commits one write. Any number of them run in any order of their steps. An
invariant that a commit keeps exactly under a condition holds throughout a run exactly if every
commit of the run meets that condition.
-/

namespace CovenantRadar

/-- A transaction of states `σ`, writes `κ` and errors `ε`. -/
inductive Script (σ κ ε : Type) where
  | read (next : σ → Script σ κ ε)
  | commit (write : κ)
  | finished (result : Except ε Unit)

namespace Script

variable {σ κ ε : Type}

/-- What the transaction commits when it reads one state throughout. -/
def alone (state : σ) : Script σ κ ε → Option κ
  | read next => (next state).alone state
  | commit write => some write
  | finished _ => none

theorem alone_ite (state : σ) (p : Prop) [Decidable p] (script other : Script σ κ ε) :
    (if p then script else other).alone state =
      if p then script.alone state else other.alone state :=
  apply_ite (alone state) p script other

end Script

/-- Transactions running on one committed state. -/
structure Pool (σ κ ε : Type) where
  state : σ
  scripts : List (Script σ κ ε)

/-- A write that was committed: by which transaction, and onto which state. -/
structure Commit (σ κ : Type) where
  index : ℕ
  write : κ
  before : σ

namespace Pool

variable {σ κ ε : Type} (apply : κ → σ → Except ε σ)

/-- One step of one transaction. A write that cannot be applied ends it without effect. -/
def step (pool : Pool σ κ ε) (index : ℕ) : Pool σ κ ε :=
  match pool.scripts[index]? with
  | some (.read next) => { pool with scripts := pool.scripts.set index (next pool.state) }
  | some (.commit write) =>
    match apply write pool.state with
    | .ok state => ⟨state, pool.scripts.set index (.finished (.ok ()))⟩
    | .error error => { pool with scripts := pool.scripts.set index (.finished (.error error)) }
  | _ => pool

/-- What a step commits. -/
def committed (pool : Pool σ κ ε) (index : ℕ) : Option (Commit σ κ) :=
  match pool.scripts[index]? with
  | some (.commit write) =>
    match apply write pool.state with
    | .ok _ => some ⟨index, write, pool.state⟩
    | .error _ => none
  | _ => none

/-- The steps of a schedule, one after the other. -/
def run (pool : Pool σ κ ε) (schedule : List ℕ) : Pool σ κ ε := schedule.foldl (step apply) pool

/-- What the steps of a schedule commit. -/
def commits (pool : Pool σ κ ε) : List ℕ → List (Commit σ κ)
  | [] => []
  | index :: rest => (pool.committed apply index).toList ++ commits (pool.step apply index) rest

variable {apply}

/-! ## One step -/

theorem committed_eq_some {pool : Pool σ κ ε} {index : ℕ} {commit : Commit σ κ}
    (made : pool.committed apply index = some commit) :
    pool.scripts[index]? = some (.commit commit.write) ∧ commit.index = index ∧
      commit.before = pool.state ∧
      apply commit.write pool.state = .ok (pool.step apply index).state := by
  unfold committed at made
  unfold step
  split at made
  · rename_i write given
    rw [given]
    split at made
    · rename_i state applied
      cases made
      refine ⟨rfl, rfl, rfl, ?_⟩
      simp only [applied]
    · cases made
  · cases made

/-- A step that commits nothing leaves the state alone. -/
theorem state_step_of_committed_eq_none {pool : Pool σ κ ε} {index : ℕ}
    (none : pool.committed apply index = none) : (pool.step apply index).state = pool.state := by
  unfold committed at none
  unfold step
  split
  · rfl
  · rename_i write given
    simp only [given] at none
    cases applied : apply write pool.state with
    | ok state =>
      rw [applied] at none
      cases none
    | error error => rfl
  · rfl

/-- A step moves no other transaction. -/
theorem scripts_step_of_ne {pool : Pool σ κ ε} {index other : ℕ} (apart : index ≠ other) :
    (pool.step apply index).scripts[other]? = pool.scripts[other]? := by
  unfold step
  split
  · exact List.getElem?_set_ne apart
  · split
    · exact List.getElem?_set_ne apart
    · exact List.getElem?_set_ne apart
  · rfl

theorem length_scripts_step (pool : Pool σ κ ε) (index : ℕ) :
    (pool.step apply index).scripts.length = pool.scripts.length := by
  unfold step
  split
  · exact List.length_set
  · split
    · exact List.length_set
    · exact List.length_set
  · rfl

/-! ## Runs -/

theorem run_cons (pool : Pool σ κ ε) (index : ℕ) (rest : List ℕ) :
    pool.run apply (index :: rest) = (pool.step apply index).run apply rest := rfl

theorem run_append (pool : Pool σ κ ε) (first second : List ℕ) :
    pool.run apply (first ++ second) = (pool.run apply first).run apply second :=
  List.foldl_append

theorem mem_commits_cons {pool : Pool σ κ ε} {index : ℕ} {rest : List ℕ} {commit : Commit σ κ} :
    commit ∈ pool.commits apply (index :: rest) ↔
      pool.committed apply index = some commit ∨
        commit ∈ (pool.step apply index).commits apply rest := by
  have unfolded : pool.commits apply (index :: rest) =
      (pool.committed apply index).toList ++ (pool.step apply index).commits apply rest := rfl
  rw [unfolded]
  exact List.mem_append.trans (or_congr_left Option.mem_toList)

/-- Where a commit stands in the schedule. -/
theorem mem_commits_iff {pool : Pool σ κ ε} {schedule : List ℕ} {commit : Commit σ κ} :
    commit ∈ pool.commits apply schedule ↔
      ∃ past rest, schedule = past ++ commit.index :: rest ∧
        (pool.run apply past).committed apply commit.index = some commit := by
  induction schedule generalizing pool with
  | nil => simp [commits]
  | cons index schedule ih =>
    rw [mem_commits_cons, ih]
    constructor
    · rintro (here | ⟨past, rest, rfl, later⟩)
      · obtain ⟨_, same, _, _⟩ := committed_eq_some here
        exact ⟨[], schedule, by rw [same]; rfl, by rw [same]; exact here⟩
      · exact ⟨index :: past, rest, rfl, later⟩
    · rintro ⟨past, rest, split, made⟩
      cases past with
      | nil =>
        obtain ⟨rfl, rfl⟩ := List.cons.inj split
        exact .inl made
      | cons first past =>
        obtain ⟨rfl, rfl⟩ := List.cons.inj split
        exact .inr ⟨past, rest, rfl, made⟩

/-- What commits keep exactly under a condition holds throughout a run exactly if all its commits
    meet the condition. -/
theorem forall_run_iff_commits {P : σ → Prop} {Q : κ → σ → Prop}
    (kept : ∀ write state state', apply write state = .ok state' → P state →
      (P state' ↔ Q write state))
    (pool : Pool σ κ ε) (start : P pool.state) (schedule : List ℕ) :
    (∀ past rest, schedule = past ++ rest → P (pool.run apply past).state) ↔
      ∀ commit ∈ pool.commits apply schedule, Q commit.write commit.before := by
  induction schedule generalizing pool with
  | nil =>
    constructor
    · intro _ commit member
      cases member
    · intro _ past rest split
      rw [(List.append_eq_nil_iff.mp split.symm).1]
      exact start
  | cons index schedule ih =>
    have first : ∀ commit, pool.committed apply index = some commit →
        (P (pool.step apply index).state ↔ Q commit.write commit.before) := by
      intro commit made
      obtain ⟨_, _, before, applied⟩ := committed_eq_some made
      rw [before]
      exact kept _ _ _ applied start
    constructor
    · intro always commit member
      have next : P (pool.step apply index).state := always [index] schedule rfl
      rcases mem_commits_cons.mp member with here | later
      · exact (first commit here).mp next
      · refine (ih _ next).mp (fun past rest split => ?_) commit later
        exact always (index :: past) rest (by rw [split]; rfl)
    · intro all past rest split
      have next : P (pool.step apply index).state := by
        cases made : pool.committed apply index with
        | none =>
          rw [state_step_of_committed_eq_none made]
          exact start
        | some commit =>
          exact (first commit made).mpr (all commit (mem_commits_cons.mpr (.inl made)))
      cases past with
      | nil => exact start
      | cons head past =>
        obtain ⟨rfl, rfl⟩ := List.cons.inj split
        rw [run_cons]
        exact (ih _ next).mpr (fun commit member => all commit (mem_commits_cons.mpr (.inr member)))
          past rest rfl

theorem length_scripts_run (pool : Pool σ κ ε) (schedule : List ℕ) :
    (pool.run apply schedule).scripts.length = pool.scripts.length := by
  induction schedule generalizing pool with
  | nil => rfl
  | cons index schedule ih => rw [run_cons, ih, length_scripts_step]

/-! ## Transactions without commits between their steps -/

theorem scripts_run_of_not_mem {pool : Pool σ κ ε} {schedule : List ℕ} {index : ℕ}
    (absent : index ∉ schedule) : (pool.run apply schedule).scripts[index]? = pool.scripts[index]? := by
  induction schedule generalizing pool with
  | nil => rfl
  | cons first schedule ih =>
    rw [run_cons, ih (fun member => absent (List.mem_cons_of_mem _ member)),
      scripts_step_of_ne fun same => absent (by rw [same]; exact List.mem_cons_self)]

/-- Without commits a transaction has read one state, unless its own write was refused. -/
theorem alone_run_of_commits_eq_nil {pool : Pool σ κ ε} {schedule : List ℕ} {index : ℕ}
    {script : Script σ κ ε} (given : pool.scripts[index]? = some script)
    (quiet : pool.commits apply schedule = []) :
    (pool.run apply schedule).state = pool.state ∧
      ∃ script', (pool.run apply schedule).scripts[index]? = some script' ∧
        (script'.alone pool.state = script.alone pool.state ∨ script'.alone pool.state = none) := by
  induction schedule generalizing pool script with
  | nil => exact ⟨rfl, script, given, .inl rfl⟩
  | cons first schedule ih =>
    rw [commits, List.append_eq_nil_iff, Option.toList_eq_nil_iff] at quiet
    have state := state_step_of_committed_eq_none quiet.1
    have moved : ∃ script', (pool.step apply first).scripts[index]? = some script' ∧
        (script'.alone pool.state = script.alone pool.state ∨ script'.alone pool.state = none) := by
      by_cases same : first = index
      · subst same
        have place := (List.getElem?_eq_some_iff.mp given).1
        have none := quiet.1
        unfold committed at none
        unfold step
        simp only [given] at none ⊢
        cases script with
        | read next => exact ⟨next pool.state, List.getElem?_set_self place, .inl rfl⟩
        | commit write =>
          simp only at none ⊢
          cases applied : apply write pool.state with
          | ok state =>
            rw [applied] at none
            cases none
          | error error => exact ⟨_, List.getElem?_set_self place, .inr rfl⟩
        | finished result => exact ⟨_, given, .inl rfl⟩
      · exact ⟨script, by rw [scripts_step_of_ne same]; exact given, .inl rfl⟩
    obtain ⟨script', there, alike⟩ := moved
    obtain ⟨kept, last, found, alike'⟩ := ih there quiet.2
    rw [state] at kept alike'
    refine ⟨kept, last, found, ?_⟩
    rcases alike' with same | none
    · rw [same]
      exact alike
    · exact .inr none

variable (apply) in
/-- No commit falls between the first step of a transaction and its own commit. -/
def Undisturbed (pool : Pool σ κ ε) (schedule : List ℕ) : Prop :=
  ∀ past during rest index, schedule = past ++ index :: (during ++ index :: rest) →
    index ∉ past →
    (∃ commit, (pool.run apply (past ++ index :: during)).committed apply index = some commit) →
    (pool.run apply past).commits apply (index :: during) = []

/-- An undisturbed transaction commits what it commits alone. -/
theorem alone_of_undisturbed {pool : Pool σ κ ε} {schedule : List ℕ}
    (reads : ∀ script ∈ pool.scripts, ∀ write, script ≠ .commit write)
    (undisturbed : Undisturbed apply pool schedule) {commit : Commit σ κ}
    (member : commit ∈ pool.commits apply schedule) :
    ∃ script ∈ pool.scripts, script.alone commit.before = some commit.write := by
  obtain ⟨earlier, rest, split, made⟩ := mem_commits_iff.mp member
  obtain ⟨ready, _, before, _⟩ := committed_eq_some made
  have started : commit.index ∈ earlier := by
    by_contra absent
    rw [scripts_run_of_not_mem absent] at ready
    exact reads _ (List.mem_of_getElem? ready) _ rfl
  obtain ⟨past, during, unfolded, fresh⟩ := List.eq_append_cons_of_mem started
  subst unfolded
  have quiet := undisturbed past during rest commit.index (by rw [split]; simp) fresh
    ⟨commit, made⟩
  have place := (List.getElem?_eq_some_iff.mp ready).1
  rw [length_scripts_run] at place
  have given := List.getElem?_eq_getElem place
  have here := (@scripts_run_of_not_mem _ _ _ apply pool past _ fresh).trans given
  obtain ⟨state, last, found, alike⟩ := alone_run_of_commits_eq_nil here quiet
  rw [← run_append] at state found
  rw [ready] at found
  cases found
  refine ⟨_, List.getElem_mem place, ?_⟩
  rw [before, state]
  rcases alike with same | none
  · exact same.symm
  · cases none

end Pool

end CovenantRadar
