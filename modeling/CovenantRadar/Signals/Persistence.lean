import CovenantRadar.Misc.Consecutive
import CovenantRadar.Misc.Select
import CovenantRadar.Python.Calendar
import CovenantRadar.Signals.Evidence

/-!
# Persistence scoring

Source `domain/signals/persistence.py`: the two measurements of threshold T3 on the
dates of one evidence identity, and the decision between its arms. A set of dates is
kept as its increasing list.
-/

namespace CovenantRadar.Signals

/-- Source `PersistenceThresholds`, with the checks of `__post_init__`. -/
structure PersistenceThresholds where
  sustainedDays : Nat
  sustainedEvents : Nat
  eventWindowDays : Nat
  positive : 0 < sustainedDays ∧ 0 < sustainedEvents ∧ 0 < eventWindowDays
  ordered : sustainedDays ≤ eventWindowDays

/-- Source `PersistenceArm`. -/
inductive PersistenceArm where
  | sustainedDays
  | sustainedEvents
  deriving DecidableEq, Repr

/-- Source `PersistenceScore`; `sustained` and `rule` follow from the arm that fired. -/
structure PersistenceScore where
  asOf : Date
  persistenceDays : Nat
  eventCountWindow : Nat
  firingArm : Option PersistenceArm
  thresholds : PersistenceThresholds

namespace PersistenceScore

def sustained (score : PersistenceScore) : Bool := score.firingArm.isSome

/-- Source `PersistenceScore.state`. -/
def state (score : PersistenceScore) : EvidenceState :=
  if score.sustained then .sustained else .transient

end PersistenceScore

/-- Source `_dates_in_window`, with a window. -/
def datesInWindow (dates : List Date) (asOf : Date) (windowDays : Nat) :
    Except PyError (List Date) :=
  match asOf.subDays (windowDays - 1) with
  | none => .error (.valueError "window_days is too large for calendar arithmetic.")
  | some firstDate => .ok (dates.filter fun day => firstDate ≤ day && day ≤ asOf)

/-- The loop variables of `_longest_run`. -/
structure RunCount where
  current : Nat
  longest : Nat

/-- One turn of `_longest_run`, on a pair of neighbouring ordinals. -/
def RunCount.step (count : RunCount) (pair : Nat × Nat) : RunCount :=
  let current := if pair.2 = pair.1 + 1 then count.current + 1 else 1
  ⟨current, max count.longest current⟩

/-- Source `_longest_run`. -/
def longestRunOfDates (dates : List Date) : Nat :=
  let ordinals := dates.map Date.toOrdinal
  if ordinals = [] then 0
  else ((ordinals.zip ordinals.tail).foldl RunCount.step ⟨1, 1⟩).longest

/-- Source `decide_persistence`: the arm that fires. -/
def decidePersistence (persistenceDays eventCountWindow : Nat)
    (configured : PersistenceThresholds) : Option PersistenceArm :=
  if configured.sustainedDays ≤ persistenceDays then some .sustainedDays
  else if configured.sustainedEvents ≤ eventCountWindow then some .sustainedEvents
  else none

/-- Source `score_persistence`, on event dates. -/
def scorePersistence (eventDates : List Date) (asOf : Date) (configured : PersistenceThresholds) :
    Except PyError PersistenceScore := do
  let eligible ← datesInWindow (sortedSet eventDates) asOf configured.eventWindowDays
  let runLength := longestRunOfDates eligible
  let eventCount := eligible.length
  .ok ⟨asOf, runLength, eventCount, decidePersistence runLength eventCount configured, configured⟩

/-! ## What is measured -/

theorem foldl_step_longest (previous : Nat) (rest : List Nat) (count : RunCount) :
    (((previous :: rest).zip rest).foldl RunCount.step count).longest =
      extendRun previous count.current count.longest rest := by
  induction rest generalizing previous count with
  | nil => rfl
  | cons candidate rest ih =>
    rw [List.zip_cons_cons, List.foldl_cons, ih, extendRun]
    rfl

theorem longestRunOfDates_eq (dates : List Date) :
    longestRunOfDates dates = longestRun (dates.map Date.toOrdinal) := by
  unfold longestRunOfDates
  cases dates.map Date.toOrdinal with
  | nil => rfl
  | cons first rest =>
    rw [if_neg (List.cons_ne_nil _ _), List.tail_cons, foldl_step_longest]
    rfl

/-- Some `count` consecutive days are all among the dates. -/
def HasDayRun (dates : List Date) (count : Nat) : Prop :=
  HasRun {ordinal | ordinal ∈ dates.map Date.toOrdinal} count

theorem ordinals_pairwise {dates : List Date} (sorted : dates.Pairwise (· < ·)) :
    (dates.map Date.toOrdinal).Pairwise (· < ·) :=
  List.pairwise_map.mpr (sorted.imp fun less => Date.toOrdinal_strictMono less)

theorem HasDayRun.mono {dates more : List Date} (within : ∀ day ∈ dates, day ∈ more)
    {count : Nat} (run : HasDayRun dates count) : HasDayRun more count := by
  refine HasRun.mono (fun ordinal member => ?_) run
  obtain ⟨day, inside, rfl⟩ := List.mem_map.mp member
  exact List.mem_map.mpr ⟨day, within day inside, rfl⟩

theorem le_longestRun_dates {dates : List Date} (sorted : dates.Pairwise (· < ·)) (count : Nat) :
    count ≤ longestRun (dates.map Date.toOrdinal) ↔ HasDayRun dates count :=
  le_longestRun_iff (ordinals_pairwise sorted) count

theorem datesInWindow_eq_ok_iff {dates eligible : List Date} {asOf : Date} {windowDays : Nat} :
    datesInWindow dates asOf windowDays = .ok eligible ↔
      ∃ firstDate, asOf.subDays (windowDays - 1) = some firstDate ∧
        eligible = dates.filter fun day => firstDate ≤ day && day ≤ asOf := by
  unfold datesInWindow
  cases asOf.subDays (windowDays - 1) <;> simp [eq_comm]

theorem decidePersistence_isSome {persistenceDays eventCountWindow : Nat}
    {configured : PersistenceThresholds} :
    (decidePersistence persistenceDays eventCountWindow configured).isSome =
      (decide (configured.sustainedDays ≤ persistenceDays) ||
        decide (configured.sustainedEvents ≤ eventCountWindow)) := by
  unfold decidePersistence
  by_cases days : configured.sustainedDays ≤ persistenceDays
  · simp [days]
  · by_cases events : configured.sustainedEvents ≤ eventCountWindow <;> simp [days, events]

end CovenantRadar.Signals
