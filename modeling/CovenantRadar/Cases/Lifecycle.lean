import CovenantRadar.Core.DomainErrors
import CovenantRadar.Misc.Loop
import Mathlib

/-!
# The case lifecycle

Source `domain/cases/lifecycle.py`: the states of a case, the table of permitted
transitions and the validated transition.
-/

namespace CovenantRadar.Cases

/-- Source `CaseState`. -/
inductive CaseState where
  | open'
  | inProgress
  | monitoring
  | escalated
  | closed
  deriving DecidableEq, Repr

namespace CaseState

/-- `state.value`. -/
def value : CaseState → Text
  | open' => "open".toList
  | inProgress => "in_progress".toList
  | monitoring => "monitoring".toList
  | escalated => "escalated".toList
  | closed => "closed".toList

end CaseState

/-- Source `CASE_STATES`, in order. -/
def caseStates : List CaseState := [.open', .inProgress, .monitoring, .escalated, .closed]

/-- Source `PERMITTED_TRANSITIONS`. -/
def permittedTransitions : CaseState → List CaseState
  | .open' => [.inProgress, .monitoring, .escalated, .closed]
  | .inProgress => [.monitoring, .escalated, .closed]
  | .monitoring => [.inProgress, .escalated, .closed]
  | .escalated => [.inProgress, .monitoring, .closed]
  | .closed => []

/-- Source `CaseTransition`, with the check of `__post_init__`. -/
structure CaseTransition where
  fromState : CaseState
  toState : CaseState
  permitted : toState ∈ permittedTransitions fromState

/-- `", ".join(...)` of states. -/
def joinStates (states : List CaseState) : Text :=
  ((states.map CaseState.value).intersperse ", ".toList).flatten

/-- `ValidationError(message, field="case.state")`. -/
def stateError (message : Text) : DomainError :=
  ⟨.validationError, message, some "case.state".toList⟩

/-- Source `validate_state`, on a text. -/
def validateState (raw : Text) : Except DomainError CaseState :=
  match caseStates.find? fun state => state.value = Text.lower (Text.strip raw) with
  | some state => .ok state
  | none =>
    .error (stateError ("Case state ".toList ++ Text.repr raw ++
      " is invalid; expected one of ".toList ++ joinStates caseStates ++ ['.']))

/-- Source `_transition_error`. -/
def transitionError (source target : CaseState) : DomainError :=
  let allowed := joinStates (permittedTransitions source)
  stateError ("Transition from ".toList ++ Text.repr source.value ++ " to ".toList ++
    Text.repr target.value ++ " is not permitted. Permitted transitions from ".toList ++
    Text.repr source.value ++ ": ".toList ++ (if allowed = [] then "none".toList else allowed) ++ ['.'])

/-- Source `_CLOSURE_REASON_MAX_LENGTH`. -/
def closureReasonMaxLength : Nat := 200

/-- Source `_validate_closure_reason`. -/
def validateClosureReason (value : Option Text) : Except DomainError Text :=
  match value with
  | none => .error (.validationError "A closure reason is required." "case.closure_reason")
  | some reason =>
    if Text.strip reason = [] then
      .error (.validationError "A closure reason is required." "case.closure_reason")
    else if closureReasonMaxLength < (Text.strip reason).length then
      .error (.validationError "A closure reason must be at most 200 characters."
        "case.closure_reason")
    else .ok (Text.strip reason)

/-- The closure reason of a transition: required to close, refused otherwise. -/
def checkClosureReason (destination : CaseState) (closureReason : Option Text) :
    Except DomainError Unit :=
  if destination = .closed then (validateClosureReason closureReason).map fun _ => ()
  else if closureReason.isSome then
    .error (.validationError
      "A closure reason is only valid when transitioning a case to closed." "case.closure_reason")
  else .ok ()

/-- Source `transition_result`, on validated states. -/
def transitionResult (source destination : CaseState) (closureReason : Option Text) :
    Except DomainError CaseTransition :=
  if permitted : destination ∈ permittedTransitions source then do
    checkClosureReason destination closureReason
    .ok ⟨source, destination, permitted⟩
  else .error (transitionError source destination)

theorem transitionResult_eq_ok {source destination : CaseState} {closureReason : Option Text}
    {change : CaseTransition} (returned : transitionResult source destination closureReason = .ok change) :
    change.fromState = source ∧ change.toState = destination := by
  unfold transitionResult at returned
  split_ifs at returned with permitted
  obtain ⟨-, -, built⟩ := Except.bind_eq_ok_iff.mp returned
  cases built
  exact ⟨rfl, rfl⟩

/-- Closing is terminal. -/
theorem CaseTransition.fromState_ne_closed (change : CaseTransition) :
    change.fromState ≠ .closed := by
  intro closed
  have permitted := change.permitted
  rw [closed] at permitted
  cases permitted

/-- A transition changes the state. -/
theorem CaseTransition.changes (change : CaseTransition) : change.toState ≠ change.fromState := by
  obtain ⟨source, target, permitted⟩ := change
  intro same
  change target = source at same
  subst same
  cases target <;> simp [permittedTransitions] at permitted

/-- Every state that is neither escalated nor closed can be escalated. -/
theorem escalated_permitted {source : CaseState} (notEscalated : source ≠ .escalated)
    (notClosed : source ≠ .closed) : .escalated ∈ permittedTransitions source := by
  cases source with
  | open' | inProgress | monitoring => simp [permittedTransitions]
  | escalated => exact absurd rfl notEscalated
  | closed => exact absurd rfl notClosed

end CovenantRadar.Cases
