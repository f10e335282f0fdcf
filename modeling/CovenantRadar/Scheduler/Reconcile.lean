import CovenantRadar.Scheduler.Exclusion

/-!
# Restarts

Source `JobRunner.run_now` and `reconcile`: after a hard restart every row that is still running
belongs to an attempt that is gone. Reconciliation interrupts the rows and starts an attempt in
the place of each, from what the row holds.
-/

namespace CovenantRadar

namespace Scheduler

variable {μ : Type}

/-- Source `JobRunContext`: what a handler is called with. -/
structure JobRunContext where
  runId : Text
  attempt : Int
  trigger : Text
  requestId : Text
  asOf : Option Text
  borrowerId : Option Text
  deriving DecidableEq

/-- What an attempt finds around it: identifiers and times, by the number of rows there are, and
    the handlers, which may write to the ledger and may take longer than the timeout (`none`). -/
structure World (μ : Type) where
  id : Nat → Uuid
  newRunId : Nat → Text
  requestId : Nat → Text
  startedAt : Nat → UtcInstant
  finishedAt : Nat → UtcInstant
  handler : Text → JobRunContext → Ledger μ → Option (HandlerOutcome μ) × Ledger μ

/-- The date a nightly step works for, source `_resolve_as_of`: the clock's, unless it was told
    one; `none` where the text is no date. -/
def resolveAsOf (asOf : Option Text) (today : Date) : Option Date :=
  match asOf with
  | none => some today
  | some text => (readDate text).bind fun read => if read.2 = [] then some read.1 else none

/-! ## The arguments of a restarted attempt -/

/-- What the sample's attempt is called with, and what is called in its place. -/
def sampleContext (restarted : Bool) (asOf : Option Text) : JobRunContext where
  runId := "jr-1".toList
  attempt := if restarted then 2 else 1
  trigger := if restarted then "restart-resume".toList else "scheduled".toList
  requestId := "rq-1".toList
  asOf := asOf
  borrowerId := none

end Scheduler

end CovenantRadar
