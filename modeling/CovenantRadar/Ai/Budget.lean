import CovenantRadar.Python.Reading
import CovenantRadar.Python.Timedelta

/-!
# The budget of model calls

Source `ai/budget.py`: a call reserves capacity under an hourly, a daily and a monthly ceiling, and
settles its cost after the provider has answered.
-/

namespace CovenantRadar

namespace Ai

/-! ## Costs -/

/-- A cost as a caller gives it: `Decimal | int | str`. -/
inductive Cost where
  | decimal (value : Decimal)
  /-- A `Decimal` that is not finite. -/
  | specialDecimal
  | bool (value : Bool)
  | int (value : Int)
  | str (value : Text)

/-- The texts `Decimal` reads as an infinity or as a value that is no number. -/
def isSpecialText (text : Text) : Bool :=
  let cleaned := (Text.lower (Text.strip text)).filter (· ≠ '_')
  let unsigned := match cleaned with
    | '+' :: rest => rest
    | '-' :: rest => rest
    | rest => rest
  let quiet := match unsigned with
    | 's' :: rest => rest
    | rest => rest
  unsigned == "inf".toList || unsigned == "infinity".toList ||
    ("nan".toList.isPrefixOf quiet && (quiet.drop 3).all Text.isDecimal)

/-- Source `_decimal`. -/
def decimalOf (value : Cost) (name : String) : Except PyError Decimal :=
  match value with
  | .bool _ => .error (.valueError (name ++ " must be a decimal value."))
  | .decimal value => .ok value
  | .specialDecimal => .error (.valueError (name ++ " must be finite."))
  | .int value => .ok ⟨decide (value < 0), value.natAbs, 0⟩
  | .str value =>
      if isSpecialText value then .error (.valueError (name ++ " must be finite."))
      else
        match Decimal.ofText value with
        | none => .error (.valueError (name ++ " must be a decimal value."))
        | some value => .ok value

/-- Source `_nonnegative_decimal`. -/
def nonnegativeDecimal (value : Cost) (name : String) : Except PyError Decimal := do
  let result ← decimalOf value name
  if result.value < 0 then .error (.valueError (name ++ " must not be negative."))
  else .ok result

/-- `left + right` in the default context. -/
def plusCost (left right : Decimal) : Except PyError Decimal :=
  Decimal.sub DecimalContext.default left { right with negative := !right.negative }

/-! ## Limits, reservations and entries -/

/-- Source `BudgetLimits`. -/
structure BudgetLimits where
  callsPerHour : Nat
  callsPerDay : Nat
  monthlyBudget : Option Decimal
  currency : Text
  positive : 0 < callsPerHour
  ordered : callsPerHour ≤ callsPerDay
  spendable : ∀ budget ∈ monthlyBudget, 0 < budget.value
  code : currency.length = 3

/-- Source `BudgetReservation`. -/
structure BudgetReservation where
  id : Uuid
  reservedAt : UtcInstant
  estimatedCost : Decimal
  currency : Text

/-- Source `_UsageEntry`. -/
structure UsageEntry where
  id : Uuid
  occurredAt : UtcInstant
  cost : Decimal

/-- A limit or a count of calls, or an amount of money. -/
inductive Quantity where
  | calls (count : Nat)
  | amount (value : Decimal)

/-- Source `CeilingReached`. -/
structure CeilingReached where
  dimension : Text
  retryAt : Option UtcInstant
  limit : Quantity
  observed : Quantity
  currency : Option Text

/-- What `reserve` raises. -/
inductive Refusal where
  | ceiling (reached : CeilingReached)
  | raised (error : PyError)

/-! ## Windows -/

/-- `timedelta(hours=1)` in microseconds. -/
def hour : Int := 3600 * 10 ^ 6

/-- `timedelta(days=1)` in microseconds. -/
def day : Int := dayMicroseconds

/-- `instant + delta`. -/
def shifted (instant : UtcInstant) (delta : Int) : Except Refusal UtcInstant :=
  match instant.plus delta with
  | none => .error (.raised (.overflowError "date value out of range"))
  | some moved => .ok moved

/-- Source `BudgetLedger._entries_in_window`. -/
def entriesInWindow (entries : List UsageEntry) (instant : UtcInstant) (window : Int) :
    Except Refusal (List UsageEntry) := do
  let boundary ← shifted instant (-window)
  return entries.filter fun item => decide (boundary.ticks < item.occurredAt.ticks)

theorem firstOfMonth_valid (date : Date) : 1 ≤ date.year ∧ date.year ≤ 9999 ∧ 1 ≤ date.month ∧
    date.month ≤ 12 ∧ 1 ≤ 1 ∧ 1 ≤ daysInMonth date.year date.month :=
  ⟨date.valid.1, date.valid.2.1, date.valid.2.2.1, date.valid.2.2.2.1, le_refl 1,
    Date.daysInMonth_pos date.year date.month⟩

theorem midnight_inDay : 0 < dayMicroseconds := by decide

/-- `instant.replace(day=1, hour=0, minute=0, second=0, microsecond=0)`. -/
def monthStart (instant : UtcInstant) : UtcInstant where
  date := ⟨instant.date.year, instant.date.month, 1, firstOfMonth_valid instant.date⟩
  microsecond := 0
  inDay := midnight_inDay

/-- Source `_same_month`. -/
def sameMonth (left right : UtcInstant) : Bool :=
  decide (left.date.year = right.date.year) && decide (left.date.month = right.date.month)

/-- Source `_next_month`. -/
def nextMonth (value : UtcInstant) : Except Refusal UtcInstant :=
  let year := if value.date.month = 12 then value.date.year + 1 else value.date.year
  let month := if value.date.month = 12 then 1 else value.date.month + 1
  match Date.ofParts year month 1 with
  | none => .error (.raised (.valueError "year 10000 is out of range"))
  | some date => .ok ⟨date, 0, midnight_inDay⟩

/-- Source `BudgetLedger._prune`. -/
def prune (instant : UtcInstant) (entries : List UsageEntry) : List UsageEntry :=
  entries.dropWhile fun item => decide (item.occurredAt.ticks < (monthStart instant).ticks)

/-! ## Reserving and settling -/

/-- The earlier of two instants, as `min` picks it. -/
def earlierOf (left right : UtcInstant) : UtcInstant :=
  if right.ticks < left.ticks then right else left

/-- The ceiling on the calls of one window. -/
def callCeiling (dimension : Text) (limit : Nat) (window : Int) (entries : List UsageEntry) :
    Except Refusal Unit :=
  if entries.length < limit then .ok ()
  else
    match entries.map UsageEntry.occurredAt with
    | [] => .error (.raised (.valueError "min() iterable argument is empty"))
    | first :: rest => do
        let retryAt ← shifted (rest.foldl earlierOf first) window
        .error (.ceiling ⟨dimension, some retryAt, .calls limit, .calls entries.length, none⟩)

/-- The ceiling on what a calendar month costs. -/
def budgetCeiling (limits : BudgetLimits) (entries : List UsageEntry) (instant : UtcInstant)
    (cost : Decimal) : Except Refusal Unit := do
  let spent := entries.filter fun item => sameMonth item.occurredAt instant
  let monthSpend ← (spent.foldlM (fun total item => plusCost total item.cost)
    ⟨false, 0, 0⟩).mapError Refusal.raised
  match limits.monthlyBudget with
  | none => .ok ()
  | some budget =>
      let observed ← (plusCost monthSpend cost).mapError Refusal.raised
      if budget.value < observed.value then do
        let retryAt ← nextMonth instant
        .error (.ceiling ⟨"budget".toList, some retryAt, .amount budget, .amount observed,
          some limits.currency⟩)
      else .ok ()

/-- The three ceilings of `reserve`. -/
def checkCeilings (limits : BudgetLimits) (entries : List UsageEntry) (instant : UtcInstant)
    (cost : Decimal) : Except Refusal Unit := do
  let hourEntries ← entriesInWindow entries instant hour
  let dayEntries ← entriesInWindow entries instant day
  callCeiling "hourly".toList limits.callsPerHour hour hourEntries
  callCeiling "daily".toList limits.callsPerDay day dayEntries
  budgetCeiling limits entries instant cost

/-- Source `BudgetLedger.reserve`: the answer and the entries left behind, also by a refusal. -/
def reserve (limits : BudgetLimits) (entries : List UsageEntry) (id : Uuid) (instant : UtcInstant)
    (estimatedCost : Cost) : Except Refusal BudgetReservation × List UsageEntry :=
  match nonnegativeDecimal estimatedCost "estimated_cost" with
  | .error error => (.error (.raised error), entries)
  | .ok cost =>
      match checkCeilings limits (prune instant entries) instant cost with
      | .error refusal => (.error refusal, prune instant entries)
      | .ok () =>
          (.ok ⟨id, instant, cost, limits.currency⟩, prune instant entries ++ [⟨id, instant, cost⟩])

/-- The entries with the cost of one replaced. -/
def replaceCost (id : Uuid) (cost : Decimal) : List UsageEntry → Option (List UsageEntry)
  | [] => none
  | entry :: entries =>
      if entry.id = id then some ({ entry with cost := cost } :: entries)
      else (replaceCost id cost entries).map (entry :: ·)

/-- The cost `settle` records. -/
def settledCost (reservation : BudgetReservation) (actualCost : Option Cost) :
    Except PyError Decimal :=
  match actualCost with
  | none => .ok reservation.estimatedCost
  | some actualCost => nonnegativeDecimal actualCost "actual_cost"

/-- Source `BudgetLedger.settle`. -/
def settle (entries : List UsageEntry) (reservation : BudgetReservation)
    (actualCost : Option Cost) : Except PyError Decimal × List UsageEntry :=
  match settledCost reservation actualCost with
  | .error error => (.error error, entries)
  | .ok cost =>
      match replaceCost reservation.id cost entries with
      | none =>
          (.error (.valueError
            "The budget reservation is unknown or has already been discarded."), entries)
      | some entries => (.ok cost, entries)

end Ai

end CovenantRadar
