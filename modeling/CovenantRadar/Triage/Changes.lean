import CovenantRadar.Triage.Urgency

/-!
# What changed between two runs

Source `domain/triage/changes.py`: the comparison of two runs of the queue, one change for
every borrower of either. The adapters that read entries and thresholds from mappings are
left out.
-/

namespace CovenantRadar

namespace Triage

/-- Source `ChangeType`. -/
inductive ChangeType where
  | firstRun
  | newlyMonitored
  | newlyUnmonitored
  | newToAct
  | bandWorsened
  | bandImproved
  | probabilityIncreased
  | probabilityDecreased
  | newlySuppressed
  | newlyUnsuppressed
  | noChange
  deriving DecidableEq, Repr

/-- Source `ChangeThresholds`, as its `__post_init__` leaves it. -/
structure ChangeThresholds where
  reportingThreshold : Fraction
  dominantDriverShare : Fraction
  deriving DecidableEq

/-- Source `_EntryFacts`. -/
structure EntryFacts where
  borrowerId : Uuid
  reference : BriefText 100
  band : Option Band
  probability : Option Fraction
  state : BriefText 50
  suppressed : Bool
  drivers : List (BriefText 100 × Decimal)
  distinct : (drivers.map Prod.fst).Nodup
  deriving DecidableEq

/-- Source `WhatChanged`, as its `__post_init__` leaves it. -/
structure WhatChanged where
  borrowerId : Uuid
  kind : ChangeType
  summary : Text
  previousBand : Option Band
  currentBand : Option Band
  previousProbability : Option Fraction
  currentProbability : Option Fraction
  probabilityDelta : Option Decimal
  reportingThreshold : Option Fraction
  dominantDriver : Option (BriefText 100)
  dominantDriverShare : Option Decimal
  previousState : Option (BriefText 50)
  currentState : BriefText 50
  bounded : Text.strip summary ≠ [] ∧ (Text.strip summary).length ≤ 2000
  deriving DecidableEq

/-! ## Texts -/

/-- A band as it is written. -/
def Band.text : Band → Text
  | .act => "act".toList
  | .amber => "amber".toList
  | .watch => "watch".toList

/-- `str` of an optional band. -/
def bandText : Option Band → Text
  | none => "None".toList
  | some band => band.text

/-- Source `_BAND_RANK`. -/
def Band.rank : Band → Nat
  | .watch => 0
  | .amber => 1
  | .act => 2

/-- Source `_decimal_text`. -/
def decimalText : Option Decimal → Text
  | none => "unknown".toList
  | some value => value.fixed

/-- Source `_no_change_summary`. -/
def noChangeSummary (delta : Option Decimal) (thresholds : ChangeThresholds) :
    Except PyError Text := do
  let movement ← match delta with
    | none => pure "no comparable probability".toList
    | some delta => do
      let size ← Decimal.abs .default delta
      pure ("probability movement ".toList ++ decimalText (some size))
  return "no change; ".toList ++ movement ++ " is below reporting threshold ".toList ++
    decimalText (some thresholds.reportingThreshold.number)

/-! ## Drivers -/

/-- Source `_dominant_driver`: the key of `max`, a share and the reversed code points. -/
def driverKey (driver : BriefText 100 × Decimal) : ℚ ×ₗ List Nat :=
  toLex (driver.2.value, driver.1.text.map fun c => 0x10FFFF - c.toNat)

/-- Source `_dominant_driver`. -/
def dominantDriver (entry : EntryFacts) (thresholds : Option ChangeThresholds) :
    Except PyError (Option (BriefText 100 × Decimal)) :=
  match maxBy driverKey entry.drivers with
  | none => .ok none
  | some driver =>
    match thresholds with
    | none => .error (.valueError "A dominant-driver share threshold must be configured.")
    | some thresholds =>
      if driver.2.value ≤ thresholds.dominantDriverShare.number.value then .ok none
      else .ok (some driver)

/-- Source `_probability_delta`. -/
def probabilityDelta (current previous : Option Fraction) : Except PyError (Option Decimal) :=
  match current, previous with
  | some current, some previous => (Decimal.sub .default current.number previous.number).map some
  | _, _ => .ok none

/-- Source `_compare_entry`, from the comparison of the probabilities on. -/
def probabilityMovement (current previous : EntryFacts) (thresholds : Option ChangeThresholds)
    (delta : Option Decimal) : Except PyError (ChangeType × Text) :=
  match thresholds, delta with
  | none, _ => .error (.valueError
      "A reporting threshold must be configured for probability comparison.")
  | some thresholds, none => do
    let summary ← noChangeSummary none thresholds
    return (.noChange, summary)
  | some thresholds, some delta => do
    let size ← Decimal.abs .default delta
    let ends := " from ".toList ++ decimalText (previous.probability.map (·.number)) ++
      " to ".toList ++ decimalText (current.probability.map (·.number))
    if thresholds.reportingThreshold.number.value ≤ size.value ∧ 0 < delta.value then
      return (.probabilityIncreased,
        "probability increased by ".toList ++ decimalText (some delta) ++ ends)
    else if thresholds.reportingThreshold.number.value ≤ size.value ∧ delta.value < 0 then
      return (.probabilityDecreased,
        "probability decreased by ".toList ++ decimalText (some size) ++ ends)
    else do
      let summary ← noChangeSummary (some delta) thresholds
      return (.noChange, summary)

/-- Source `_compare_entry`: the kind of the change and its summary. -/
def movement (current previous : EntryFacts) (thresholds : Option ChangeThresholds)
    (delta : Option Decimal) : Except PyError (ChangeType × Text) :=
  if current.suppressed ∧ ¬ previous.suppressed then
    .ok (.newlySuppressed, "newly suppressed; the current forecast is suppressed".toList)
  else if previous.suppressed ∧ ¬ current.suppressed then
    .ok (.newlyUnsuppressed, "newly unsuppressed; the current forecast is usable".toList)
  else if current.band = some .act ∧ previous.band ≠ some .act then
    .ok (.newToAct, "new to act; band worsened from ".toList ++ bandText previous.band ++
      " to ".toList ++ Band.act.text)
  else
    match current.band, previous.band with
    | some currentBand, some previousBand =>
      if currentBand = previousBand then probabilityMovement current previous thresholds delta
      else if previousBand.rank < currentBand.rank then
        .ok (.bandWorsened, "band worsened from ".toList ++ previousBand.text ++
          " to ".toList ++ currentBand.text)
      else
        .ok (.bandImproved, "band improved from ".toList ++ previousBand.text ++
          " to ".toList ++ currentBand.text)
    | _, _ => probabilityMovement current previous thresholds delta

/-- Source `_normalise_entries`, from the ids already seen. -/
def normaliseEntries (fieldName : String) (seen : List Uuid) :
    List EntryFacts → Except PyError Unit
  | [] => .ok ()
  | entry :: entries =>
    if entry.borrowerId ∈ seen then
      .error (.valueError (s!"Borrower {String.ofList entry.borrowerId.str} " ++
        s!"occurs more than once in {fieldName}."))
    else normaliseEntries fieldName (entry.borrowerId :: seen) entries

end Triage

end CovenantRadar
