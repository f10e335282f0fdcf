import CovenantRadar.Misc.Select
import CovenantRadar.Python.DecimalContext

/-!
# Portfolio triage

Source `domain/triage/urgency.py`: every borrower is ranked by the urgency of its worst
usable forecast, and a borrower without one stays in the queue with the reason. Source
`domain/triage/banding.py`: the T1 thresholds that band a displayed probability and the T2
confidence floor. The constructors' aliases and the adapters that read mappings or a store
are left out.
-/

namespace CovenantRadar

namespace Triage

/-! ## Bands -/

/-- What `_fraction` accepts. -/
structure Fraction where
  number : Decimal
  range : 0 ≤ number.value ∧ number.value ≤ 1
  deriving DecidableEq

/-- Source `TriageThresholds`, as its `__post_init__` leaves it. -/
structure TriageThresholds where
  act : Fraction
  amber : Fraction
  confidenceFloor : Fraction
  ordered : amber.number.value ≤ act.number.value
  deriving DecidableEq

/-- Source `BANDS`. -/
inductive Band where
  | act
  | amber
  | watch
  deriving DecidableEq, Repr

/-- Source `band`. -/
def band (probability : Option Fraction) (thresholds : TriageThresholds) : Band :=
  match probability with
  | none => .watch
  | some probability =>
    if thresholds.act.number.value ≤ probability.number.value then .act
    else if thresholds.amber.number.value ≤ probability.number.value then .amber
    else .watch

/-! ## Facts -/

/-- What `_bounded_text` returns. -/
structure BriefText (maxLength : Nat) where
  text : Text
  bounded : Text.strip text = text ∧ text ≠ [] ∧ text.length ≤ maxLength
  deriving DecidableEq

theorem length_strip_le (t : Text) : (Text.strip t).length ≤ t.length :=
  ((List.rdropWhile_prefix _ _).length_le).trans (List.dropWhile_sublist _).length_le

/-- Source `_bounded_text`. -/
def boundedText (field : String) (maximum : Nat) (value : Text) :
    Except PyError (BriefText maximum) :=
  if refused : Text.strip value = [] ∨ maximum < value.length then
    .error (.valueError s!"{field} must be non-empty text of at most {maximum} characters.")
  else
    .ok ⟨Text.strip value, Text.strip_strip value, (not_or.mp refused).1,
      (length_strip_le value).trans (not_lt.mp (not_or.mp refused).2)⟩

/-- What `_optional_money` accepts. -/
structure Money where
  number : Decimal
  nonneg : 0 ≤ number.value
  deriving DecidableEq

/-- Source `ForecastFact`. -/
structure ForecastFact where
  covenantVersionId : Uuid
  horizonDays : Nat
  probability : Option Fraction
  confidence : Option Fraction
  belowConfidenceFloor : Bool
  suppressed : Bool
  reason : Option (BriefText 500)
  deriving DecidableEq

/-- Source `TriageInput`. -/
structure TriageInput where
  borrowerId : Uuid
  reference : BriefText 100
  exposure : Option Money
  forecasts : List ForecastFact
  smaBand : Option (BriefText 100)
  deriving DecidableEq

/-- The states of an entry. -/
inductive State where
  | available
  | suppressed
  | noForecast
  | unrankable
  deriving DecidableEq, Repr

/-- Source `URGENCY_FORMULA`. -/
def urgencyFormula : String := "probability × exposure × confidence"

/-- The entries of `why` that are not constant texts. -/
structure Why where
  state : State
  reason : Text
  worstHorizon : Option Nat
  probability : Option Fraction
  confidence : Option Fraction
  urgency : Option Money
  thresholds : TriageThresholds
  deriving DecidableEq

/-- Source `_RankedFacts`. -/
structure RankedFacts where
  borrowerId : Uuid
  reference : BriefText 100
  exposure : Option Money
  worstCovenantVersionId : Option Uuid
  worstHorizon : Option Nat
  probability : Option Fraction
  confidence : Option Fraction
  urgency : Option Money
  band : Band
  smaBand : Option (BriefText 100)
  state : State
  reason : Text
  why : Why
  deriving DecidableEq

/-- Source `TriageEntry`, with the tie-break and the rank `rank` puts into `why`. -/
structure TriageEntry where
  borrowerId : Uuid
  reference : BriefText 100
  exposure : Option Money
  worstCovenantVersionId : Option Uuid
  worstHorizon : Option Nat
  probability : Option Fraction
  confidence : Option Fraction
  urgency : Option Money
  band : Band
  smaBand : Option (BriefText 100)
  state : State
  reason : BriefText 500
  rank : ℕ+
  appliedTieBreak : String
  why : Why
  deriving DecidableEq

/-! ## Urgency -/

/-- A fraction is an amount too. -/
def Fraction.amount (fraction : Fraction) : Money := ⟨fraction.number, fraction.range.1⟩

/-- `a * b` of two non-negative amounts. -/
def Money.mul (a b : Money) : Except PyError Money :=
  match product : Decimal.mul .default a.number b.number with
  | .ok result => .ok ⟨result, by
      have value := Decimal.mul_eq_ok a.nonneg b.nonneg product
      rw [← value.2.1]
      exact result.magnitude_nonneg⟩
  | .error error => .error error

/-- Source `urgency`. -/
def urgency (probability : Option Fraction) (exposure : Option Money)
    (confidence : Option Fraction) : Except PyError (Option Money) :=
  match probability, exposure, confidence with
  | some probability, some exposure, some confidence => do
    let product ← probability.amount.mul exposure
    let total ← product.mul confidence.amount
    return some total
  | _, _, _ => .ok none

/-! ## Selection -/

/-- Source `_is_usable`. -/
def isUsable (confidenceFloor : Fraction) (forecast : ForecastFact) : Bool :=
  forecast.probability.isSome && forecast.confidence.any (fun confidence =>
    !forecast.belowConfidenceFloor && !forecast.suppressed &&
      decide (confidenceFloor.number.value ≤ confidence.number.value))

/-- The value of an optional fraction, absent as zero. -/
def fractionValue (fraction : Option Fraction) : ℚ := (fraction.map (·.number.value)).getD 0

/-- Source `_worst_key`. -/
def worstKey (forecast : ForecastFact) : ℚ ×ₗ ℚ ×ₗ ℤ ×ₗ ℤ :=
  toLex (fractionValue forecast.probability, toLex (fractionValue forecast.confidence,
    toLex (-(forecast.horizonDays : ℤ), -(forecast.covenantVersionId.int : ℤ))))

/-- Source `_suppressed_key`. -/
def suppressedKey (forecast : ForecastFact) : ℤ ×ₗ ℚ ×ₗ ℚ ×ₗ ℤ ×ₗ ℤ :=
  toLex (if forecast.probability.isSome then 0 else -1, worstKey forecast)

/-- `str(n)` of a count of days, which Python refuses beyond 4300 digits. -/
def daysText (days : Nat) : Except PyError Text :=
  if 4300 < (Text.ofNat days).length then
    .error (.valueError ("Exceeds the limit (4300 digits) for integer string conversion; " ++
      "use sys.set_int_max_str_digits() to increase the limit"))
  else .ok (Text.ofNat days)

/-- The reason of an available entry. -/
def availableReason (days : Text) : Text :=
  "worst covenant-horizon is ".toList ++ days ++ " days; urgency = ".toList ++
    urgencyFormula.toList

def unrankableReason : Text :=
  ("forecast is available but exposure or confidence is unavailable; " ++
    "urgency is not rankable").toList

def noForecastReason : Text :=
  "no forecast is available for this borrower; included at the bottom of the queue".toList

/-- Source `_suppression_reason`. -/
def suppressionReason (forecast : ForecastFact) (floor : Fraction) : Text :=
  match forecast.reason with
  | some reason => "forecast suppressed: ".toList ++ reason.text
  | none =>
    if forecast.belowConfidenceFloor ∨
        ∃ confidence ∈ forecast.confidence, confidence.number.value < floor.number.value then
      let confidenceText := match forecast.confidence with
        | none => "unknown".toList
        | some confidence => confidence.number.str
      "forecast suppressed: confidence ".toList ++ confidenceText ++
        " is below the inclusive T2 floor ".toList ++ floor.number.str ++
        "; probability is absent and the borrower remains watch".toList
    else "forecast suppressed: probability is unavailable; the borrower remains watch".toList

/-- The facts of a borrower: `state`, `reason` and the forecast an entry names. -/
def rankedFacts (value : TriageInput) (thresholds : TriageThresholds) (state : State)
    (band : Band) (reason : Text) (selected : Option ForecastFact) (probability : Option Fraction)
    (urgency : Option Money) (whyReason : Text) : RankedFacts :=
  let horizon := selected.map (·.horizonDays)
  let confidence := selected.bind (·.confidence)
  { borrowerId := value.borrowerId
    reference := value.reference
    exposure := value.exposure
    worstCovenantVersionId := selected.map (·.covenantVersionId)
    worstHorizon := horizon
    probability := probability
    confidence := confidence
    urgency := urgency
    band := band
    smaBand := value.smaBand
    state := state
    reason := reason
    why := ⟨state, whyReason, horizon, probability, confidence, urgency, thresholds⟩ }

/-- Source `_build_ranked_entry`; `max` over no forecasts is the first branch. -/
def buildRankedEntry (thresholds : TriageThresholds) (value : TriageInput) :
    Except PyError RankedFacts :=
  match maxBy suppressedKey value.forecasts with
  | none =>
    .ok (rankedFacts value thresholds .noForecast .watch noForecastReason none none none
      "no forecast is available".toList)
  | some withheld =>
    let usable := value.forecasts.filter (isUsable thresholds.confidenceFloor)
    match maxBy worstKey usable with
    | some selected => do
      let selectedUrgency ← urgency selected.probability value.exposure selected.confidence
      match selectedUrgency with
      | none =>
        return rankedFacts value thresholds .unrankable .watch unrankableReason (some selected)
          selected.probability none unrankableReason
      | some amount => do
        let days ← daysText selected.horizonDays
        return rankedFacts value thresholds .available (band selected.probability thresholds)
          (availableReason days) (some selected) selected.probability (some amount)
          (availableReason days)
    | none =>
      let reason := suppressionReason withheld thresholds.confidenceFloor
      .ok (rankedFacts value thresholds .suppressed .watch reason (some withheld) none none reason)

/-! ## Ranking -/

/-- `-amount` as a key, an absent amount as zero. -/
def negated : Option Money → Except PyError ℚ
  | none => .ok 0
  | some amount => do
    let result ← Decimal.neg .default amount.number
    return result.value

abbrev SortKey := ℕ ×ₗ ℚ ×ₗ ℕ ×ₗ ℚ ×ₗ Text

/-- Source `_sort_key`. -/
def sortKey (item : RankedFacts) : Except PyError SortKey := do
  let urgency ← negated item.urgency
  let exposure ← negated item.exposure
  return toLex (if item.urgency.isSome then 0 else 1, toLex (urgency,
    toLex (if item.exposure.isSome then 0 else 1, toLex (exposure, item.reference.text))))

/-- Source `_applied_tie_break`, with the counts of `_urgency_counts`. -/
def appliedTieBreak (ranked : List RankedFacts) (item : RankedFacts) : String :=
  match item.urgency with
  | none => "exposure descending, then borrower reference ascending (urgency unavailable)"
  | some amount =>
    let same := ranked.countP fun other =>
      other.urgency.any fun amount' => amount'.number.value = amount.number.value
    if 1 < same then "exposure descending, then borrower reference ascending (urgency tied)"
    else "urgency descending"

/-- The `TriageEntry` of a position, whose `__post_init__` checks the reason. -/
def triageEntry (ranked : List RankedFacts) (item : RankedFacts) (position : ℕ+) :
    Except PyError TriageEntry := do
  let reason ← boundedText "reason" 500 item.reason
  return {
    borrowerId := item.borrowerId
    reference := item.reference
    exposure := item.exposure
    worstCovenantVersionId := item.worstCovenantVersionId
    worstHorizon := item.worstHorizon
    probability := item.probability
    confidence := item.confidence
    urgency := item.urgency
    band := item.band
    smaBand := item.smaBand
    state := item.state
    reason := reason
    rank := position
    appliedTieBreak := appliedTieBreak ranked item
    why := item.why }

/-- Source `_unique_borrowers`, from the ids and references already seen. -/
def uniqueBorrowers (seen : List Uuid) (references : List Text) :
    List TriageInput → Except PyError Unit
  | [] => .ok ()
  | value :: values =>
    if value.borrowerId ∈ seen then
      .error (.valueError ("Borrower " ++ String.ofList value.borrowerId.str ++
        " occurs more than once in triage input."))
    else if references.contains value.reference.text then
      .error (.valueError ("Borrower reference " ++
        String.ofList (Text.repr value.reference.text) ++ " occurs more than once in triage input."))
    else uniqueBorrowers (value.borrowerId :: seen) (value.reference.text :: references) values

/-- `sorted(items, key=_sort_key)`: the keys first, then a stable sort. -/
def sortByKey (items : List RankedFacts) : Except PyError (List RankedFacts) := do
  let keyed ← items.mapM fun item => (sortKey item).map fun key => (key, item)
  return (keyed.insertionSort fun a b => a.1 ≤ b.1).map Prod.snd

/-- The loop over `enumerate(ranked, start=1)`. -/
def triageEntries (ranked : List RankedFacts) (position : ℕ+) :
    List RankedFacts → Except PyError (List TriageEntry)
  | [] => .ok []
  | item :: items => do
    let entry ← triageEntry ranked item position
    let entries ← triageEntries ranked (position + 1) items
    return entry :: entries

/-- Source `rank`. -/
def rank (entries : List TriageInput) (thresholds : TriageThresholds) :
    Except PyError (List TriageEntry) := do
  uniqueBorrowers [] [] entries
  let built ← entries.mapM (buildRankedEntry thresholds)
  let ranked ← sortByKey built
  triageEntries ranked 1 ranked

end Triage

end CovenantRadar
