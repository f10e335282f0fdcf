import CovenantRadar.Python.DecimalContext
import CovenantRadar.Signals.Persistence

/-!
# The nightly evidence refresh

Source `services/nightly.py`, `_refresh_evidence`: the ledger is fed one
representative event of each family and type, and then every row that is not
superseded is rewritten from the borrower's whole event history. The ledger's own
revision is a parameter here: nothing below depends on which rows it leaves.
-/

namespace CovenantRadar.Nightly

open CovenantRadar.Signals (EvidenceState PersistenceThresholds)

/-- The columns of `signal_event` that the refresh reads. -/
structure SignalEvent where
  id : Uuid
  borrowerId : Uuid
  facilityId : Option Uuid
  eventDate : Date
  family : Text
  eventType : Text
  magnitude : Option Decimal
  payload : List (Text × Json)

/-- The columns of `evidence_item` that the refresh reads or writes. -/
structure EvidenceItem where
  id : Uuid
  borrowerId : Uuid
  facilityId : Option Uuid
  family : Text
  evidenceType : Text
  firstSeen : Date
  lastSeen : Date
  persistenceDays : Option Nat
  eventCountWindow : Option Nat
  materialityPct : Option Decimal
  decayFactor : Option Decimal
  state : EvidenceState
  countsTowardPressure : Bool
  sourceEventIds : List Text
  version : Nat
  deriving DecidableEq

/-- The columns of `evidence_transition` that the refresh writes. -/
structure EvidenceTransition where
  evidenceId : Uuid
  fromState : EvidenceState
  toState : EvidenceState
  occurredOn : Date
  rule : Text
  deriving DecidableEq

/-! ## Events -/

/-- `bool(value)`. -/
def truthy : Json → Bool
  | .null => false
  | .bool value => value
  | .int value => value != 0
  | .float value => value.value != 0
  | .str value => !value.isEmpty
  | .arr items => !items.isEmpty
  | .obj entries => !entries.isEmpty

/-- `bool((event.payload or {}).get("is_adverse", False))`. -/
def SignalEvent.isAdverse (event : SignalEvent) : Bool :=
  (Json.lookup "is_adverse".toList event.payload).any truthy

/-- The key the refresh groups events by. -/
def SignalEvent.groupKey (event : SignalEvent) : Text × Text := (event.family, event.eventType)

/-- The key a row looks its group up with. -/
def EvidenceItem.groupKey (item : EvidenceItem) : Text × Text := (item.family, item.evidenceType)

/-- `grouped.get(key, [])`. -/
def eventsOf (events : List SignalEvent) (key : Text × Text) : List SignalEvent :=
  events.filter fun event => event.groupKey = key

/-- The key of `max` over events. -/
def latestKey (event : SignalEvent) : Date ×ₗ Text := toLex (event.eventDate, event.id.str)

/-- `representative_events`: of each group the latest adverse event, else the latest. -/
def representatives (events : List SignalEvent) : List SignalEvent :=
  (events.map SignalEvent.groupKey).eraseDups.filterMap fun key =>
    let values := eventsOf events key
    let adverseValues := values.filter SignalEvent.isAdverse
    maxBy latestKey (if adverseValues = [] then values else adverseValues)

/-! ## Measurements -/

/-- The loop variables of `_longest_consecutive_days`. -/
structure ConsecutiveDays where
  longest : Nat
  current : Nat
  previous : Option Date

/-- One turn of `_longest_consecutive_days`. -/
def ConsecutiveDays.step (count : ConsecutiveDays) (value : Date) : ConsecutiveDays :=
  let follows := count.previous.any fun previous => value.toOrdinal = previous.toOrdinal + 1
  let current := if follows then count.current + 1 else 1
  ⟨max count.longest current, current, some value⟩

/-- Source `_longest_consecutive_days`. -/
def longestConsecutiveDays (values : List Date) : Nat :=
  (values.foldl ConsecutiveDays.step ⟨0, 0, none⟩).longest

/-- The table `scale` of `_signal_materiality_pct`. -/
def materialityScale (family : Text) : Decimal :=
  if family = "payment".toList then Decimal.ofInt 2
  else if family = "treasury".toList ∨ family = "industry".toList ∨ family = "news".toList then
    Decimal.ofInt 100
  else Decimal.ofInt 1

/-- `max(a, b)` of two decimals: the first one when they are equal. -/
def decimalMax (a b : Decimal) : Decimal := if a.lt b then b else a

/-- `min(a, b)` of two decimals: the first one when they are equal. -/
def decimalMin (a b : Decimal) : Decimal := if b.lt a then b else a

/-- Source `_signal_materiality_pct`. -/
def signalMaterialityPct (family : Text) (events : List SignalEvent) : Except PyError Decimal :=
  match maxBy latestKey events with
  | none => .ok (Decimal.ofInt 0)
  | some latest => do
    let magnitude := (latest.magnitude.filter fun given => given.coefficient != 0).getD (.ofInt 0)
    let absolute ← Decimal.abs .default magnitude
    let value ← Decimal.mul .default absolute (materialityScale family)
    .ok (decimalMin (.ofInt 100) (decimalMax (.ofInt 5) value))

/-- What the loop body computes for one row before it writes. -/
structure Measurement where
  observedDates : List Date
  consecutive : Nat
  windowCount : Nat
  sustained : Bool
  materialityPct : Decimal
  sourceEventIds : List Text

def Measurement.nextState (measured : Measurement) : EvidenceState :=
  if measured.sustained then .sustained else .transient

/-- `sustained and materiality_pct > 0`. -/
def Measurement.counts (measured : Measurement) : Bool :=
  measured.sustained && (Decimal.ofInt 0).lt measured.materialityPct

/-- `as_of_date.fromordinal(as_of_date.toordinal() - event_window_days + 1)`. -/
def windowStart (asOf : Date) (eventWindowDays : Nat) : Except PyError Date :=
  match asOf.subDays (eventWindowDays - 1) with
  | none => .error (.valueError "ordinal must be >= 1")
  | some start => .ok start

/-- `materiality_pct` of a row: zero unless the evidence is sustained. -/
def materialityOf (sustained : Bool) (family : Text) (adverse : List SignalEvent) :
    Except PyError Decimal :=
  if sustained then signalMaterialityPct family adverse else .ok (Decimal.ofInt 0)

/-- The measurements of one row, from the events of its group. -/
def measure (persistence : PersistenceThresholds) (asOf : Date) (family : Text)
    (events : List SignalEvent) : Except PyError Measurement := do
  let adverse := events.filter SignalEvent.isAdverse
  let dates := sortedSet (adverse.map (·.eventDate))
  let observedDates := sortedSet (events.map (·.eventDate))
  let consecutive := longestConsecutiveDays dates
  let start ← windowStart asOf persistence.eventWindowDays
  let windowCount := (dates.filter fun value => start ≤ value && value ≤ asOf).length
  let sustained := decide (persistence.sustainedDays ≤ consecutive) ||
    decide (persistence.sustainedEvents ≤ windowCount)
  let materialityPct ← materialityOf sustained family adverse
  .ok ⟨observedDates, consecutive, windowCount, sustained, materialityPct,
    events.map fun event => event.id.str⟩

/-! ## Rows -/

/-- `a != b` for an optional stored decimal. -/
def decimalDiffers (stored : Option Decimal) (computed : Decimal) : Bool :=
  !stored.any fun value => value.numEq computed

/-- The test `changed`. -/
def isChanged (asOf : Date) (item : EvidenceItem) (measured : Measurement) : Bool :=
  item.firstSeen != measured.observedDates.head?.getD asOf ||
  item.lastSeen != measured.observedDates.getLast?.getD asOf ||
  item.persistenceDays != some measured.consecutive ||
  item.eventCountWindow != some measured.windowCount ||
  item.state != measured.nextState ||
  decimalDiffers item.materialityPct measured.materialityPct ||
  item.countsTowardPressure != measured.counts ||
  item.sourceEventIds != measured.sourceEventIds

/-- The writes to a row that changed. -/
def writeItem (item : EvidenceItem) (measured : Measurement) : EvidenceItem :=
  { item with
    firstSeen := measured.observedDates.head?.getD item.firstSeen
    lastSeen := measured.observedDates.getLast?.getD item.lastSeen
    persistenceDays := some measured.consecutive
    eventCountWindow := some measured.windowCount
    state := measured.nextState
    materialityPct := some measured.materialityPct
    decayFactor := some (Decimal.ofInt 1)
    countsTowardPressure := measured.counts
    sourceEventIds := measured.sourceEventIds
    version := item.version + 1 }

/-- The transition appended when the state of a row changes. -/
def transitionOf (asOf : Date) (item : EvidenceItem) (measured : Measurement) :
    Option EvidenceTransition :=
  if item.state = measured.nextState then none
  else some ⟨item.id, item.state, measured.nextState, asOf,
    if measured.sustained then "T3.sustained_days_or_events".toList
    else "T3.persistence_not_met".toList⟩

/-- The loop body for one row. -/
def refreshItem (persistence : PersistenceThresholds) (asOf : Date) (events : List SignalEvent)
    (item : EvidenceItem) : Except PyError (EvidenceItem × Option EvidenceTransition) := do
  let measured ← measure persistence asOf item.family (eventsOf events item.groupKey)
  if isChanged asOf item measured then
    .ok (writeItem item measured, transitionOf asOf item measured)
  else .ok (item, none)

/-- `LedgerService.revise` on the representative events: the rows it leaves. -/
abbrev LedgerRevision := List SignalEvent → List EvidenceItem → Except PyError (List EvidenceItem)

/-- Source `_refresh_evidence`, for one borrower: the rows that are not superseded
    afterwards, and the transitions appended. -/
def refreshEvidence (persistence : PersistenceThresholds) (revise : LedgerRevision)
    (borrowerId : Uuid) (asOf : Date) (stored : List SignalEvent) (rows : List EvidenceItem) :
    Except PyError (List (EvidenceItem × Option EvidenceTransition)) := do
  let allEvents := stored.filter fun event =>
    event.borrowerId = borrowerId && event.eventDate ≤ asOf
  let revised ← revise (representatives allEvents) rows
  let active := revised.filter fun item =>
    item.borrowerId = borrowerId && item.state != .superseded
  active.mapM (refreshItem persistence asOf allEvents)

end CovenantRadar.Nightly
