import CovenantRadar.Ingestion.Watermark
import CovenantRadar.Signals.ContentHash

/-!
# Reading a batch

Source `ingestion/signals/framework.py`, with `SignalEvent.from_mapping`: every row of the source
is read once; a row that is not a valid event is held out with its reason.
-/

namespace CovenantRadar.Ingestion

open Taxonomy (Builtins SignalEvent SignalTaxonomyError)

/-- Source `_MAX_BATCH_SIZE`. -/
def maxBatchSize : Nat := 10000

/-- A row that is a mapping: its entries. -/
abbrev RawRow := List (Text × PyValue)

/-- What a source yields: an event, a mapping, or something else. -/
inductive SourceRow (py : Builtins) (hexdigest : ByteArray → Text) where
  | event (event : SignalEvent py hexdigest)
  | mapping (entries : RawRow)
  | other

/-- Source `_raw_mapping`. -/
def SourceRow.rawMapping {py : Builtins} {hexdigest : ByteArray → Text} :
    SourceRow py hexdigest → Option RawRow
  | .mapping entries => some entries
  | _ => none

/-- Source `QuarantinedSignal`. -/
structure QuarantinedSignal where
  batchId : Uuid
  rowNumber : Nat
  raw : Option RawRow
  reason : Text
  occurredAt : UtcInstant
  sourceId : Option Uuid
  positive : 1 ≤ rowNumber
  explained : Text.strip reason ≠ []
  bounded : reason.length ≤ maxReasonLength

/-- Source `QuarantinedSignal.__post_init__`. -/
def QuarantinedSignal.make (batchId : Uuid) (rowNumber : Nat) (raw : Option RawRow)
    (reason : Text) (occurredAt : UtcInstant) (sourceId : Option Uuid) :
    Except DomainError QuarantinedSignal :=
  if positive : 1 ≤ rowNumber then
    if explained : Text.strip reason ≠ [] then
      if bounded : reason.length ≤ maxReasonLength then
        .ok ⟨batchId, rowNumber, raw, reason, occurredAt, sourceId, positive, explained, bounded⟩
      else .error (raised "A quarantined signal reason is too long.")
    else .error (raised "A quarantined signal requires a reason.")
  else .error (raised "Quarantined signal row_number must be a positive integer.")

/-- The same row, held out of another batch at another time. -/
def QuarantinedSignal.relabel (batchId : Uuid) (occurredAt : UtcInstant)
    (signal : QuarantinedSignal) : QuarantinedSignal := { signal with batchId, occurredAt }

theorem QuarantinedSignal.make_relabel (batchId other : Uuid) (rowNumber : Nat)
    (raw : Option RawRow) (reason : Text) (occurredAt later : UtcInstant)
    (sourceId : Option Uuid) :
    make other rowNumber raw reason later sourceId =
      (make batchId rowNumber raw reason occurredAt sourceId).map (relabel other later) := by
  unfold make
  split_ifs <;> rfl

section

variable (py : Builtins) (hexdigest : ByteArray → Text)

/-- Source `PreparedSignal`. -/
structure PreparedSignal where
  rowNumber : Nat
  event : SignalEvent py hexdigest
  raw : Option RawRow
  positive : 1 ≤ rowNumber

/-- Source `SignalBatch`, with what the loop of `prepare` maintains. -/
structure SignalBatch where
  batchId : Uuid
  receivedCount : Nat
  prepared : List (PreparedSignal py hexdigest)
  quarantined : List QuarantinedSignal
  counted : prepared.length + quarantined.length = receivedCount
  bounded : receivedCount ≤ maxBatchSize

/-- The fields `SignalEvent.from_mapping` requires. -/
def requiredFields : List Text :=
  ["borrower_id".toList, "event_date".toList, "family".toList, "event_type".toList,
    "magnitude".toList, "unit".toList, "payload".toList]

/-- The fields `SignalEvent.from_mapping` allows besides. -/
def optionalFields : List Text :=
  ["facility_id".toList, "source_id".toList, "is_late".toList, "content_hash".toList]

/-- Source `SignalEvent.from_mapping`. -/
def fromMapping (value : RawRow) (sourceId : Option Uuid) :
    Except SignalTaxonomyError (SignalEvent py hexdigest) :=
  match requiredFields.find? fun field => (dictGet value field).isNone with
  | some field => .error ⟨field ++ " is required.".toList, "signal_event.".toList ++ field⟩
  | none =>
    let unknown := (value.map Prod.fst).filter fun field =>
      !(requiredFields ++ optionalFields).contains field
    if unknown ≠ [] then
      .error ⟨"Unknown signal field(s): ".toList ++
        List.intercalate ", ".toList (unknown.insertionSort (· ≤ ·)) ++ ".".toList,
        "signal_event".toList⟩
    else
      let get (field : String) : PyValue := (dictGet value field.toList).getD .none
      SignalEvent.make py hexdigest {
        borrowerId := get "borrower_id"
        facilityId := get "facility_id"
        eventDate := get "event_date"
        family := get "family"
        eventType := get "event_type"
        magnitude := get "magnitude"
        unit := get "unit"
        payload := get "payload"
        sourceId := match get "source_id" with
          | .none => sourceId.elim .none .uuid
          | given => given
        isLate := (dictGet value "is_late".toList).getD (.bool false)
        contentHash := get "content_hash" }

/-- The event of a row, under the batch's source where it names none. -/
def readRow (sourceId : Option Uuid) (row : SourceRow py hexdigest) :
    Except SignalTaxonomyError (SignalEvent py hexdigest) := do
  let event ← match row with
    | .event event => .ok event
    | .mapping entries => fromMapping py hexdigest entries sourceId
    | .other => .error ⟨"A signal row must be an object.".toList, "signal_event".toList⟩
  .ok { event with sourceId := event.sourceId.or sourceId }

/-- A batch before its first row. -/
def SignalBatch.start (batchId : Uuid) : SignalBatch py hexdigest :=
  ⟨batchId, 0, [], [], rfl, Nat.zero_le _⟩

variable {py hexdigest}

theorem counted_prepared {batch : SignalBatch py hexdigest} (signal : PreparedSignal py hexdigest) :
    (batch.prepared ++ [signal]).length + batch.quarantined.length = batch.receivedCount + 1 := by
  rw [List.length_append, List.length_singleton, ← batch.counted]
  omega

theorem counted_quarantined {batch : SignalBatch py hexdigest} (signal : QuarantinedSignal) :
    batch.prepared.length + (batch.quarantined ++ [signal]).length = batch.receivedCount + 1 := by
  rw [List.length_append, List.length_singleton, ← batch.counted]
  omega

/-- The loop body of `SignalIngestionFramework.prepare`. -/
def prepareRow (sourceId : Option Uuid) (occurredAt : UtcInstant)
    (batch : SignalBatch py hexdigest) (row : SourceRow py hexdigest) :
    Except DomainError (SignalBatch py hexdigest) :=
  if bounded : batch.receivedCount + 1 ≤ maxBatchSize then
    match readRow py hexdigest sourceId row with
    | .ok event =>
      let signal := ⟨batch.receivedCount + 1, event, row.rawMapping, Nat.le_add_left 1 _⟩
      .ok ⟨batch.batchId, batch.receivedCount + 1, batch.prepared ++ [signal], batch.quarantined,
        counted_prepared signal, bounded⟩
    | .error error => do
      let signal ← QuarantinedSignal.make batch.batchId (batch.receivedCount + 1) row.rawMapping
        (error.message.take maxReasonLength) occurredAt sourceId
      .ok ⟨batch.batchId, batch.receivedCount + 1, batch.prepared, batch.quarantined ++ [signal],
        counted_quarantined signal, bounded⟩
  else .error (raised "A signal batch cannot contain more than 10000 rows.")

/-- Source `SignalIngestionFramework.prepare`, of a source that yields these rows. -/
def prepare (events : List (SourceRow py hexdigest)) (batchId : Uuid) (sourceId : Option Uuid)
    (occurredAt : UtcInstant) : Except DomainError (SignalBatch py hexdigest) :=
  events.foldlM (prepareRow sourceId occurredAt) (SignalBatch.start py hexdigest batchId)

/-! ## Another batch of the same rows -/

/-- The batch under another identifier and at another time. -/
def SignalBatch.relabel (batchId : Uuid) (occurredAt : UtcInstant)
    (batch : SignalBatch py hexdigest) : SignalBatch py hexdigest where
  batchId := batchId
  receivedCount := batch.receivedCount
  prepared := batch.prepared
  quarantined := batch.quarantined.map (·.relabel batchId occurredAt)
  counted := by rw [List.length_map, batch.counted]
  bounded := batch.bounded

theorem prepareRow_relabel (sourceId : Option Uuid) (batchId : Uuid) (occurredAt later : UtcInstant)
    (batch : SignalBatch py hexdigest) (row : SourceRow py hexdigest) :
    prepareRow sourceId later (batch.relabel batchId later) row =
      (prepareRow sourceId occurredAt batch row).map (·.relabel batchId later) := by
  have same : (batch.relabel batchId later).receivedCount = batch.receivedCount := rfl
  unfold prepareRow
  by_cases bounded : batch.receivedCount + 1 ≤ maxBatchSize
  · rw [dif_pos bounded, dif_pos (same ▸ bounded)]
    cases readRow py hexdigest sourceId row with
    | ok event => rfl
    | error error =>
      simp only [SignalBatch.relabel]
      rw [QuarantinedSignal.make_relabel batch.batchId batchId _ _ _ occurredAt later]
      cases QuarantinedSignal.make batch.batchId (batch.receivedCount + 1) row.rawMapping
        (error.message.take maxReasonLength) occurredAt sourceId with
      | ok signal => simp [Except.map, bind, Except.bind]
      | error refused => rfl
  · rw [dif_neg bounded, dif_neg (same ▸ bounded)]
    rfl

/-- The rows decide what a batch holds, not its identifier or its time. -/
theorem prepare_relabel (events : List (SourceRow py hexdigest)) (batchId other : Uuid)
    (sourceId : Option Uuid) (occurredAt later : UtcInstant) :
    prepare events other sourceId later =
      (prepare events batchId sourceId occurredAt).map (·.relabel other later) := by
  unfold prepare
  have start : SignalBatch.start py hexdigest other =
      (SignalBatch.start py hexdigest batchId).relabel other later := rfl
  rw [start]
  generalize SignalBatch.start py hexdigest batchId = batch
  induction events generalizing batch with
  | nil => rfl
  | cons row rows ih =>
    rw [List.foldlM_cons, List.foldlM_cons, prepareRow_relabel sourceId other occurredAt later]
    cases prepareRow sourceId occurredAt batch row with
    | ok next => exact ih next
    | error refused => rfl

end

end CovenantRadar.Ingestion
