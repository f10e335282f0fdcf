import CovenantRadar.Ingestion.Report
import CovenantRadar.Security.Principal

/-!
# What ingestion stores

Source `db/repositories/ingestion.py`, and the statements `services/ingestion.py` sends itself:
the signal rows, the run envelopes with their reports, the quarantined rows and the audit events.
-/

namespace CovenantRadar.Ingestion

open Taxonomy (Builtins SignalEvent)

/-! ## Rows -/

/-- A row of `signal_event`. -/
structure SignalRow (py : Builtins) (hexdigest : ByteArray → Text) where
  event : SignalEvent py hexdigest
  ingestedAt : UtcInstant

/-- The column with the unique constraint. -/
def SignalRow.contentHash {py : Builtins} {hexdigest : ByteArray → Text}
    (row : SignalRow py hexdigest) : Text := row.event.contentHash

/-- The columns of `import_mapping` that a run reads. -/
structure ImportMapping where
  name : Text
  version : Nat
  sourceType : Text
  spec : JsonObject

/-- The columns of `import_batch`, the mapping by its name. -/
structure ImportBatch where
  id : Uuid
  sourceType : Text
  sourceReference : Option Text
  mappingName : Text
  startedAt : UtcInstant
  finishedAt : Option UtcInstant
  rowCount : Nat
  acceptedCount : Nat
  quarantinedCount : Nat
  report : JsonObject

/-- The columns of `quarantine_row` that `add_quarantine` writes. -/
structure QuarantineRow where
  batchId : Uuid
  rowNumber : Nat
  raw : Option RawRow
  ruleFailed : Text
  message : Text
  createdAt : UtcInstant

/-- The audit events of a run, with their payloads. -/
inductive AuditEvent where
  | quarantined (batchId : Uuid) (rowNumber : Nat) (reason : Text) (sourceId : Option Uuid)
  | completed (batchId : Uuid) (received inserted duplicates rejected : Nat)
      (sourceIds : List Uuid) (idempotencyKey : Option Text)
      (lateEvents recomputationsQueued lateEventsWithoutForecast : Nat)
      (dominantReasonFlagged : Bool)

/-- The tables a run reads and writes. -/
structure Database (py : Builtins) (hexdigest : ByteArray → Text) where
  signals : KeyedTable (@SignalRow.contentHash py hexdigest)
  mappings : List ImportMapping
  batches : KeyedTable ImportBatch.id
  quarantineRows : List QuarantineRow
  audit : List AuditEvent

/-! ## Rejection categories -/

/-- The categories a rejection reason is sorted into by what its text contains. -/
def rejectionCategory (reason : Text) : Option Text :=
  let lowered := Text.lower reason
  if "unknown signal family".toList <:+: lowered then some "unknown_family".toList
  else if "requires event type".toList <:+: lowered ∨ "unknown event type".toList <:+: lowered then
    some "unknown_event_type".toList
  else if "missing required field".toList <:+: lowered then some "missing_required_field".toList
  else if "unknown borrower".toList <:+: lowered then some "unknown_borrower".toList
  else if "unknown facility".toList <:+: lowered then some "unknown_facility".toList
  else none

/-- Source `_rule_failed`. -/
def ruleFailed (reason : Text) : Text :=
  (rejectionCategory reason).getD "signal_validation_failed".toList

/-- Source `_rejection_key`. -/
def rejectionKey (reason : Text) : Text := (rejectionCategory reason).getD reason

/-! ## Runs -/

/-- Source `_SIGNAL_MAPPING_NAME_PREFIX`. -/
def signalMappingNamePrefix : Text := "signal_ingestion_".toList

/-- Source `_SIGNAL_MAPPING_VERSION`. -/
def signalMappingVersion : Nat := 1

/-- Source `_SIGNAL_MAPPING_SPEC`. -/
def signalMappingSpec : JsonObject :=
  [("kind".toList, .str "canonical_signal_event".toList),
    ("version".toList, .int signalMappingVersion)]

/-- Source `_mapping_name`. -/
def mappingName (sourceType : Text) : Text := signalMappingNamePrefix ++ sourceType

/-- The mapping a run of this source type is stored under. -/
def canonicalMapping (sourceType : Text) : ImportMapping :=
  ⟨mappingName sourceType, signalMappingVersion, sourceType, signalMappingSpec⟩

/-- Source `_is_signal_batch`. -/
def ImportBatch.isSignalBatch (batch : ImportBatch) : Bool :=
  signalMappingNamePrefix.isPrefixOf batch.mappingName

namespace Database

variable {py : Builtins} {hexdigest : ByteArray → Text}

/-- The stored mapping of a source type. -/
def findMapping (database : Database py hexdigest) (sourceType : Text) : Option ImportMapping :=
  database.mappings.find? fun mapping =>
    mapping.name = mappingName sourceType && mapping.version = signalMappingVersion

/-- Source `_canonical_mapping`. -/
def ensureMapping (database : Database py hexdigest) (sourceType : Text) :
    Except DomainError (Database py hexdigest) :=
  match database.findMapping sourceType with
  | some mapping =>
    if mapping.sourceType ≠ sourceType ∨
        Json.pyEq (.obj mapping.spec) (.obj signalMappingSpec) = false then
      .error (.conflict "The canonical signal import mapping has been changed.".toList)
    else .ok database
  | none => .ok { database with mappings := database.mappings ++ [canonicalMapping sourceType] }

/-- A new run envelope. -/
def envelope (batchId : Uuid) (sourceType : Text) (sourceReference : Option Text)
    (startedAt : UtcInstant) : ImportBatch :=
  ⟨batchId, sourceType, sourceReference, mappingName sourceType, startedAt, none, 0, 0, 0, []⟩

/-- Source `SignalIngestionRepository.begin_run`: the envelope of the run. -/
def beginRun (database : Database py hexdigest) (batchId : Uuid) (sourceType : Text)
    (sourceReference : Option Text) (startedAt : UtcInstant) :
    Except DomainError (ImportBatch × Database py hexdigest) :=
  match database.batches.find batchId with
  | some existing =>
    if existing.isSignalBatch = false then
      .error (.conflict ("Batch id ".toList ++ batchId.str ++
        " is already used by another import type.".toList))
    else if existing.report = [] then
      .error (.conflict ("Signal ingestion batch ".toList ++ batchId.str ++
        " is already in progress.".toList))
    else .ok (existing, database)
  | none => do
    let mapped ← database.ensureMapping sourceType
    let batch := envelope batchId sourceType sourceReference startedAt
    .ok (batch, { mapped with batches := mapped.batches.insertNew batch })

/-- Source `SignalIngestionRepository.add_quarantine`, and the audit event after it. -/
def addQuarantine (database : Database py hexdigest) (signal : QuarantinedSignal) :
    Database py hexdigest :=
  { database with
    quarantineRows := database.quarantineRows ++ [⟨signal.batchId, signal.rowNumber, signal.raw,
      ruleFailed signal.reason, signal.reason, signal.occurredAt⟩]
    audit := database.audit ++
      [.quarantined signal.batchId signal.rowNumber signal.reason signal.sourceId] }

/-- Source `SignalIngestionRepository.complete_run`. -/
def completeRun (database : Database py hexdigest) (batchId : Uuid) (payload : JsonObject)
    (finishedAt : UtcInstant) : Except DomainError (Database py hexdigest) :=
  match database.batches.find batchId with
  | none => .error (.notFound ("Signal ingestion batch ".toList ++ batchId.str ++
      " was not found.".toList))
  | some batch =>
    if batch.isSignalBatch = false then
      .error (.notFound ("Signal ingestion batch ".toList ++ batchId.str ++
        " was not found.".toList))
    else if batch.report ≠ [] then
      if Json.pyEq (.obj batch.report) (.obj payload) then .ok database
      else .error (.conflict ("Signal ingestion batch ".toList ++ batchId.str ++
        " already has a report.".toList))
    else do
      let rowCount ← reportInt (fieldOr payload "received" (.int 0)) "received"
      let acceptedCount ← reportInt (fieldOr payload "accepted" (.int 0)) "accepted"
      let quarantinedCount ← reportInt (fieldOr payload "rejected" (.int 0)) "rejected"
      .ok { database with
        batches := database.batches.put { batch with
          rowCount, acceptedCount, quarantinedCount, finishedAt := some finishedAt
          report := payload } }

/-! ## Signals -/

/-- The first signal of each content hash. -/
def firstOfEachHash (signals : List (PreparedSignal py hexdigest)) :
    List (PreparedSignal py hexdigest) :=
  signals.foldl (fun unique candidate =>
    if unique.any fun known => known.event.contentHash = candidate.event.contentHash then unique
    else unique ++ [candidate]) []

/-- Source `_insert_valid`: the tables afterwards, and how many signals were inserted and how
    many were duplicates. -/
def insertValid (database : Database py hexdigest) (signals : List (PreparedSignal py hexdigest))
    (ingestedAt : UtcInstant) : Database py hexdigest × Nat × Nat :=
  let unique := firstOfEachHash signals
  let table := unique.foldl (fun table signal => table.insertNew ⟨signal.event, ingestedAt⟩)
    database.signals
  let inserted := table.rows.length - database.signals.rows.length
  ({ database with signals := table }, inserted,
    (signals.length - unique.length) + (unique.length - inserted))

end Database

end CovenantRadar.Ingestion
