import CovenantRadar.Ingestion.Database

/-!
# The ingestion service

Source `services/ingestion.py`, `SignalIngestionService.ingest`: one batch is read, checked
against the scope, inserted, quarantined, compared with the watermarks and reported. The database
is restored by its savepoint; the watermark store, the recomputation queue and the quarantine sink
are restored only where the service does it itself. A call that fails on its own account or on
a port's is given by the point it fails at.
-/

namespace CovenantRadar.Ingestion

open Security (Principal Permission authorize)
open Taxonomy (Builtins SignalEvent SignalFamily)

/-- What the caller's scope shows of the borrower and facility tables. -/
structure PortfolioView where
  principalId : Uuid
  borrowers : Uuid → Bool
  facilities : Uuid → Option Uuid

/-- One call of `ingest`: the service's settings, the view of the caller's scope, the clock
    reading, the identifier `new_id` would give, and the arguments. -/
structure IngestCall (py : Builtins) (hexdigest : ByteArray → Text) where
  dominantReasonShare : Decimal
  shared : IsShare dominantReasonShare
  forecastExists : Uuid → Bool
  view : PortfolioView
  now : UtcInstant
  newId : Uuid
  principal : Principal
  events : List (SourceRow py hexdigest)
  sourceId : Option Uuid
  batchId : Option Uuid
  requestId : Text
  idempotencyKey : Option Text
  sourceType : Text
  sourceReference : Option Text
  sourceAsOfDate : Option Date
  sourceAsOfDates : List (Uuid × Date)
  sourceAsOf : Option Date

/-- Everything a call reads and writes: the database, and the state of the three ports. -/
structure World (py : Builtins) (hexdigest : ByteArray → Text) where
  database : Database py hexdigest
  watermarks : Watermarks
  queue : RecomputationQueue
  sink : List QuarantinedSignal

/-- The points at which a call can raise. The calls of the quarantine loop are counted from
    zero. -/
inductive FailurePoint where
  | source
  | beginRun
  | lookup
  | insert
  | quarantine (index : Nat)
  | addQuarantine (index : Nat)
  | auditQuarantined (index : Nat)
  | lateHandling
  | buildReport
  | completeRun
  | auditCompleted
  deriving DecidableEq, Repr

/-- A call of a port: the exception of the port where it fails there. -/
def attempt (fault : Option FailurePoint) (point : FailurePoint) : Except DomainError Unit :=
  if fault = some point then .error (raised "A port raised.") else .ok ()

section

variable {py : Builtins} {hexdigest : ByteArray → Text}

namespace IngestCall

variable (call : IngestCall py hexdigest)

/-! ## Arguments -/

/-- Source `_write_context`. -/
def checkContext : Except DomainError Unit := do
  authorize call.principal .ingestData
  if call.view.principalId ≠ call.principal.id then
    .error ⟨.authorizationError,
      "The supplied portfolio scope does not belong to the authenticated principal.".toList, none⟩
  else .ok ()

/-- Source `_request_id`. -/
def checkRequestId : Except DomainError Unit :=
  if 1 ≤ call.requestId.length ∧ call.requestId.length ≤ 40 then .ok ()
  else .error (raised "Signal ingestion request_id must be between 1 and 40 characters.")

/-- Source `_idempotency_key`. -/
def checkIdempotencyKey : Except DomainError Unit :=
  match call.idempotencyKey with
  | none => .ok ()
  | some value =>
    if ¬ (1 ≤ value.length ∧ value.length ≤ 200) then
      .error (raised "Signal ingestion idempotency_key must be between 1 and 200 characters.")
    else if Text.strip value = [] then
      .error (raised "Signal ingestion idempotency_key must not be blank.")
    else if value.any Text.isControl then
      .error (raised "Signal ingestion idempotency_key contains an invalid control character.")
    else .ok ()

/-- The source types `_source_type` accepts. -/
def sourceTypes : List Text := ["api".toList, "csv".toList, "json".toList, "xlsx".toList]

/-- Source `_source_type`. -/
def checkSourceType : Except DomainError Unit :=
  if sourceTypes.contains call.sourceType then .ok ()
  else .error (raised "Signal source_type must be one of api, csv, json or xlsx.")

/-- Source `_source_reference`. -/
def checkSourceReference : Except DomainError Unit :=
  match call.sourceReference with
  | none => .ok ()
  | some value =>
    if Text.strip value = [] then
      .error (raised "Signal source_reference must be a non-empty string when supplied.")
    else if 500 < value.length then
      .error (raised "Signal source_reference must be at most 500 characters.")
    else if value.any Text.isControl then
      .error (raised "Signal source_reference contains an invalid control character.")
    else .ok ()

/-- The check of the two spellings of the stated date. -/
def checkAsOf : Except DomainError Unit :=
  match call.sourceAsOf, call.sourceAsOfDate with
  | some other, some stated =>
    if stated = other then .ok ()
    else .error (raised "source_as_of and source_as_of_date must match when both are supplied.")
  | _, _ => .ok ()

/-- The checks before the savepoint. -/
def check : Except DomainError Unit := do
  call.checkContext
  call.checkRequestId
  call.checkIdempotencyKey
  call.checkSourceType
  call.checkSourceReference
  call.checkAsOf

/-- The stated date of a source that has none of its own. -/
def resolvedAsOf : Option Date := call.sourceAsOf.or call.sourceAsOfDate

/-- The stated date of a source. -/
def asOf (sourceId : Uuid) : Option Date :=
  (dictGet call.sourceAsOfDates sourceId).or call.resolvedAsOf

/-- The identifier of the batch. -/
def resolvedBatchId : Uuid := call.batchId.getD call.newId

end IngestCall

/-! ## Lateness and scope -/

/-- The event is dated before the watermark of its source. -/
def isLate (watermarks : Watermarks) (event : SignalEvent py hexdigest) : Bool :=
  (event.sourceId.bind watermarks).any fun watermark => event.eventDate < watermark

/-- Source `_with_late_flag`. -/
def withLateFlag (watermarks : Watermarks) (signal : PreparedSignal py hexdigest) :
    PreparedSignal py hexdigest :=
  { signal with event := { signal.event with isLate := isLate watermarks signal.event } }

/-- Source `_classify_late_events`. -/
def classifyLateEvents (watermarks : Watermarks) (signals : List (PreparedSignal py hexdigest)) :
    List (PreparedSignal py hexdigest) :=
  signals.map (withLateFlag watermarks)

/-- Why an event is rejected by the caller's scope, if it is. -/
def scopeRejection (view : PortfolioView) (event : SignalEvent py hexdigest) : Option Text :=
  if view.borrowers event.borrowerId = false then
    some "Unknown borrower or borrower outside the current portfolio scope.".toList
  else match event.facilityId with
    | none => none
    | some facilityId =>
      if view.facilities facilityId = some event.borrowerId then none
      else some "Unknown facility or facility outside the current portfolio scope.".toList

theorem scopeRejection_reason {view : PortfolioView} {event : SignalEvent py hexdigest}
    {reason : Text} (rejected : scopeRejection view event = some reason) :
    Text.strip reason ≠ [] ∧ reason.length ≤ maxReasonLength := by
  unfold scopeRejection at rejected
  split_ifs at rejected
  · cases rejected
    decide
  · split at rejected
    · cases rejected
    · split_ifs at rejected
      cases rejected
      decide

/-- Source `_quarantine_record`, for a signal the scope rejects. -/
def quarantineRecord (call : IngestCall py hexdigest) (signal : PreparedSignal py hexdigest) :
    Option QuarantinedSignal :=
  match rejected : scopeRejection call.view signal.event with
  | none => none
  | some reason => some ⟨call.resolvedBatchId, signal.rowNumber, signal.raw, reason, call.now,
      signal.event.sourceId.or call.sourceId, signal.positive, (scopeRejection_reason rejected).1,
      (scopeRejection_reason rejected).2⟩

/-- The signals of a batch the scope accepts. -/
def acceptedSignals (call : IngestCall py hexdigest) (watermarks : Watermarks)
    (batch : SignalBatch py hexdigest) : List (PreparedSignal py hexdigest) :=
  (classifyLateEvents watermarks batch.prepared).filter fun signal =>
    (scopeRejection call.view signal.event).isNone

/-- The rows of a batch that are held out: unreadable ones, then those the scope rejects. -/
def rejectedRows (call : IngestCall py hexdigest) (watermarks : Watermarks)
    (batch : SignalBatch py hexdigest) : List QuarantinedSignal :=
  batch.quarantined ++
    (classifyLateEvents watermarks batch.prepared).filterMap (quarantineRecord call)

/-! ## Late events -/

/-- The queue, and the counts `_handle_late_events` returns. -/
structure LateHandling where
  queue : RecomputationQueue
  lateEvents : Nat
  recomputationsQueued : Nat
  lateEventsWithoutForecast : Nat

/-- Source `LateArrivalRecord.__post_init__`, for the reasons the service gives. -/
def LateArrivalRecord.make (event : SignalEvent py hexdigest) (watermark : Date) (sourceId : Uuid)
    (recomputationQueued : Bool) (reason : Text) (recordedAt : UtcInstant) :
    Except DomainError LateArrivalRecord :=
  if late : event.eventDate < watermark then
    match explained : requireReason reason with
    | .error error => .error error
    | .ok () => .ok ⟨event.borrowerId, event.eventDate, watermark, event.contentHash, sourceId,
        recomputationQueued, reason, some recordedAt, late, explained⟩
  else .error (raised "A late arrival must be dated before its watermark.")

/-- A late event of a borrower with a forecast. -/
def recordQueued (now : UtcInstant) (event : SignalEvent py hexdigest) (sourceId : Uuid)
    (watermark : Date) (handled : LateHandling) : Except DomainError LateHandling := do
  let request ← RecomputationRequest.make event.borrowerId event.eventDate watermark
    "late_signal".toList (some now) (some sourceId)
  let record ← LateArrivalRecord.make event watermark sourceId true
    "recomputation queued".toList now
  .ok ⟨(handled.queue.enqueue request).recordLateArrival record, handled.lateEvents + 1,
    handled.recomputationsQueued + 1, handled.lateEventsWithoutForecast⟩

/-- A late event of a borrower without a forecast. -/
def recordUnqueued (now : UtcInstant) (event : SignalEvent py hexdigest) (sourceId : Uuid)
    (watermark : Date) (handled : LateHandling) : Except DomainError LateHandling := do
  let record ← LateArrivalRecord.make event watermark sourceId false
    "no forecast exists for borrower; recomputation not queued".toList now
  .ok ⟨(handled.queue.recordLateArrival record).recordNoForecast record, handled.lateEvents + 1,
    handled.recomputationsQueued, handled.lateEventsWithoutForecast + 1⟩

/-- The loop body of `_handle_late_events`. -/
def handleLateEvent (forecastExists : Uuid → Bool) (before : Watermarks) (now : UtcInstant)
    (handled : LateHandling) (signal : PreparedSignal py hexdigest) :
    Except DomainError LateHandling :=
  match signal.event.sourceId with
  | none => .ok handled
  | some sourceId =>
    if signal.event.isLate = false then .ok handled
    else match before sourceId with
      | none => .error (raised
          "A late signal was classified without a source watermark; ingestion refused.")
      | some watermark =>
        if forecastExists signal.event.borrowerId then
          recordQueued now signal.event sourceId watermark handled
        else recordUnqueued now signal.event sourceId watermark handled

/-- Source `_handle_late_events`. -/
def handleLateEvents (forecastExists : Uuid → Bool) (before : Watermarks) (now : UtcInstant)
    (queue : RecomputationQueue) (signals : List (PreparedSignal py hexdigest)) :
    Except DomainError LateHandling :=
  signals.foldlM (handleLateEvent forecastExists before now) ⟨queue, 0, 0, 0⟩

/-- The loop body of `_watermark_advancements`. -/
def advanceBy (advancements : Watermarks) (signal : PreparedSignal py hexdigest) : Watermarks :=
  signal.event.sourceId.elim advancements fun sourceId =>
    advancements.advance sourceId signal.event.eventDate

/-- Source `_watermark_advancements`. -/
def watermarkAdvancements (signals : List (PreparedSignal py hexdigest)) : Watermarks :=
  signals.foldl advanceBy fun _ => none

/-- The store once every source has been advanced. -/
def advanceAll (watermarks : Watermarks) (signals : List (PreparedSignal py hexdigest)) :
    Watermarks := fun sourceId =>
  (watermarkAdvancements signals sourceId).elim (watermarks sourceId)
    (raiseTo (watermarks sourceId))

/-! ## The report -/

/-- The family a raw row names. -/
def rawFamily (raw : RawRow) : Option Text :=
  match dictGet raw "family".toList with
  | some (.str name) => some name
  | _ => none

/-- Source `_build_report`: `family_volumes`. -/
def familyVolumes (signals : List (PreparedSignal py hexdigest))
    (rejected : List QuarantinedSignal) : List (SignalFamily × Nat) :=
  SignalFamily.families.map fun family =>
    (family, signals.countP (fun signal => signal.event.family = family) +
      rejected.countP fun record => record.raw.bind rawFamily = some family.value)

/-- `Counter(_rejection_key(record.reason) for record in quarantine_records).items()`. -/
def rejectionCounts (rejected : List QuarantinedSignal) : List (Text × Nat) :=
  let keys := rejected.map fun record => rejectionKey record.reason
  keys.dedup.map fun key => (key, keys.count key)

/-- The order of the top reasons: more frequent ones first, then by their text. -/
def moreFrequent (a b : Text × Nat) : Prop := b.2 < a.2 ∨ a.2 = b.2 ∧ a.1 ≤ b.1

instance : DecidableRel moreFrequent := fun _ _ => inferInstanceAs (Decidable (_ ∨ _))

/-- The share of a reason among the rows received. -/
def reasonShare (count received : Nat) : Except DomainError Decimal :=
  if received = 0 then .ok (Decimal.ofInt 0)
  else (Decimal.div .default ⟨false, count, 0⟩ ⟨false, received, 0⟩).mapError fun _ =>
    raised "decimal.DecimalException"

/-- One entry of the top rejection reasons. -/
def reasonSummary (dominantReasonShare : Decimal) (received : Nat) (entry : Text × Nat) :
    Except DomainError RejectionReasonSummary := do
  let share ← reasonShare entry.2 received
  RejectionReasonSummary.make entry.1 entry.2 share
    (received ≠ 0 && dominantReasonShare.value < share.value)

/-- Source `_build_report`: `top_rejection_reasons`. -/
def topRejectionReasons (dominantReasonShare : Decimal) (received : Nat)
    (rejected : List QuarantinedSignal) : Except DomainError (List RejectionReasonSummary) :=
  (((rejectionCounts rejected).insertionSort moreFrequent).take topRejectionReasonLimit).mapM
    (reasonSummary dominantReasonShare received)

/-- `(generated_at.date() - as_of).days`. -/
def lagDays (generatedAt : UtcInstant) (stated : Date) : Int :=
  generatedAt.date.toOrdinal - stated.toOrdinal

/-- Source `_build_report`: the lag of one source. -/
def sourceLag (call : IngestCall py hexdigest) (sourceId : Uuid) : SignalSourceLag :=
  ⟨sourceId, call.asOf sourceId, (call.asOf sourceId).map (lagDays call.now)⟩

/-- The sources a report names, in the order of their identifiers. -/
def reportedSourceIds (call : IngestCall py hexdigest)
    (signals : List (PreparedSignal py hexdigest)) (rejected : List QuarantinedSignal) :
    List Uuid :=
  (call.sourceId.toList ++ rejected.filterMap (·.sourceId) ++
    signals.filterMap (·.event.sourceId)).dedup.insertionSort fun a b => a.str ≤ b.str

/-- Source `_build_report`. -/
def buildReport (call : IngestCall py hexdigest) (batch : SignalBatch py hexdigest)
    (inserted duplicates : Nat) (signals : List (PreparedSignal py hexdigest))
    (rejected : List QuarantinedSignal) : Except DomainError SignalIngestionReport := do
  let reasons ← topRejectionReasons call.dominantReasonShare batch.receivedCount rejected
  let sourceIds := reportedSourceIds call signals rejected
  SignalIngestionReport.make {
    batchId := batch.batchId
    sourceType := call.sourceType
    sourceReference := call.sourceReference
    generatedAt := call.now
    received := batch.receivedCount
    inserted := inserted
    duplicates := duplicates
    rejected := rejected.length
    quarantined := rejected
    sourceIds := sourceIds
    familyVolumes := familyVolumes signals rejected
    sourceLag := sourceIds.map (sourceLag call)
    topRejectionReasons := reasons
    dominantReasonShare := call.dominantReasonShare }

/-! ## The call -/

/-- A run as it is opened: a stored report to replay, or a batch to store. -/
inductive Opening (py : Builtins) (hexdigest : ByteArray → Text) where
  | stored (report : JsonObject)
  | begun (batch : SignalBatch py hexdigest) (database : Database py hexdigest)

/-- The call up to `begin_run`. -/
def openRun (call : IngestCall py hexdigest) (fault : Option FailurePoint)
    (database : Database py hexdigest) : Except DomainError (Opening py hexdigest) := do
  call.check
  attempt fault .source
  let batch ← prepare call.events call.resolvedBatchId call.sourceId call.now
  attempt fault .beginRun
  let (persisted, begun) ← database.beginRun batch.batchId call.sourceType call.sourceReference
    call.now
  if persisted.report ≠ [] then .ok (.stored persisted.report) else .ok (.begun batch begun)

/-- The calls for one quarantined row after the sink has it. -/
def storeQuarantined (fault : Option FailurePoint) (index : Nat) : Except DomainError Unit := do
  attempt fault (.addQuarantine index)
  attempt fault (.auditQuarantined index)

/-- The quarantine loop: what it returns, and what the sink holds then. -/
def quarantineFrom (fault : Option FailurePoint) :
    Nat → List QuarantinedSignal → List QuarantinedSignal → Database py hexdigest →
      Except DomainError (Database py hexdigest) × List QuarantinedSignal
  | _, [], sink, database => (.ok database, sink)
  | index, record :: records, sink, database =>
    match attempt fault (.quarantine index) with
    | .error error => (.error error, sink)
    | .ok () =>
      match storeQuarantined fault index with
      | .error error => (.error error, sink ++ [record])
      | .ok () => quarantineFrom fault (index + 1) records (sink ++ [record])
          (database.addQuarantine record)

/-- The end of the call: the stored report and the audit event. -/
def finishRun (call : IngestCall py hexdigest) (fault : Option FailurePoint)
    (report : SignalIngestionReport) (handled : LateHandling) (database : Database py hexdigest) :
    Except DomainError (Database py hexdigest) := do
  attempt fault .completeRun
  let completed ← database.completeRun report.batchId report.asDict call.now
  attempt fault .auditCompleted
  .ok { completed with audit := completed.audit ++ [.completed report.batchId report.received
    report.inserted report.duplicates report.rejected report.sourceIds call.idempotencyKey
    handled.lateEvents handled.recomputationsQueued handled.lateEventsWithoutForecast
    report.dominantReasonFlagged] }

/-- The first `try` block: the late events, then the watermarks. -/
def handleLate (call : IngestCall py hexdigest) (fault : Option FailurePoint)
    (world : World py hexdigest) (signals : List (PreparedSignal py hexdigest)) :
    Except DomainError LateHandling := do
  attempt fault .lateHandling
  handleLateEvents call.forecastExists world.watermarks call.now world.queue signals

/-- The report, unless its construction raises. -/
def reportRun (call : IngestCall py hexdigest) (fault : Option FailurePoint)
    (batch : SignalBatch py hexdigest) (inserted duplicates : Nat)
    (signals : List (PreparedSignal py hexdigest)) (rejected : List QuarantinedSignal) :
    Except DomainError SignalIngestionReport := do
  attempt fault .buildReport
  buildReport call batch inserted duplicates signals rejected

/-- The call after `begin_run`, statement by statement: what it returns, and what it leaves. -/
def storeBatch (call : IngestCall py hexdigest) (fault : Option FailurePoint)
    (world : World py hexdigest) (batch : SignalBatch py hexdigest)
    (database : Database py hexdigest) :
    Except DomainError SignalIngestionReport × World py hexdigest :=
  let signals := acceptedSignals call world.watermarks batch
  let rejected := rejectedRows call world.watermarks batch
  match (do attempt fault .lookup; attempt fault .insert) with
  | .error error => (.error error, world)
  | .ok () =>
    let (tables, inserted, duplicates) := database.insertValid signals call.now
    match quarantineFrom fault 0 rejected world.sink tables with
    | (.error error, sink) => (.error error, { world with sink })
    | (.ok quarantined, sink) =>
      match handleLate call fault world signals with
      -- both stores are restored from their snapshots
      | .error error => (.error error, { world with sink })
      | .ok handled =>
        let watermarks := advanceAll world.watermarks signals
        match reportRun call fault batch inserted duplicates signals rejected with
        -- outside both `try` blocks: nothing but the database is restored
        | .error error => (.error error, { world with watermarks, queue := handled.queue, sink })
        | .ok report =>
          match finishRun call fault report handled quarantined with
          | .error error => (.error error, { world with sink })
          | .ok completed =>
            (.ok report, { database := completed, watermarks, queue := handled.queue, sink })

/-- Source `SignalIngestionService.ingest`: what it returns or raises, and what it leaves. -/
def ingest (call : IngestCall py hexdigest) (fault : Option FailurePoint)
    (world : World py hexdigest) :
    Except DomainError SignalIngestionReport × World py hexdigest :=
  match openRun call fault world.database with
  | .error error => (.error error, world)
  | .ok (.stored report) => (SignalIngestionReport.fromDict report, world)
  | .ok (.begun batch database) => storeBatch call fault world batch database

end

end CovenantRadar.Ingestion
