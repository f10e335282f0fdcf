import CovenantRadar.Ingestion.Histories
import CovenantRadar.Python.Calendar

/-!
# Ingesting again

What later calls find of an earlier one: its signals, its mapping and its report stay stored. The
same events are all duplicates then; but they are compared with watermarks their first run may
have moved, and their report is only read back where no lag is below zero.
-/

namespace CovenantRadar.Ingestion

open Relation (ReflTransGen)
open Taxonomy (Builtins SignalEvent)

variable {py : Builtins} {hexdigest : ByteArray → Text}

/-! ## What stays stored -/

/-- The stored mapping of a source type is the canonical one. -/
def Settled (database : Database py hexdigest) (sourceType : Text) : Prop :=
  ∃ mapping, database.findMapping sourceType = some mapping ∧ mapping.sourceType = sourceType ∧
    Json.pyEq (.obj mapping.spec) (.obj signalMappingSpec) = true

theorem Settled.ensureMapping {database : Database py hexdigest} {sourceType : Text}
    (settled : Settled database sourceType) : database.ensureMapping sourceType = .ok database := by
  obtain ⟨mapping, found, typed, specified⟩ := settled
  unfold Database.ensureMapping
  rw [found]
  simp only
  rw [if_neg (by simp [typed, specified])]

theorem Settled.of_mappings {database other : Database py hexdigest} {sourceType : Text}
    (settled : Settled database sourceType) (same : other.mappings = database.mappings) :
    Settled other sourceType := by
  unfold Settled Database.findMapping at *
  rw [same]
  exact settled

theorem canonicalSpec_equal :
    Json.pyEq (.obj signalMappingSpec) (.obj signalMappingSpec) = true := by decide

theorem settled_of_ensureMapping {before mapped : Database py hexdigest} {sourceType : Text}
    (ensured : before.ensureMapping sourceType = .ok mapped) : Settled mapped sourceType := by
  unfold Database.ensureMapping at ensured
  cases found : before.findMapping sourceType with
  | some mapping =>
    rw [found] at ensured
    simp only at ensured
    split_ifs at ensured with changed
    cases ensured
    rw [not_or] at changed
    exact ⟨mapping, found, not_not.mp changed.1, by simpa using changed.2⟩
  | none =>
    rw [found] at ensured
    cases ensured
    refine ⟨canonicalMapping sourceType, ?_, rfl, canonicalSpec_equal⟩
    unfold Database.findMapping at found ⊢
    rw [List.find?_append, found, Option.none_or, List.find?_singleton]
    simp [canonicalMapping]

theorem Settled.of_ensureMapping {before mapped : Database py hexdigest} {sourceType other : Text}
    (settled : Settled before sourceType) (ensured : before.ensureMapping other = .ok mapped) :
    Settled mapped sourceType := by
  unfold Database.ensureMapping at ensured
  split at ensured
  · split_ifs at ensured
    cases ensured
    exact settled
  · cases ensured
    obtain ⟨mapping, found, known⟩ := settled
    refine ⟨mapping, ?_, known⟩
    unfold Database.findMapping at found ⊢
    rw [List.find?_append, found, Option.some_or]

/-- What a step keeps of the database. -/
structure Keeps (before after : Database py hexdigest) : Prop where
  settled : ∀ sourceType, Settled before sourceType → Settled after sourceType
  signals : ∀ hash, (∃ row, before.signals.find hash = some row) →
    ∃ row, after.signals.find hash = some row
  batches : ∀ id batch, before.batches.find id = some batch → after.batches.find id = some batch

theorem Keeps.refl (database : Database py hexdigest) : Keeps database database :=
  ⟨fun _ settled => settled, fun _ stored => stored, fun _ _ found => found⟩

theorem Keeps.trans {first second third : Database py hexdigest} (one : Keeps first second)
    (two : Keeps second third) : Keeps first third :=
  ⟨fun sourceType settled => two.settled sourceType (one.settled sourceType settled),
    fun hash stored => two.signals hash (one.signals hash stored),
    fun id batch found => two.batches id batch (one.batches id batch found)⟩

theorem find_closedEnvelope {call : IngestCall py hexdigest} {before database : Database py hexdigest}
    {batch : SignalBatch py hexdigest} (begun : Begun call before batch database)
    (report : SignalIngestionReport) (id : Uuid) :
    (database.batches.put (Database.closedEnvelope call report)).find id =
      if id = call.resolvedBatchId then some (Database.closedEnvelope call report)
      else database.batches.find id := by
  have opened : database.batches.find (Database.closedEnvelope call report).id = _ := begun.opened
  exact KeyedTable.find_put opened id

/-- The envelope of a run that has stored its batch. -/
theorem Stored.closed {call : IngestCall py hexdigest} {world after : World py hexdigest}
    {batch : SignalBatch py hexdigest} {database : Database py hexdigest}
    {report : SignalIngestionReport} (begun : Begun call world.database batch database)
    (stored : Stored call world batch database report after) :
    after.database.batches.find call.resolvedBatchId =
      some (Database.closedEnvelope call report) := by
  rw [stored.batches, find_closedEnvelope begun, if_pos rfl]

theorem Stored.keeps {call : IngestCall py hexdigest} {world after : World py hexdigest}
    {batch : SignalBatch py hexdigest} {database : Database py hexdigest}
    {report : SignalIngestionReport} (begun : Begun call world.database batch database)
    (stored : Stored call world batch database report after) :
    Keeps world.database after.database where
  settled sourceType settled := by
    obtain ⟨mapped, ensured, rfl⟩ := begun.mapped
    exact (settled.of_ensureMapping ensured).of_mappings stored.mappings
  signals hash held := by
    obtain ⟨row, found⟩ := held
    rw [← begun.signals] at found
    rw [stored.signals, Database.insertValid_eq]
    exact ⟨row, Database.find_insertSignals_of_some found _⟩
  batches id other found := by
    have apart : id ≠ call.resolvedBatchId := by
      rintro rfl
      rw [begun.fresh] at found
      cases found
    rw [stored.batches, find_closedEnvelope begun, if_neg apart]
    obtain ⟨mapped, ensured, rfl⟩ := begun.mapped
    have added := mapped.batches.find_insertNew (Database.envelope call.resolvedBatchId
      call.sourceType call.sourceReference call.now) id
    have key' : (Database.envelope call.resolvedBatchId call.sourceType call.sourceReference
      call.now).id = call.resolvedBatchId := rfl
    rw [key', if_neg apart] at added
    refine added.trans ?_
    rw [(Database.ensureMapping_keeps ensured).2]
    exact found

theorem keeps_of_step {history later : History py hexdigest} (step : Step history later) :
    Keeps history.world.database later.world.database := by
  cases step with
  | ingest call fault returned =>
    rcases ingest_eq_ok returned with ⟨rfl, none⟩ | ⟨batch, database, begun, stored, events⟩
    · exact .refl _
    · exact stored.keeps begun
  | drain => exact .refl _

theorem keeps_of_run {history later : History py hexdigest}
    (run : ReflTransGen Step history later) :
    Keeps history.world.database later.world.database := by
  induction run with
  | refl => exact .refl _
  | tail _ step ih => exact ih.trans (keeps_of_step step)

/-! ## The same events again -/

/-- The readable signals of a batch that the scope accepts, before they are flagged. -/
def readableSignals (call : IngestCall py hexdigest) (batch : SignalBatch py hexdigest) :
    List (PreparedSignal py hexdigest) :=
  batch.prepared.filter fun signal => (scopeRejection call.view signal.event).isNone

theorem acceptedSignals_eq (call : IngestCall py hexdigest) (watermarks : Watermarks)
    (batch : SignalBatch py hexdigest) :
    acceptedSignals call watermarks batch =
      (readableSignals call batch).map (withLateFlag watermarks) := by
  unfold acceptedSignals classifyLateEvents readableSignals
  rw [List.filter_map]
  rfl

/-- The same call later, without a batch identifier. -/
def again (call : IngestCall py hexdigest) (newId : Uuid) (now : UtcInstant)
    (forecastExists : Uuid → Bool) : IngestCall py hexdigest :=
  { call with batchId := none, newId, now, forecastExists }

/-- The run of the same call begins again. -/
theorem Begun.again {call : IngestCall py hexdigest} {before later database : Database py hexdigest}
    {batch : SignalBatch py hexdigest} (begun : Begun call before batch database)
    (settled : Settled later call.sourceType) {newId : Uuid}
    (fresh : later.batches.find newId = none) (now : UtcInstant) (forecastExists : Uuid → Bool) :
    Begun (again call newId now forecastExists) later (batch.relabel newId now)
      { later with batches := later.batches.insertNew (Database.envelope newId call.sourceType
          call.sourceReference now) } where
  checked := begun.checked
  prepared := by
    have same := prepare_relabel call.events call.resolvedBatchId newId call.sourceId call.now now
    rw [begun.prepared] at same
    exact same
  fresh := fresh
  mapped := ⟨later, settled.ensureMapping, rfl⟩

/-- Nothing is inserted, every accepted event is a duplicate, and neither the watermarks nor the
    queue change. -/
structure Idempotent (accepted : List (AcceptedEvent py hexdigest))
    (before : World py hexdigest) (report : SignalIngestionReport) (after : World py hexdigest) :
    Prop where
  signals : after.database.signals = before.database.signals
  inserted : report.inserted = 0
  duplicates : report.duplicates = accepted.length
  watermarks : after.watermarks = before.watermarks
  queue : after.queue = before.queue

/-- The events of a batch that was stored, ingested again without a batch identifier after any
    further calls and drains: the call returns, and it leaves the signals, the watermarks and the
    queue as they are exactly where each accepted event that names a source is dated at the
    watermark its source has by then. -/
theorem ingest_again_idempotent_iff {call : IngestCall py hexdigest} {fault : Option FailurePoint}
    {world after : World py hexdigest} {report : SignalIngestionReport}
    (returned : ingest call fault world = (.ok report, after)) {batch : SignalBatch py hexdigest}
    {database : Database py hexdigest}
    (opened : openRun call none world.database = .ok (.begun batch database))
    {history later : History py hexdigest} (follows : history.world = after)
    (run : ReflTransGen Step history later) {newId : Uuid}
    (fresh : later.world.database.batches.find newId = none) (now : UtcInstant)
    (forecastExists : Uuid → Bool) :
    ∃ report' after', ingest (again call newId now forecastExists) none later.world =
        (.ok report', after') ∧
      (Idempotent (acceptedEvents call world) later.world report' after' ↔
        ∀ entry ∈ acceptedEvents call world, ∀ sourceId, entry.event.sourceId = some sourceId →
          later.world.watermarks sourceId = some entry.event.eventDate) := by
  obtain ⟨begun, _, _⟩ := openRun_eq_begun_iff.mp opened
  have stored := ingest_stored returned opened
  have kept := keeps_of_run run
  rw [follows] at kept
  have settled : Settled later.world.database call.sourceType := by
    obtain ⟨mapped, ensured, same⟩ := begun.mapped
    apply kept.settled
    apply (settled_of_ensureMapping ensured).of_mappings
    rw [stored.mappings, same]
  have begun' := begun.again settled fresh now forecastExists
  have events : acceptedEvents call world =
      ((readableSignals call batch).map (withLateFlag world.watermarks)).map
        (accept call world.watermarks) := by
    unfold acceptedEvents
    rw [opened, ← acceptedSignals_eq]
  -- the signals accepted now are those accepted then, flagged anew
  have signals : acceptedSignals (again call newId now forecastExists) later.world.watermarks
      (batch.relabel newId now) =
        (readableSignals call batch).map (withLateFlag later.world.watermarks) :=
    acceptedSignals_eq (again call newId now forecastExists) _ _
  have known : ∀ signal ∈ acceptedSignals (again call newId now forecastExists)
      later.world.watermarks (batch.relabel newId now),
        ∃ row, later.world.database.signals.find signal.event.contentHash = some row := by
    intro signal accepted
    rw [signals] at accepted
    obtain ⟨read, member, rfl⟩ := List.mem_map.mp accepted
    apply kept.signals
    rw [stored.signals]
    have first : withLateFlag world.watermarks read ∈
        acceptedSignals call world.watermarks batch := by
      rw [acceptedSignals_eq]
      exact List.mem_map_of_mem member
    have found := Database.find_insertValid database call.now first
    exact found
  rcases storeBatch_outcome none begun' with
    ⟨report', after', returned', stored'⟩ | ⟨error, point, after', _, impossible, _⟩
  · refine ⟨report', after', ?_, ?_⟩
    · unfold ingest
      rw [openRun_eq_begun_iff.mpr ⟨begun', by simp, by simp⟩]
      exact returned'
    · have inserted := @Database.insertValid_of_stored py hexdigest { later.world.database with
        batches := later.world.database.batches.insertNew (Database.envelope newId
          call.sourceType call.sourceReference now) } _ now known
      have reported := buildReport_eq_ok stored'.reported
      have nowCall : (again call newId now forecastExists).now = now := rfl
      have tables := stored'.signals
      rw [nowCall, inserted] at reported tables
      have untouched := stores_untouched_iff stored'.queue
      rw [← stored'.watermarks, signals] at untouched
      have dated : (∀ entry ∈ acceptedEvents call world, ∀ sourceId,
          entry.event.sourceId = some sourceId →
            later.world.watermarks sourceId = some entry.event.eventDate) ↔
          ∀ signal ∈ (readableSignals call batch).map (withLateFlag later.world.watermarks),
            ∀ sourceId, signal.event.sourceId = some sourceId →
              later.world.watermarks sourceId = some signal.event.eventDate := by
        rw [events, List.map_map, List.forall_mem_map, List.forall_mem_map]
        rfl
      rw [dated, ← untouched]
      constructor
      · intro idempotent
        exact ⟨idempotent.watermarks, idempotent.queue⟩
      · rintro ⟨watermarks, queue⟩
        refine ⟨tables, reported.2.2.2.2.1, ?_, watermarks, queue⟩
        rw [reported.2.2.2.2.2.1, signals, events]
        simp only [List.length_map]
  · cases impossible

/-! ## Late twice -/

section

open Taxonomy (typedBuiltins quarterDigest)

theorem laterDay_valid :
    1 ≤ 2026 ∧ 2026 ≤ 9999 ∧ 1 ≤ 2 ∧ 2 ≤ 12 ∧ 1 ≤ 5 ∧ 5 ≤ daysInMonth 2026 2 := by decide

/-- A month after the events. -/
def laterDay : Date := ⟨2026, 2, 5, laterDay_valid⟩

/-- A world in which every source has been processed up to a month after the events. -/
def watchedWorld : World typedBuiltins quarterDigest :=
  { blankWorld with watermarks := fun _ => some laterDay }

/-- The world after the event has been ingested on its own. -/
def afterSourced : World typedBuiltins quarterDigest := (ingest sourcedCall none watchedWorld).2

/-- The call of the second ingestion. -/
def sourcedAgain : IngestCall typedBuiltins quarterDigest :=
  again sourcedCall (Uuid.ofInt 8) dawn fun _ => true

theorem sourced_returns : (ingest sourcedCall none watchedWorld).1.isOk = true ∧
    (ingest sourcedAgain none afterSourced).1.isOk = true ∧
    (acceptedEvents sourcedCall watchedWorld).length = 1 ∧
    afterSourced.database.batches.find (Uuid.ofInt 8) = none ∧
    afterSourced.queue.lateArrivals.length = 1 ∧
    (ingest sourcedAgain none afterSourced).2.queue.lateArrivals.length = 2 := by decide +kernel

theorem sourced_opened : ∃ report batch database,
    ingest sourcedCall none watchedWorld = (.ok report, afterSourced) ∧
      openRun sourcedCall none watchedWorld.database = .ok (.begun batch database) := by
  obtain ⟨report, returned⟩ := eq_ok_of_isOk sourced_returns.1
  rcases ingest_eq_ok returned with ⟨_, none⟩ | ⟨batch, database, begun, _⟩
  · have counted := sourced_returns.2.2.1
    rw [none] at counted
    cases counted
  · exact ⟨report, batch, database, returned,
      openRun_eq_begun_iff.mpr ⟨begun, by simp, by simp⟩⟩

theorem ingest_again_idempotent_iff_sourced :
    ∃ report' after', ingest sourcedAgain none afterSourced = (.ok report', after') ∧
      (Idempotent (acceptedEvents sourcedCall watchedWorld) afterSourced report' after' ↔
        ∀ entry ∈ acceptedEvents sourcedCall watchedWorld, ∀ sourceId,
          entry.event.sourceId = some sourceId →
            afterSourced.watermarks sourceId = some entry.event.eventDate) := by
  obtain ⟨report, batch, database, returned, opened⟩ := sourced_opened
  exact ingest_again_idempotent_iff returned opened
    (rfl : (⟨afterSourced, [], [], []⟩ : History _ _).world = afterSourced) .refl
    sourced_returns.2.2.2.1 dawn _

/-- A late event that is ingested twice is recorded as late twice. -/
theorem ingest_again_records_late_again :
    ¬ ∀ (call : IngestCall typedBuiltins quarterDigest)
      (world after : World typedBuiltins quarterDigest) (report : SignalIngestionReport),
        ingest call none world = (.ok report, after) →
          (∃ batch database, openRun call none world.database = .ok (.begun batch database)) →
            ∀ newId, after.database.batches.find newId = none → ∀ now forecastExists report' after',
              ingest (again call newId now forecastExists) none after = (.ok report', after') →
                Idempotent (acceptedEvents call world) after report' after' := by
  intro idempotent
  obtain ⟨report, batch, database, returned, opened⟩ := sourced_opened
  obtain ⟨report', returned'⟩ := eq_ok_of_isOk sourced_returns.2.1
  have same := idempotent sourcedCall watchedWorld afterSourced report returned
    ⟨batch, database, opened⟩ _ sourced_returns.2.2.2.1 dawn (fun _ => true) report' _ returned'
  have lengths : (ingest sourcedAgain none afterSourced).2.queue.lateArrivals.length =
      afterSourced.queue.lateArrivals.length :=
    congrArg (fun queue => queue.lateArrivals.length) same.queue
  have once := sourced_returns.2.2.2.2.1
  have twice := sourced_returns.2.2.2.2.2
  omega

end

/-! ## Stored reports -/

/-- The sources the report of a batch names. -/
def batchSources (call : IngestCall py hexdigest) (world : World py hexdigest)
    (batch : SignalBatch py hexdigest) : List Uuid :=
  reportedSourceIds call (acceptedSignals call world.watermarks batch)
    (rejectedRows call world.watermarks batch)

/-- No source of the batch is stated as of a day after the day of its ingestion. -/
def StatedInTime (call : IngestCall py hexdigest) (world : World py hexdigest)
    (batch : SignalBatch py hexdigest) : Prop :=
  ∀ sourceId ∈ batchSources call world batch, ∀ stated, call.asOf sourceId = some stated →
    stated ≤ call.now.date

theorem readable_sourceLag_iff {call : IngestCall py hexdigest} {sourceId : Uuid} :
    (sourceLag call sourceId).Readable ↔
      ∀ stated, call.asOf sourceId = some stated → stated ≤ call.now.date := by
  unfold SignalSourceLag.Readable sourceLag
  cases call.asOf sourceId with
  | none => simp
  | some stated =>
    simp only [Option.map_some, Option.some.injEq, forall_eq', lagDays]
    rw [← Date.toOrdinal_strictMono.le_iff_le]
    omega

/-- The report a batch was stored with is read back exactly where no source is stated late. -/
theorem fromDict_stored_iff {call : IngestCall py hexdigest} {world after : World py hexdigest}
    {batch : SignalBatch py hexdigest} {database : Database py hexdigest}
    {report back : SignalIngestionReport} (begun : Begun call world.database batch database)
    (stored : Stored call world batch database report after) :
    SignalIngestionReport.fromDict report.asDict = .ok back ↔
      back = report.stored ∧ StatedInTime call world batch := by
  obtain ⟨_, sourceType, sourceReference, _, _, _, _, lags⟩ := buildReport_eq_ok stored.reported
  have visible : report.Visible := by
    refine ⟨?_, ?_⟩
    · rw [sourceType]
      exact begun.visible.1
    · rw [sourceReference]
      exact begun.visible.2
  rw [SignalIngestionReport.fromDict_asDict_iff visible, lags, List.forall_mem_map]
  unfold StatedInTime batchSources
  simp only [readable_sourceLag_iff]

/-- A call with the identifier of a stored run reads its report back, and leaves everything as it
    is. -/
theorem ingest_of_closed {call : IngestCall py hexdigest} {world : World py hexdigest}
    {envelope : ImportBatch} (closed : world.database.batches.find call.resolvedBatchId = some envelope)
    (signal : envelope.isSignalBatch = true) (reported : envelope.report ≠ [])
    (checked : call.check = .ok ()) {batch : SignalBatch py hexdigest}
    (prepared : prepare call.events call.resolvedBatchId call.sourceId call.now = .ok batch) :
    ingest call none world = (SignalIngestionReport.fromDict envelope.report, world) := by
  have opened : openRun call none world.database = .ok (.stored envelope.report) := by
    unfold openRun
    rw [checked, attempt_eq_ok_iff.mpr (by simp), prepared, attempt_eq_ok_iff.mpr (by simp)]
    simp only [bind, Except.bind, prepare_batchId prepared, Database.beginRun, closed, signal,
      Bool.true_eq_false, if_false]
    rw [if_neg reported]
    simp only
    rw [if_pos reported]
  unfold ingest
  rw [opened]

/-- The report of a stored batch: reading back what it writes succeeds and writes the same again,
    and a later call with its identifier returns it, both exactly where no source of the batch is
    stated as of a day after the day of its ingestion. -/
theorem stored_report_replays_iff {call : IngestCall py hexdigest} {fault : Option FailurePoint}
    {world after : World py hexdigest} {report : SignalIngestionReport}
    (returned : ingest call fault world = (.ok report, after)) {batch : SignalBatch py hexdigest}
    {database : Database py hexdigest}
    (opened : openRun call none world.database = .ok (.begun batch database)) :
    ((∃ back, SignalIngestionReport.fromDict report.asDict = .ok back ∧
        back.asDict = report.asDict) ↔ StatedInTime call world batch) ∧
      ∀ (history later : History py hexdigest), history.world = after →
        ReflTransGen Step history later → ∀ (replay : IngestCall py hexdigest) (read :
          SignalBatch py hexdigest), replay.batchId = some report.batchId →
            replay.check = .ok () →
              prepare replay.events report.batchId replay.sourceId replay.now = .ok read →
                ((∃ back, ingest replay none later.world = (.ok back, later.world) ∧
                  back.asDict = report.asDict) ↔ StatedInTime call world batch) := by
  obtain ⟨begun, _, _⟩ := openRun_eq_begun_iff.mp opened
  have stored := ingest_stored returned opened
  have identified : report.batchId = call.resolvedBatchId :=
    (buildReport_eq_ok stored.reported).1.trans (prepare_batchId begun.prepared)
  have reads : (∃ back, SignalIngestionReport.fromDict report.asDict = .ok back ∧
      back.asDict = report.asDict) ↔ StatedInTime call world batch := by
    constructor
    · rintro ⟨back, read, _⟩
      exact ((fromDict_stored_iff begun stored).mp read).2
    · intro inTime
      exact ⟨report.stored, (fromDict_stored_iff begun stored).mpr ⟨rfl, inTime⟩,
        report.asDict_stored⟩
  refine ⟨reads, ?_⟩
  intro history later follows run replay read named checked prepared
  have kept := keeps_of_run run
  rw [follows] at kept
  have closed := kept.batches _ _ (stored.closed begun)
  have resolved : replay.resolvedBatchId = report.batchId := by
    unfold IngestCall.resolvedBatchId
    rw [named, Option.getD_some]
  rw [← identified, ← resolved] at closed
  rw [← resolved] at prepared
  have isSignal : (Database.closedEnvelope call report).isSignalBatch = true :=
    Database.isSignalBatch_envelope call.resolvedBatchId call.sourceType call.sourceReference
      call.now
  rw [ingest_of_closed closed isSignal (by simp [Database.closedEnvelope,
    SignalIngestionReport.asDict]) checked prepared, ← reads]
  simp only [Prod.mk.injEq, and_true]
  rfl

section

open Taxonomy (typedBuiltins quarterDigest)

theorem stored_report_replays_iff_sourced : ∃ report batch database,
    ingest sourcedCall none watchedWorld = (.ok report, afterSourced) ∧
      openRun sourcedCall none watchedWorld.database = .ok (.begun batch database) ∧
      ((∃ back, SignalIngestionReport.fromDict report.asDict = .ok back ∧
        back.asDict = report.asDict) ↔ StatedInTime sourcedCall watchedWorld batch) := by
  obtain ⟨report, batch, database, returned, opened⟩ := sourced_opened
  exact ⟨report, batch, database, returned, opened, (stored_report_replays_iff returned opened).1⟩

/-- A batch without rows, whose source is stated as of a month after the day of the call. -/
def aheadCall : IngestCall typedBuiltins quarterDigest :=
  { plainCall [] with sourceId := some (Uuid.ofInt 3), sourceAsOfDate := some laterDay }

/-- The report of a source stated as of a later day is stored and cannot be read back. -/
theorem ahead_report_unreadable :
    ¬ ∀ (call : IngestCall typedBuiltins quarterDigest)
      (world after : World typedBuiltins quarterDigest) (report : SignalIngestionReport),
        ingest call none world = (.ok report, after) →
          ∃ back, SignalIngestionReport.fromDict report.asDict = .ok back ∧
            back.asDict = report.asDict := by
  intro replays
  obtain ⟨report, returned⟩ := eq_ok_of_isOk
    (by decide +kernel : (ingest aheadCall none blankWorld).1.isOk = true)
  obtain ⟨back, read, _⟩ := replays aheadCall blankWorld _ report returned
  have unreadable : ((ingest aheadCall none blankWorld).1.toOption.bind fun stored =>
      (SignalIngestionReport.fromDict stored.asDict).toOption) = none := by decide +kernel
  rw [returned] at unreadable
  simp only [Except.toOption, Option.bind_some, read] at unreadable
  cases unreadable

end

end CovenantRadar.Ingestion
