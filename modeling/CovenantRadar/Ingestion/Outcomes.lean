import CovenantRadar.Ingestion.Inserts
import CovenantRadar.Ingestion.LateArrivals
import CovenantRadar.Ingestion.StoredReports

/-!
# What a call leaves

Every way a call can end: the report can always be built and stored once a run is begun, so a
call fails only where it is refused or where a port fails, and each of these leaves a state of
its own.
-/

namespace CovenantRadar.Ingestion

open Taxonomy (Builtins SignalEvent)

variable {py : Builtins} {hexdigest : ByteArray → Text}

/-! ## The report can be built -/

theorem visible_rejectionCategory {reason category : Text}
    (found : rejectionCategory reason = some category) : Text.strip category ≠ [] := by
  unfold rejectionCategory at found
  simp only at found
  split_ifs at found <;> cases found <;> decide

theorem visible_rejectionKey (record : QuarantinedSignal) :
    Text.strip (rejectionKey record.reason) ≠ [] := by
  unfold rejectionKey
  cases found : rejectionCategory record.reason with
  | none => exact record.explained
  | some category => exact visible_rejectionCategory found

/-- A reason that is counted is one of a row, and counts at least that one. -/
theorem mem_rejectionCounts {rejected : List QuarantinedSignal} {entry : Text × Nat}
    (listed : entry ∈ rejectionCounts rejected) :
    Text.strip entry.1 ≠ [] ∧ 0 < entry.2 ∧ entry.2 ≤ rejected.length := by
  obtain ⟨key, member, rfl⟩ := List.mem_map.mp listed
  rw [List.mem_dedup] at member
  obtain ⟨record, _, rfl⟩ := List.mem_map.mp member
  refine ⟨visible_rejectionKey record, List.count_pos_iff.mpr member, ?_⟩
  have bound := List.count_le_length (a := rejectionKey record.reason)
    (l := rejected.map fun record => rejectionKey record.reason)
  rwa [List.length_map] at bound

theorem reasonSummary_returns {dominantReasonShare : Decimal} {received : Nat}
    {entry : Text × Nat} (visible : Text.strip entry.1 ≠ []) (positive : 0 < entry.2)
    (part : entry.2 ≤ received) (bounded : received ≤ maxBatchSize) :
    ∃ summary, reasonSummary dominantReasonShare received entry = .ok summary := by
  have digits : Nat.log 10 received ≤ 999997 := by
    have small : Nat.log 10 received ≤ received := Nat.log_le_self 10 received
    unfold maxBatchSize at bounded
    omega
  obtain ⟨share, divided, shared⟩ := Decimal.div_share positive part digits
  have computed : reasonShare entry.2 received = .ok share := by
    rw [reasonShare, if_neg (by omega), divided]
    rfl
  unfold reasonSummary
  rw [computed]
  exact ⟨_, RejectionReasonSummary.make_returns _ visible positive shared⟩

theorem topRejectionReasons_returns (dominantReasonShare : Decimal) {received : Nat}
    {rejected : List QuarantinedSignal} (part : rejected.length ≤ received)
    (bounded : received ≤ maxBatchSize) :
    ∃ reasons, topRejectionReasons dominantReasonShare received rejected = .ok reasons := by
  unfold topRejectionReasons
  rw [mapM_returns_iff]
  intro entry taken
  have listed := (List.mem_insertionSort moreFrequent).mp (List.mem_of_mem_take taken)
  obtain ⟨visible, positive, counted⟩ := mem_rejectionCounts listed
  exact reasonSummary_returns visible positive (le_trans counted part) bounded

/-- The rows of a batch are accepted or held out. -/
theorem accepted_add_rejected (call : IngestCall py hexdigest) (watermarks : Watermarks)
    (batch : SignalBatch py hexdigest) :
    (acceptedSignals call watermarks batch).length + (rejectedRows call watermarks batch).length =
      batch.receivedCount := by
  have split : ∀ signals : List (PreparedSignal py hexdigest),
      (signals.filter fun signal => (scopeRejection call.view signal.event).isNone).length +
        (signals.filterMap (quarantineRecord call)).length = signals.length := by
    intro signals
    induction signals with
    | nil => rfl
    | cons signal signals ih =>
      have record : (quarantineRecord call signal).isSome =
          (scopeRejection call.view signal.event).isSome := by
        unfold quarantineRecord
        split
        · rename_i clear
          simp [clear]
        · rename_i reason refused
          simp [refused]
      rw [List.filter_cons, List.filterMap_cons]
      cases held : quarantineRecord call signal with
      | none =>
        rw [held] at record
        have clear : (scopeRejection call.view signal.event).isNone = true := by
          simpa using record.symm
        rw [if_pos clear]
        simp only [List.length_cons]
        omega
      | some row =>
        rw [held] at record
        have refused : (scopeRejection call.view signal.event).isNone = false := by
          simpa using record.symm
        rw [if_neg (by simp [refused])]
        simp only [List.length_cons]
        omega
  have parts := split (classifyLateEvents watermarks batch.prepared)
  have total := batch.counted
  unfold acceptedSignals rejectedRows classifyLateEvents at *
  rw [List.length_map] at parts
  rw [List.length_append]
  omega

/-- Building the report of a run that has read its batch does not raise. -/
theorem buildReport_returns {call : IngestCall py hexdigest} {watermarks : Watermarks}
    {batch : SignalBatch py hexdigest} {inserted duplicates : Nat}
    (counted : inserted + duplicates = (acceptedSignals call watermarks batch).length)
    (typed : call.sourceType ≠ []) :
    ∃ report, buildReport call batch inserted duplicates (acceptedSignals call watermarks batch)
      (rejectedRows call watermarks batch) = .ok report := by
  have total := accepted_add_rejected call watermarks batch
  obtain ⟨reasons, computed⟩ := @topRejectionReasons_returns call.dominantReasonShare
    batch.receivedCount (rejectedRows call watermarks batch) (by omega) batch.bounded
  unfold buildReport
  rw [computed]
  refine ⟨_, SignalIngestionReport.make_returns typed ?_ (le_refl _) call.shared⟩
  simp only
  omega

/-! ## A run that is begun -/

theorem attempt_eq_ok_iff {fault : Option FailurePoint} {point : FailurePoint} :
    attempt fault point = .ok () ↔ fault ≠ some point := by
  unfold attempt
  split_ifs with same <;> simp [same]

theorem attempt_eq_error {fault : Option FailurePoint} {point : FailurePoint} {error : DomainError}
    (failed : attempt fault point = .error error) : fault = some point := by
  unfold attempt at failed
  split_ifs at failed with same
  exact same

theorem prepareRow_batchId {sourceId : Option Uuid} {occurredAt : UtcInstant}
    {batch after : SignalBatch py hexdigest} {row : SourceRow py hexdigest}
    (returned : prepareRow sourceId occurredAt batch row = .ok after) :
    after.batchId = batch.batchId := by
  unfold prepareRow at returned
  split_ifs at returned with bounded
  cases read : readRow py hexdigest sourceId row with
  | ok event =>
    rw [read] at returned
    cases returned
    rfl
  | error error =>
    rw [read] at returned
    obtain ⟨signal, _, appended⟩ := Except.bind_eq_ok_iff.mp returned
    cases appended
    rfl

theorem prepare_batchId {events : List (SourceRow py hexdigest)} {batchId : Uuid}
    {sourceId : Option Uuid} {occurredAt : UtcInstant} {batch : SignalBatch py hexdigest}
    (returned : prepare events batchId sourceId occurredAt = .ok batch) :
    batch.batchId = batchId :=
  foldlM_invariant (fun batch : SignalBatch py hexdigest => batch.batchId = batchId)
    (fun _ _ _ _ same next => (prepareRow_batchId next).trans same) rfl returned

/-- What `begin_run` has found and stored for a run that goes on. -/
structure Begun (call : IngestCall py hexdigest) (before : Database py hexdigest)
    (batch : SignalBatch py hexdigest) (database : Database py hexdigest) : Prop where
  checked : call.check = .ok ()
  prepared : prepare call.events call.resolvedBatchId call.sourceId call.now = .ok batch
  fresh : before.batches.find call.resolvedBatchId = none
  mapped : ∃ mapped, before.ensureMapping call.sourceType = .ok mapped ∧
    database = { mapped with
      batches := mapped.batches.insertNew (Database.envelope call.resolvedBatchId call.sourceType
        call.sourceReference call.now) }

theorem beginRun_of_empty {before database : Database py hexdigest} {batchId : Uuid}
    {sourceType : Text} {sourceReference : Option Text} {startedAt : UtcInstant}
    {persisted : ImportBatch}
    (stored : before.beginRun batchId sourceType sourceReference startedAt =
      .ok (persisted, database)) (empty : persisted.report = []) :
    before.batches.find batchId = none ∧
      ∃ mapped, before.ensureMapping sourceType = .ok mapped ∧ database = { mapped with
        batches := mapped.batches.insertNew
          (Database.envelope batchId sourceType sourceReference startedAt) } := by
  unfold Database.beginRun at stored
  cases found : before.batches.find batchId with
  | some existing =>
    rw [found] at stored
    simp only at stored
    split_ifs at stored with foreign progress
    cases stored
    exact absurd empty progress
  | none =>
    rw [found] at stored
    obtain ⟨mapped, ensured, appended⟩ := Except.bind_eq_ok_iff.mp stored
    cases appended
    exact ⟨rfl, mapped, ensured, rfl⟩

theorem openRun_eq_begun_iff {call : IngestCall py hexdigest} {fault : Option FailurePoint}
    {before database : Database py hexdigest} {batch : SignalBatch py hexdigest} :
    openRun call fault before = .ok (.begun batch database) ↔
      Begun call before batch database ∧ fault ≠ some .source ∧ fault ≠ some .beginRun := by
  unfold openRun
  constructor
  · intro opened
    obtain ⟨_, checked, opened⟩ := Except.bind_eq_ok_iff.mp opened
    obtain ⟨_, read, opened⟩ := Except.bind_eq_ok_iff.mp opened
    obtain ⟨prepared, returned, opened⟩ := Except.bind_eq_ok_iff.mp opened
    obtain ⟨_, began, opened⟩ := Except.bind_eq_ok_iff.mp opened
    obtain ⟨⟨persisted, begun⟩, stored, opened⟩ := Except.bind_eq_ok_iff.mp opened
    rw [prepare_batchId returned] at stored
    simp only at opened
    by_cases empty : persisted.report = []
    · rw [if_neg (by simpa using empty)] at opened
      cases opened
      obtain ⟨fresh, mapped⟩ := beginRun_of_empty stored empty
      exact ⟨⟨checked, returned, fresh, mapped⟩, attempt_eq_ok_iff.mp read,
        attempt_eq_ok_iff.mp began⟩
    · rw [if_pos empty] at opened
      cases opened
  · rintro ⟨⟨checked, prepared, fresh, mapped, ensured, stored⟩, read, began⟩
    rw [checked, attempt_eq_ok_iff.mpr read, prepared, attempt_eq_ok_iff.mpr began, stored]
    simp only [bind, Except.bind, prepare_batchId prepared, Database.beginRun, fresh, ensured]
    rfl

/-! ## The tables of a run -/

namespace Database

theorem ensureMapping_keeps {before mapped : Database py hexdigest} {sourceType : Text}
    (ensured : before.ensureMapping sourceType = .ok mapped) :
    mapped.signals = before.signals ∧ mapped.batches = before.batches := by
  unfold ensureMapping at ensured
  split at ensured
  · split_ifs at ensured
    cases ensured
    exact ⟨rfl, rfl⟩
  · cases ensured
    exact ⟨rfl, rfl⟩

/-- The tables after the quarantined rows of a batch. -/
def addAllQuarantined (database : Database py hexdigest) (records : List QuarantinedSignal) :
    Database py hexdigest := records.foldl addQuarantine database

theorem addAllQuarantined_keeps (database : Database py hexdigest)
    (records : List QuarantinedSignal) :
    (database.addAllQuarantined records).signals = database.signals ∧
      (database.addAllQuarantined records).mappings = database.mappings ∧
      (database.addAllQuarantined records).batches = database.batches := by
  unfold addAllQuarantined
  induction records generalizing database with
  | nil => exact ⟨rfl, rfl, rfl⟩
  | cons record records ih => exact ih (database.addQuarantine record)

theorem isSignalBatch_envelope (batchId : Uuid) (sourceType : Text) (sourceReference : Option Text)
    (startedAt : UtcInstant) :
    (envelope batchId sourceType sourceReference startedAt).isSignalBatch = true := by
  unfold ImportBatch.isSignalBatch envelope mappingName
  simp

/-- The envelope with the report of its run. -/
def closedEnvelope (call : IngestCall py hexdigest) (report : SignalIngestionReport) :
    ImportBatch :=
  { envelope call.resolvedBatchId call.sourceType call.sourceReference call.now with
    rowCount := report.received
    acceptedCount := report.accepted
    quarantinedCount := report.rejected
    finishedAt := some call.now
    report := report.asDict }

/-- The report of a run that is begun is stored. -/
theorem completeRun_returns {database : Database py hexdigest} {call : IngestCall py hexdigest}
    {report : SignalIngestionReport}
    (opened : database.batches.find call.resolvedBatchId = some (envelope call.resolvedBatchId
      call.sourceType call.sourceReference call.now)) :
    database.completeRun call.resolvedBatchId report.asDict call.now =
      .ok { database with batches := database.batches.put (closedEnvelope call report) } := by
  have received : fieldOr report.asDict "received" (.int 0) = .int report.received := rfl
  have accepted : fieldOr report.asDict "accepted" (.int 0) = .int report.accepted := rfl
  have rejected : fieldOr report.asDict "rejected" (.int 0) = .int report.rejected := rfl
  unfold completeRun
  rw [opened]
  simp only [isSignalBatch_envelope, Bool.true_eq_false, if_false]
  rw [if_neg (by simp [envelope]), received, accepted, rejected, reportInt_natCast,
    reportInt_natCast, reportInt_natCast]
  rfl

end Database

theorem Begun.signals {call : IngestCall py hexdigest} {before database : Database py hexdigest}
    {batch : SignalBatch py hexdigest} (begun : Begun call before batch database) :
    database.signals = before.signals := by
  obtain ⟨mapped, ensured, rfl⟩ := begun.mapped
  exact (Database.ensureMapping_keeps ensured).1

theorem Begun.opened {call : IngestCall py hexdigest} {before database : Database py hexdigest}
    {batch : SignalBatch py hexdigest} (begun : Begun call before batch database) :
    database.batches.find call.resolvedBatchId = some (Database.envelope call.resolvedBatchId
      call.sourceType call.sourceReference call.now) := by
  obtain ⟨mapped, ensured, rfl⟩ := begun.mapped
  have fresh := begun.fresh
  rw [← (Database.ensureMapping_keeps ensured).2] at fresh
  have added := mapped.batches.find_insertNew (Database.envelope call.resolvedBatchId
    call.sourceType call.sourceReference call.now) call.resolvedBatchId
  have key : call.resolvedBatchId = (Database.envelope call.resolvedBatchId call.sourceType
    call.sourceReference call.now).id := rfl
  rw [if_pos key, fresh] at added
  exact added

/-- The source type and the reference of a call that passes its checks. -/
theorem Begun.visible {call : IngestCall py hexdigest} {before database : Database py hexdigest}
    {batch : SignalBatch py hexdigest} (begun : Begun call before batch database) :
    Text.strip call.sourceType ≠ [] ∧
      ∀ text, call.sourceReference = some text → Text.strip text ≠ [] := by
  have checked := begun.checked
  unfold IngestCall.check at checked
  obtain ⟨_, _, checked⟩ := Except.bind_eq_ok_iff.mp checked
  obtain ⟨_, _, checked⟩ := Except.bind_eq_ok_iff.mp checked
  obtain ⟨_, _, checked⟩ := Except.bind_eq_ok_iff.mp checked
  obtain ⟨_, typed, checked⟩ := Except.bind_eq_ok_iff.mp checked
  obtain ⟨_, referenced, _⟩ := Except.bind_eq_ok_iff.mp checked
  constructor
  · unfold IngestCall.checkSourceType at typed
    split_ifs at typed with known
    have listed : call.sourceType ∈ IngestCall.sourceTypes := List.contains_iff_mem.mp known
    have visible : ∀ text ∈ IngestCall.sourceTypes, Text.strip text ≠ [] :=
      forall_mem_of_all (by decide)
    exact visible _ listed
  · intro text given
    unfold IngestCall.checkSourceReference at referenced
    rw [given] at referenced
    simp only at referenced
    split_ifs at referenced with blank
    exact blank

theorem Begun.typed {call : IngestCall py hexdigest} {before database : Database py hexdigest}
    {batch : SignalBatch py hexdigest} (begun : Begun call before batch database) :
    call.sourceType ≠ [] := by
  intro empty
  have visible := begun.visible.1
  rw [empty] at visible
  exact visible rfl

/-! ## The quarantine loop -/

/-- The loop ends with every row in the sink and in the tables, or at the port that fails, with
    the rows before it in the sink, and its own where the sink was not the one to fail. -/
theorem quarantineFrom_cases (fault : Option FailurePoint) (index : Nat)
    (records sink : List QuarantinedSignal) (database : Database py hexdigest) :
    quarantineFrom fault index records sink database =
        (.ok (database.addAllQuarantined records), sink ++ records) ∨
      ∃ error count, count < records.length ∧
        (fault = some (.quarantine (index + count)) ∧
            quarantineFrom fault index records sink database =
              (.error error, sink ++ records.take count) ∨
          (fault = some (.addQuarantine (index + count)) ∨
              fault = some (.auditQuarantined (index + count))) ∧
            quarantineFrom fault index records sink database =
              (.error error, sink ++ records.take (count + 1))) := by
  induction records generalizing index sink database with
  | nil =>
    left
    rw [quarantineFrom, List.append_nil]
    rfl
  | cons record records ih =>
    rw [quarantineFrom]
    cases sent : attempt fault (.quarantine index) with
    | error error =>
      right
      exact ⟨error, 0, Nat.zero_lt_succ _, Or.inl ⟨attempt_eq_error sent, by simp⟩⟩
    | ok _ =>
      simp only
      cases kept : storeQuarantined fault index with
      | error error =>
        right
        refine ⟨error, 0, Nat.zero_lt_succ _, Or.inr ⟨?_, by simp⟩⟩
        unfold storeQuarantined at kept
        cases added : attempt fault (.addQuarantine index) with
        | error _ => exact Or.inl (attempt_eq_error added)
        | ok _ =>
          rw [added] at kept
          exact Or.inr (attempt_eq_error kept)
      | ok _ =>
        simp only
        rcases ih (index + 1) (sink ++ [record]) (database.addQuarantine record) with
          all | ⟨error, count, within, failed⟩
        · left
          rw [all, List.append_assoc, List.singleton_append]
          rfl
        · right
          have shift : index + 1 + count = index + (count + 1) := by omega
          refine ⟨error, count + 1, by simpa using within, ?_⟩
          rw [shift] at failed
          rw [List.take_succ_cons, List.take_succ_cons]
          rw [List.append_assoc, List.append_assoc, List.singleton_append,
            List.singleton_append] at failed
          exact failed

/-! ## The outcomes -/

/-- What a call leaves that stores its batch. -/
structure Stored (call : IngestCall py hexdigest) (world : World py hexdigest)
    (batch : SignalBatch py hexdigest) (database : Database py hexdigest)
    (report : SignalIngestionReport) (after : World py hexdigest) : Prop where
  reported : buildReport call batch
    (database.insertValid (acceptedSignals call world.watermarks batch) call.now).2.1
    (database.insertValid (acceptedSignals call world.watermarks batch) call.now).2.2
    (acceptedSignals call world.watermarks batch) (rejectedRows call world.watermarks batch) =
      .ok report
  queue : HandlesAll world.watermarks call.forecastExists
    (acceptedSignals call world.watermarks batch) world.queue after.queue
  watermarks : after.watermarks =
    advanceAll world.watermarks (acceptedSignals call world.watermarks batch)
  signals : after.database.signals =
    (database.insertValid (acceptedSignals call world.watermarks batch) call.now).1.signals
  mappings : after.database.mappings = database.mappings
  batches : after.database.batches = database.batches.put (Database.closedEnvelope call report)

/-- What a call leaves that fails at a port once its run is begun. -/
inductive Leftover (call : IngestCall py hexdigest) (world : World py hexdigest)
    (batch : SignalBatch py hexdigest) : FailurePoint → World py hexdigest → Prop where
  | lookup : Leftover call world batch .lookup world
  | insert : Leftover call world batch .insert world
  | quarantine {index : Nat}
      (within : index < (rejectedRows call world.watermarks batch).length) :
      Leftover call world batch (.quarantine index) { world with
        sink := world.sink ++ (rejectedRows call world.watermarks batch).take index }
  | addQuarantine {index : Nat}
      (within : index < (rejectedRows call world.watermarks batch).length) :
      Leftover call world batch (.addQuarantine index) { world with
        sink := world.sink ++ (rejectedRows call world.watermarks batch).take (index + 1) }
  | auditQuarantined {index : Nat}
      (within : index < (rejectedRows call world.watermarks batch).length) :
      Leftover call world batch (.auditQuarantined index) { world with
        sink := world.sink ++ (rejectedRows call world.watermarks batch).take (index + 1) }
  | lateHandling : Leftover call world batch .lateHandling { world with
      sink := world.sink ++ rejectedRows call world.watermarks batch }
  | buildReport {queue : RecomputationQueue}
      (handled : HandlesAll world.watermarks call.forecastExists
        (acceptedSignals call world.watermarks batch) world.queue queue) :
      Leftover call world batch .buildReport { world with
        watermarks := advanceAll world.watermarks (acceptedSignals call world.watermarks batch)
        queue
        sink := world.sink ++ rejectedRows call world.watermarks batch }
  | completeRun : Leftover call world batch .completeRun { world with
      sink := world.sink ++ rejectedRows call world.watermarks batch }
  | auditCompleted : Leftover call world batch .auditCompleted { world with
      sink := world.sink ++ rejectedRows call world.watermarks batch }

theorem lookup_insert_eq_error {fault : Option FailurePoint} {error : DomainError}
    (failed : (do attempt fault .lookup; attempt fault .insert) = .error error) :
    fault = some .lookup ∨ fault = some .insert := by
  cases looked : attempt fault .lookup with
  | error _ => exact Or.inl (attempt_eq_error looked)
  | ok _ =>
    rw [looked] at failed
    exact Or.inr (attempt_eq_error failed)

/-- The late events of a run are handled unless a port fails. -/
theorem handleLate_cases (call : IngestCall py hexdigest) (fault : Option FailurePoint)
    (world : World py hexdigest) (batch : SignalBatch py hexdigest) :
    (∃ error, handleLate call fault world (acceptedSignals call world.watermarks batch) =
        .error error ∧ fault = some .lateHandling) ∨
      ∃ handled, handleLate call fault world (acceptedSignals call world.watermarks batch) =
        .ok handled ∧ HandlesAll world.watermarks call.forecastExists
          (acceptedSignals call world.watermarks batch) world.queue handled.queue := by
  unfold handleLate
  cases tried : attempt fault .lateHandling with
  | error error => exact Or.inl ⟨error, rfl, attempt_eq_error tried⟩
  | ok _ =>
    obtain ⟨handled, returned, handles⟩ := handleLateEvents_returns flagged_of_accepted
      call.forecastExists call.now world.queue
    exact Or.inr ⟨handled, returned, handles⟩

/-- The report of a run is built unless its construction is made to fail. -/
theorem reportRun_cases {call : IngestCall py hexdigest} (fault : Option FailurePoint)
    {watermarks : Watermarks} {batch : SignalBatch py hexdigest} {inserted duplicates : Nat}
    (counted : inserted + duplicates = (acceptedSignals call watermarks batch).length)
    (typed : call.sourceType ≠ []) :
    (∃ error, reportRun call fault batch inserted duplicates
        (acceptedSignals call watermarks batch) (rejectedRows call watermarks batch) =
          .error error ∧ fault = some .buildReport) ∨
      ∃ report, reportRun call fault batch inserted duplicates
        (acceptedSignals call watermarks batch) (rejectedRows call watermarks batch) =
          .ok report ∧
        buildReport call batch inserted duplicates (acceptedSignals call watermarks batch)
          (rejectedRows call watermarks batch) = .ok report := by
  unfold reportRun
  cases tried : attempt fault .buildReport with
  | error error => exact Or.inl ⟨error, rfl, attempt_eq_error tried⟩
  | ok _ =>
    obtain ⟨report, built⟩ := buildReport_returns counted typed
    exact Or.inr ⟨report, built, built⟩

/-- What the report of a run states of its arguments. -/
theorem buildReport_eq_ok {call : IngestCall py hexdigest} {batch : SignalBatch py hexdigest}
    {inserted duplicates : Nat} {signals : List (PreparedSignal py hexdigest)}
    {rejected : List QuarantinedSignal} {report : SignalIngestionReport}
    (built : buildReport call batch inserted duplicates signals rejected = .ok report) :
    report.batchId = batch.batchId ∧ report.sourceType = call.sourceType ∧
      report.sourceReference = call.sourceReference ∧ report.received = batch.receivedCount ∧
      report.inserted = inserted ∧ report.duplicates = duplicates ∧
      report.rejected = rejected.length ∧
      report.sourceLag = (reportedSourceIds call signals rejected).map (sourceLag call) := by
  obtain ⟨reasons, _, made⟩ := Except.bind_eq_ok_iff.mp built
  obtain ⟨_, _, _, _, rfl⟩ := SignalIngestionReport.make_eq_ok made
  exact ⟨rfl, rfl, rfl, rfl, rfl, rfl, rfl, rfl⟩

/-- The end of a run succeeds unless a port fails. -/
theorem finishRun_cases {call : IngestCall py hexdigest} (fault : Option FailurePoint)
    {report : SignalIngestionReport} (handled : LateHandling) {database : Database py hexdigest}
    (identified : report.batchId = call.resolvedBatchId)
    (opened : database.batches.find call.resolvedBatchId = some (Database.envelope
      call.resolvedBatchId call.sourceType call.sourceReference call.now)) :
    (∃ error, finishRun call fault report handled database = .error error ∧
        (fault = some .completeRun ∨ fault = some .auditCompleted)) ∨
      ∃ completed, finishRun call fault report handled database = .ok completed ∧
        completed.signals = database.signals ∧ completed.mappings = database.mappings ∧
        completed.batches = database.batches.put (Database.closedEnvelope call report) := by
  unfold finishRun
  cases tried : attempt fault .completeRun with
  | error error => exact Or.inl ⟨error, rfl, Or.inl (attempt_eq_error tried)⟩
  | ok _ =>
    rw [identified]
    have completed := @Database.completeRun_returns py hexdigest database call report opened
    cases audited : attempt fault .auditCompleted with
    | error error =>
      refine Or.inl ⟨error, ?_, Or.inr (attempt_eq_error audited)⟩
      simp only [bind, Except.bind, completed]
    | ok _ =>
      right
      simp only [bind, Except.bind, completed]
      exact ⟨_, rfl, rfl, rfl, rfl⟩

/-- A run that is begun stores its batch, or fails at a port and leaves what that port leaves. -/
theorem storeBatch_outcome {call : IngestCall py hexdigest} (fault : Option FailurePoint)
    {world : World py hexdigest} {batch : SignalBatch py hexdigest}
    {database : Database py hexdigest} (begun : Begun call world.database batch database) :
    (∃ report after, storeBatch call fault world batch database = (.ok report, after) ∧
        Stored call world batch database report after) ∨
      ∃ error point after, storeBatch call fault world batch database = (.error error, after) ∧
        fault = some point ∧ Leftover call world batch point after := by
  unfold storeBatch
  simp only
  cases looked : (do attempt fault .lookup; attempt fault .insert : Except DomainError Unit) with
  | error error =>
    right
    rcases lookup_insert_eq_error looked with same | same
    · exact ⟨error, .lookup, world, rfl, same, .lookup⟩
    · exact ⟨error, .insert, world, rfl, same, .insert⟩
  | ok _ =>
    simp only
    have counted := Database.insertValid_counts database
      (acceptedSignals call world.watermarks batch) call.now
    have tables := Database.insertValid_eq database (acceptedSignals call world.watermarks batch)
      call.now
    rcases quarantineFrom_cases fault 0 (rejectedRows call world.watermarks batch) world.sink
        (database.insertValid (acceptedSignals call world.watermarks batch) call.now).1 with
      all | ⟨error, count, within, ⟨same, failed⟩ | ⟨same, failed⟩⟩
    · rw [all]
      simp only
      rcases handleLate_cases call fault world batch with
        ⟨error, failed, same⟩ | ⟨handled, returned, handles⟩
      · right
        rw [failed]
        exact ⟨error, _, _, rfl, same, .lateHandling⟩
      · rw [returned]
        simp only
        rcases @reportRun_cases py hexdigest call fault world.watermarks batch _ _ counted
            begun.typed with ⟨error, failed, same⟩ | ⟨report, returned', built⟩
        · right
          rw [failed]
          exact ⟨error, _, _, rfl, same, .buildReport handles⟩
        · rw [returned']
          simp only
          have identified : report.batchId = call.resolvedBatchId :=
            (buildReport_eq_ok built).1.trans (prepare_batchId begun.prepared)
          have kept := Database.addAllQuarantined_keeps
            (database.insertValid (acceptedSignals call world.watermarks batch) call.now).1
            (rejectedRows call world.watermarks batch)
          have batches : ((database.insertValid (acceptedSignals call world.watermarks batch)
              call.now).1.addAllQuarantined (rejectedRows call world.watermarks batch)).batches =
                database.batches := by
            rw [kept.2.2, tables]
          have opened := begun.opened
          rw [← batches] at opened
          rcases finishRun_cases fault handled identified opened with
            ⟨error, failed, same⟩ | ⟨completed, finished, signals, mappings, stored⟩
          · right
            rw [failed]
            rcases same with same | same
            · exact ⟨error, _, _, rfl, same, .completeRun⟩
            · exact ⟨error, _, _, rfl, same, .auditCompleted⟩
          · left
            rw [finished]
            exact ⟨report, _, rfl, built, handles, rfl, signals.trans kept.1,
              mappings.trans kept.2.1,
              stored.trans (by rw [batches])⟩
    · right
      rw [failed]
      rw [Nat.zero_add] at same
      exact ⟨error, _, _, rfl, same, .quarantine within⟩
    · right
      rw [failed]
      rw [Nat.zero_add] at same
      rcases same with same | same
      · exact ⟨error, _, _, rfl, same, .addQuarantine within⟩
      · exact ⟨error, _, _, rfl, same, .auditQuarantined within⟩

end CovenantRadar.Ingestion
