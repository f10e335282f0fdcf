import CovenantRadar.Ingestion.Atomicity

/-!
# Ingestion histories

Batches and drains in any order, from a service that has not run yet: the watermarks are the
latest accepted dates, the late events are those dated before the watermark they met, and each of
them stays covered by a request that is pending or has been drained.
-/

namespace CovenantRadar.Ingestion

open Relation (ReflTransGen)
open Taxonomy (Builtins SignalEvent)

variable {py : Builtins} {hexdigest : ByteArray → Text}

/-- An event a call accepted, with the watermark of its source before the batch, and whether its
    borrower had a forecast then. -/
structure AcceptedEvent (py : Builtins) (hexdigest : ByteArray → Text) where
  event : SignalEvent py hexdigest
  before : Option Date
  forecast : Bool

/-- The event is dated before the watermark of its source that preceded its batch. -/
def AcceptedEvent.late (accepted : AcceptedEvent py hexdigest) : Bool :=
  accepted.before.any fun watermark => accepted.event.eventDate < watermark

/-- An accepted signal, as a call meets it. -/
def accept (call : IngestCall py hexdigest) (watermarks : Watermarks)
    (signal : PreparedSignal py hexdigest) : AcceptedEvent py hexdigest :=
  ⟨signal.event, signal.event.sourceId.bind watermarks,
    call.forecastExists signal.event.borrowerId⟩

/-- The events a call accepts: none where it replays a stored report. -/
def acceptedEvents (call : IngestCall py hexdigest) (world : World py hexdigest) :
    List (AcceptedEvent py hexdigest) :=
  match openRun call none world.database with
  | .ok (.begun batch _) =>
    (acceptedSignals call world.watermarks batch).map (accept call world.watermarks)
  | _ => []

/-- The state of a history: what is stored, and what has been accepted, drained and reported. -/
structure History (py : Builtins) (hexdigest : ByteArray → Text) where
  world : World py hexdigest
  accepted : List (AcceptedEvent py hexdigest)
  drained : List RecomputationRequest
  reports : List SignalIngestionReport

/-- A service that has not run yet: nothing is watched and nothing queued. -/
def History.start (database : Database py hexdigest) (sink : List QuarantinedSignal) :
    History py hexdigest where
  world := ⟨database, fun _ => none, .empty, sink⟩
  accepted := []
  drained := []
  reports := []

/-- A successful call, or a drain. -/
inductive Step : History py hexdigest → History py hexdigest → Prop where
  | ingest {history : History py hexdigest} (call : IngestCall py hexdigest)
      (fault : Option FailurePoint) {report : SignalIngestionReport} {after : World py hexdigest}
      (returned : ingest call fault history.world = (.ok report, after)) :
      Step history ⟨after, history.accepted ++ acceptedEvents call history.world,
        history.drained, history.reports ++ [report]⟩
  | drain (history : History py hexdigest) :
      Step history { history with
        world := { history.world with queue := history.world.queue.drain.2 }
        drained := history.drained ++ history.world.queue.drain.1 }

/-! ## One call -/

/-- A run that is opened past the ports is opened the same way where they cannot fail. -/
theorem openRun_none {call : IngestCall py hexdigest} {fault : Option FailurePoint}
    {database : Database py hexdigest} {opening : Opening py hexdigest}
    (opened : openRun call fault database = .ok opening) :
    openRun call none database = .ok opening := by
  unfold openRun at opened ⊢
  obtain ⟨_, checked, opened⟩ := Except.bind_eq_ok_iff.mp opened
  obtain ⟨_, _, opened⟩ := Except.bind_eq_ok_iff.mp opened
  obtain ⟨prepared, returned, opened⟩ := Except.bind_eq_ok_iff.mp opened
  obtain ⟨_, _, opened⟩ := Except.bind_eq_ok_iff.mp opened
  rw [checked, attempt_eq_ok_iff.mpr (by simp), returned, attempt_eq_ok_iff.mpr (by simp)]
  exact opened

/-- A successful call whose run begins has stored its batch. -/
theorem ingest_stored {call : IngestCall py hexdigest} {fault : Option FailurePoint}
    {world after : World py hexdigest} {report : SignalIngestionReport}
    (returned : ingest call fault world = (.ok report, after)) {batch : SignalBatch py hexdigest}
    {database : Database py hexdigest}
    (begins : openRun call none world.database = .ok (.begun batch database)) :
    Stored call world batch database report after := by
  unfold ingest at returned
  cases opened : openRun call fault world.database with
  | error error =>
    rw [opened] at returned
    cases returned
  | ok opening =>
    rw [opened] at returned
    rw [openRun_none opened] at begins
    cases begins
    simp only at returned
    rcases storeBatch_outcome fault (openRun_eq_begun_iff.mp opened).1 with
      ⟨report', after', stored, outcome⟩ | ⟨error, point, after', stored, same, leftover⟩
    · rw [stored] at returned
      cases returned
      exact outcome
    · rw [stored] at returned
      cases returned

/-- A successful call replays a stored report, or stores its batch. -/
theorem ingest_eq_ok {call : IngestCall py hexdigest} {fault : Option FailurePoint}
    {world after : World py hexdigest} {report : SignalIngestionReport}
    (returned : ingest call fault world = (.ok report, after)) :
    (after = world ∧ acceptedEvents call world = []) ∨
      ∃ batch database, Begun call world.database batch database ∧
        Stored call world batch database report after ∧
        acceptedEvents call world =
          (acceptedSignals call world.watermarks batch).map (accept call world.watermarks) := by
  cases opened : openRun call fault world.database with
  | error error =>
    rw [ingest, opened] at returned
    cases returned
  | ok opening =>
    have begins := openRun_none opened
    unfold acceptedEvents
    rw [begins]
    cases opening with
    | stored stored =>
      rw [ingest, opened] at returned
      exact Or.inl ⟨(congrArg Prod.snd returned).symm, rfl⟩
    | begun batch database =>
      exact Or.inr ⟨batch, database, (openRun_eq_begun_iff.mp opened).1,
        ingest_stored returned begins, rfl⟩

/-! ## Invariants -/

/-- The dates of the accepted events of one source. -/
def acceptedDates (sourceId : Uuid) (accepted : List (AcceptedEvent py hexdigest)) : Set Date :=
  {date | ∃ entry ∈ accepted, entry.event.sourceId = some sourceId ∧ entry.event.eventDate = date}

/-- The record of an accepted event that was late. -/
structure IsRecordOf (entry : AcceptedEvent py hexdigest) (record : LateArrivalRecord) : Prop where
  borrowerId : record.borrowerId = entry.event.borrowerId
  eventDate : record.eventDate = entry.event.eventDate
  eventHash : record.eventHash = entry.event.contentHash
  sourceId : entry.event.sourceId = some record.sourceId
  watermark : entry.before = some record.watermark
  queued : record.recomputationQueued = entry.forecast

/-- What holds of every history. -/
structure Consistent (history : History py hexdigest) : Prop where
  watermarks : ∀ sourceId,
    Tracks (history.world.watermarks sourceId) (acceptedDates sourceId history.accepted)
  flagged : ∀ entry ∈ history.accepted, entry.event.isLate = entry.late
  recorded : List.Forall₂ IsRecordOf (history.accepted.filter AcceptedEvent.late)
    history.world.queue.lateArrivals
  covered : ∀ entry ∈ history.accepted, ∀ watermark, entry.before = some watermark →
    entry.event.eventDate < watermark → entry.forecast = true →
      ∃ request ∈ history.world.queue.pending ++ history.drained,
        request.Covers entry.event.borrowerId (Set.Icc entry.event.eventDate watermark)

theorem consistent_start (database : Database py hexdigest) (sink : List QuarantinedSignal) :
    Consistent (History.start database sink) where
  watermarks sourceId := by
    have none : acceptedDates sourceId ([] : List (AcceptedEvent py hexdigest)) = ∅ := by
      simp [acceptedDates]
    rw [History.start, none]
    exact .empty
  flagged entry member := by cases member
  recorded := .nil
  covered entry member := by cases member

theorem acceptedDates_append (sourceId : Uuid) (accepted more : List (AcceptedEvent py hexdigest)) :
    acceptedDates sourceId (accepted ++ more) =
      acceptedDates sourceId accepted ∪ acceptedDates sourceId more := by
  ext date
  simp only [acceptedDates, List.mem_append, Set.mem_union, Set.mem_ofPred_eq]
  constructor
  · rintro ⟨entry, first | second, dated⟩
    · exact Or.inl ⟨entry, first, dated⟩
    · exact Or.inr ⟨entry, second, dated⟩
  · rintro (⟨entry, member, dated⟩ | ⟨entry, member, dated⟩)
    · exact ⟨entry, Or.inl member, dated⟩
    · exact ⟨entry, Or.inr member, dated⟩

theorem acceptedDates_map (call : IngestCall py hexdigest) (watermarks : Watermarks)
    (sourceId : Uuid) (signals : List (PreparedSignal py hexdigest)) :
    acceptedDates sourceId (signals.map (accept call watermarks)) = datesOf sourceId signals := by
  ext date
  simp [acceptedDates, datesOf, accept]

/-- The records of a batch are those of its accepted events that are late. -/
theorem records_accept {call : IngestCall py hexdigest} {watermarks : Watermarks}
    {signals : List (PreparedSignal py hexdigest)} {records : List LateArrivalRecord}
    (pairs : List.Forall₂ (fun signal record =>
      Records watermarks call.forecastExists signal.event record)
        (signals.filter fun signal => isLate watermarks signal.event) records) :
    List.Forall₂ IsRecordOf
      ((signals.map (accept call watermarks)).filter AcceptedEvent.late) records := by
  rw [List.filter_map, List.forall₂_map_left_iff]
  apply List.Forall₂.imp _ pairs
  intro signal record known
  refine ⟨known.borrowerId, known.eventDate, known.eventHash, known.sourceId, ?_, known.queued⟩
  simp only [accept]
  rw [known.sourceId, Option.bind_some]
  exact known.watermark

theorem Consistent.stored {history : History py hexdigest} (consistent : Consistent history)
    {call : IngestCall py hexdigest} {batch : SignalBatch py hexdigest}
    {database : Database py hexdigest} {report : SignalIngestionReport}
    {after : World py hexdigest} (stored : Stored call history.world batch database report after) :
    Consistent (⟨after, history.accepted ++
      (acceptedSignals call history.world.watermarks batch).map
        (accept call history.world.watermarks), history.drained, history.reports ++ [report]⟩ :
          History py hexdigest) where
  watermarks sourceId := by
    rw [acceptedDates_append, acceptedDates_map]
    simp only [stored.watermarks]
    exact advanceAll_tracks _ (consistent.watermarks sourceId)
  flagged entry member := by
    rcases List.mem_append.mp member with earlier | new
    · exact consistent.flagged entry earlier
    · obtain ⟨signal, accepted, rfl⟩ := List.mem_map.mp new
      exact flagged_of_accepted signal accepted
  recorded := by
    obtain ⟨records, appended, pairs⟩ := stored.queue.recorded
    simp only
    rw [List.filter_append, appended]
    exact List.rel_append consistent.recorded (records_accept pairs)
  covered entry member watermark held late forecast := by
    rcases List.mem_append.mp member with earlier | new
    · obtain ⟨request, listed, covers⟩ :=
        consistent.covered entry earlier watermark held late forecast
      rcases List.mem_append.mp listed with pending | drained
      · obtain ⟨wider, pending', covers'⟩ := stored.queue.kept _ _ ⟨request, pending, covers⟩
        exact ⟨wider, List.mem_append_left _ pending', covers'⟩
      · exact ⟨request, List.mem_append_right _ drained, covers⟩
    · obtain ⟨signal, accepted, rfl⟩ := List.mem_map.mp new
      obtain ⟨sourceId, source, held⟩ := Option.bind_eq_some_iff.mp held
      obtain ⟨request, pending, covers⟩ :=
        stored.queue.covered signal accepted sourceId watermark source held late forecast
      exact ⟨request, List.mem_append_left _ pending, covers⟩

theorem Consistent.step {history later : History py hexdigest} (consistent : Consistent history)
    (step : Step history later) : Consistent later := by
  cases step with
  | ingest call fault returned =>
    rcases ingest_eq_ok returned with ⟨rfl, none⟩ | ⟨batch, database, _, stored, events⟩
    · rw [none, List.append_nil]
      exact ⟨consistent.watermarks, consistent.flagged, consistent.recorded, consistent.covered⟩
    · rw [events]
      exact consistent.stored stored
  | drain =>
    refine ⟨consistent.watermarks, consistent.flagged, consistent.recorded, ?_⟩
    intro entry member watermark held late forecast
    obtain ⟨request, listed, covers⟩ :=
      consistent.covered entry member watermark held late forecast
    refine ⟨request, List.mem_append_right _ ?_, covers⟩
    rcases List.mem_append.mp listed with pending | drained
    · exact List.mem_append_right _ pending
    · exact List.mem_append_left _ drained

theorem consistent_of_run {database : Database py hexdigest} {sink : List QuarantinedSignal}
    {history : History py hexdigest} (run : ReflTransGen Step (.start database sink) history) :
    Consistent history := by
  induction run with
  | refl => exact consistent_start database sink
  | tail _ step ih => exact ih.step step

/-! ## Watermarks over time -/

theorem watermark_of_step {history later : History py hexdigest} (step : Step history later)
    {sourceId : Uuid} {watermark : Date} (held : history.world.watermarks sourceId = some watermark) :
    ∃ raised, later.world.watermarks sourceId = some raised ∧ watermark ≤ raised := by
  cases step with
  | ingest call fault returned =>
    rcases ingest_eq_ok returned with ⟨rfl, none⟩ | ⟨batch, database, _, stored, events⟩
    · exact ⟨watermark, held, le_refl _⟩
    · simp only [stored.watermarks]
      exact le_advanceAll held
  | drain => exact ⟨watermark, held, le_refl _⟩

/-- A watermark does not move back. -/
theorem watermark_of_run {history later : History py hexdigest}
    (run : ReflTransGen Step history later) {sourceId : Uuid} {watermark : Date}
    (held : history.world.watermarks sourceId = some watermark) :
    ∃ raised, later.world.watermarks sourceId = some raised ∧ watermark ≤ raised := by
  induction run with
  | refl => exact ⟨watermark, held, le_refl _⟩
  | tail _ step ih =>
    obtain ⟨middle, held', le⟩ := ih
    obtain ⟨raised, held'', le'⟩ := watermark_of_step step held'
    exact ⟨raised, held'', le_trans le le'⟩

/-- Whatever is ingested and drained, in any order: each watermark is the latest date accepted of
    its source and does not move back; the late records are, in order, those of the accepted
    events dated before the watermark they met; each such event of a borrower with a forecast is
    covered by a request that is pending or drained; and every report reconciles. -/
theorem ingestion_history_invariants {database : Database py hexdigest}
    {sink : List QuarantinedSignal} {history : History py hexdigest}
    (run : ReflTransGen Step (.start database sink) history) :
    (∀ sourceId watermark, history.world.watermarks sourceId = some watermark ↔
        IsGreatest (acceptedDates sourceId history.accepted) watermark) ∧
      (∀ later, ReflTransGen Step history later → ∀ sourceId watermark,
        history.world.watermarks sourceId = some watermark →
          ∃ raised, later.world.watermarks sourceId = some raised ∧ watermark ≤ raised) ∧
      (∀ entry ∈ history.accepted, entry.event.isLate = entry.late) ∧
      List.Forall₂ IsRecordOf (history.accepted.filter AcceptedEvent.late)
        history.world.queue.lateArrivals ∧
      (∀ entry ∈ history.accepted, ∀ watermark, entry.before = some watermark →
        entry.event.eventDate < watermark → entry.forecast = true →
          ∃ request ∈ history.world.queue.pending ++ history.drained,
            request.Covers entry.event.borrowerId (Set.Icc entry.event.eventDate watermark)) ∧
      ∀ report ∈ history.reports,
        report.received = report.inserted + report.duplicates + report.rejected := by
  have consistent := consistent_of_run run
  refine ⟨?_, ?_, consistent.flagged, consistent.recorded, consistent.covered, ?_⟩
  · intro sourceId watermark
    exact (consistent.watermarks sourceId).eq_some_iff
  · intro later rest sourceId watermark held
    exact watermark_of_run rest held
  · intro report _
    exact report.reconciles.symm

theorem sourcedCall_returns : (ingest sourcedCall none blankWorld).1.isOk = true ∧
    (acceptedEvents sourcedCall blankWorld).length = 1 := by decide +kernel

/-- A batch of one event, then a drain. -/
theorem ingestion_history_invariants_sourced : ∃ history : History _ _,
    ReflTransGen Step (.start blankWorld.database []) history ∧ history.accepted.length = 1 ∧
      (∀ sourceId watermark, history.world.watermarks sourceId = some watermark ↔
        IsGreatest (acceptedDates sourceId history.accepted) watermark) := by
  obtain ⟨report, returned⟩ := eq_ok_of_isOk sourcedCall_returns.1
  have ingested : Step (.start blankWorld.database []) _ := .ingest sourcedCall none returned
  have run := (ReflTransGen.single ingested).tail (.drain _)
  refine ⟨_, run, ?_, (ingestion_history_invariants run).1⟩
  exact sourcedCall_returns.2

end CovenantRadar.Ingestion
