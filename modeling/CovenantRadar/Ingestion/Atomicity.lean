import CovenantRadar.Ingestion.Outcomes

/-!
# What a failed call leaves

A call that raises is meant to leave nothing behind. The savepoint does that for the database, and
two handlers do it for the watermark store and the queue, but the rows sent to the sink stay
there, and a report whose construction raises leaves the stores moved on.
-/

namespace CovenantRadar.Ingestion

open Taxonomy (Builtins SignalEvent)

section

variable {py : Builtins} {hexdigest : ByteArray → Text}

/-- The points that leave nothing of a run that is begun, by what the batch holds. -/
def LeavesNothing (call : IngestCall py hexdigest) (world : World py hexdigest)
    (batch : SignalBatch py hexdigest) : FailurePoint → Prop
  | .source | .beginRun | .lookup | .insert => True
  | .quarantine index => index = 0
  | .addQuarantine _ | .auditQuarantined _ => False
  | .lateHandling | .completeRun | .auditCompleted =>
    rejectedRows call world.watermarks batch = []
  | .buildReport => rejectedRows call world.watermarks batch = [] ∧
      ∀ signal ∈ acceptedSignals call world.watermarks batch, ∀ sourceId,
        signal.event.sourceId = some sourceId →
          world.watermarks sourceId = some signal.event.eventDate

theorem sink_append_eq_iff {world : World py hexdigest} {rows : List QuarantinedSignal} :
    { world with sink := world.sink ++ rows } = world ↔ rows = [] := by
  constructor
  · intro same
    have sinks : world.sink ++ rows = world.sink := congrArg World.sink same
    simpa using sinks
  · rintro rfl
    rw [List.append_nil]

theorem take_eq_nil_iff_of_lt {α : Type} {rows : List α} {index : Nat}
    (within : index < rows.length) : rows.take index = [] ↔ index = 0 := by
  rw [List.take_eq_nil_iff]
  constructor
  · rintro (zero | empty)
    · exact zero
    · rw [empty] at within
      exact absurd within (Nat.not_lt_zero index)
  · exact Or.inl

/-- A queue that is left as it was had no late event to take in. -/
theorem HandlesAll.onTime_of_eq {before : Watermarks} {forecastExists : Uuid → Bool}
    {signals : List (PreparedSignal py hexdigest)} {queue : RecomputationQueue}
    (handles : HandlesAll before forecastExists signals queue queue) :
    ∀ signal ∈ signals, isLate before signal.event = false := by
  obtain ⟨records, appended, pairs⟩ := handles.recorded
  have empty : records = [] := by simpa using appended
  rw [empty, List.forall₂_nil_right_iff, List.filter_eq_nil_iff] at pairs
  intro signal member
  simpa using pairs signal member

/-- The dates that leave both stores as they were are the watermarks themselves. -/
theorem stores_untouched_iff {before : Watermarks} {forecastExists : Uuid → Bool}
    {signals : List (PreparedSignal py hexdigest)} {queue after : RecomputationQueue}
    (handles : HandlesAll before forecastExists signals queue after) :
    advanceAll before signals = before ∧ after = queue ↔
      ∀ signal ∈ signals, ∀ sourceId, signal.event.sourceId = some sourceId →
        before sourceId = some signal.event.eventDate := by
  rw [advanceAll_eq_self_iff]
  constructor
  · rintro ⟨below, rfl⟩ signal member sourceId source
    obtain ⟨watermark, held, under⟩ := below signal member sourceId source
    have onTime := handles.onTime_of_eq signal member
    have notLate : ¬ signal.event.eventDate < watermark := by
      intro late
      rw [isLate_eq_true_iff.mpr ⟨sourceId, watermark, source, held, late⟩] at onTime
      cases onTime
    rw [held, le_antisymm (not_lt.mp notLate) under]
  · intro dated
    constructor
    · intro signal member sourceId source
      exact ⟨_, dated signal member sourceId source, le_refl _⟩
    · apply handles.untouched
      intro signal member
      by_contra flag
      obtain ⟨sourceId, watermark, source, held, late⟩ :=
        isLate_eq_true_iff.mp (Bool.not_eq_false _ ▸ flag)
      rw [dated signal member sourceId source] at held
      exact absurd late (by rw [Option.some.inj held]; exact lt_irrefl _)

theorem leftover_eq_world_iff {call : IngestCall py hexdigest} {world after : World py hexdigest}
    {batch : SignalBatch py hexdigest} {point : FailurePoint}
    (leftover : Leftover call world batch point after) :
    after = world ↔ LeavesNothing call world batch point := by
  cases leftover with
  | lookup => exact iff_of_true rfl trivial
  | insert => exact iff_of_true rfl trivial
  | quarantine within => rw [sink_append_eq_iff, take_eq_nil_iff_of_lt within, LeavesNothing]
  | addQuarantine within =>
    rw [sink_append_eq_iff, List.take_eq_nil_iff, LeavesNothing]
    simp only [Nat.add_eq_zero_iff, one_ne_zero, and_false, false_or, iff_false]
    exact List.ne_nil_of_length_pos (Nat.zero_lt_of_lt within)
  | auditQuarantined within =>
    rw [sink_append_eq_iff, List.take_eq_nil_iff, LeavesNothing]
    simp only [Nat.add_eq_zero_iff, one_ne_zero, and_false, false_or, iff_false]
    exact List.ne_nil_of_length_pos (Nat.zero_lt_of_lt within)
  | lateHandling => rw [sink_append_eq_iff, LeavesNothing]
  | completeRun => rw [sink_append_eq_iff, LeavesNothing]
  | auditCompleted => rw [sink_append_eq_iff, LeavesNothing]
  | buildReport handled =>
    rw [LeavesNothing, ← stores_untouched_iff handled]
    constructor
    · intro same
      have sinks : world.sink ++ rejectedRows call world.watermarks batch = world.sink :=
        congrArg World.sink same
      exact ⟨by simpa using sinks, congrArg World.watermarks same, congrArg World.queue same⟩
    · rintro ⟨empty, watermarks, queue⟩
      rw [empty, watermarks, queue, List.append_nil]

/-- A run that a port kept from beginning leaves nothing. -/
theorem leavesNothing_of_not_begun {call : IngestCall py hexdigest}
    {fault : Option FailurePoint} {world : World py hexdigest}
    (refused : ∀ batch database, openRun call fault world.database ≠ .ok (.begun batch database))
    {batch : SignalBatch py hexdigest} {database : Database py hexdigest}
    (begins : openRun call none world.database = .ok (.begun batch database))
    {point : FailurePoint} (same : fault = some point) : LeavesNothing call world batch point := by
  obtain ⟨begun, _, _⟩ := openRun_eq_begun_iff.mp begins
  by_cases early : fault ≠ some .source ∧ fault ≠ some .beginRun
  · exact absurd (openRun_eq_begun_iff.mpr ⟨begun, early⟩) (refused batch database)
  · rw [same] at early
    cases point <;> first | trivial | exact absurd ⟨by simp, by simp⟩ early

/-- A call that raises leaves everything as it was exactly where its batch was refused before its
    run began, or the port that failed is one that leaves nothing of this batch. -/
theorem failed_ingest_leaves_nothing_iff {call : IngestCall py hexdigest}
    {fault : Option FailurePoint} {world : World py hexdigest}
    (failed : (ingest call fault world).1.isOk = false) :
    (ingest call fault world).2 = world ↔
      ∀ batch database, openRun call none world.database = .ok (.begun batch database) →
        ∀ point, fault = some point → LeavesNothing call world batch point := by
  unfold ingest at failed ⊢
  cases opened : openRun call fault world.database with
  | error error =>
    refine iff_of_true rfl fun batch database begins point same => ?_
    exact leavesNothing_of_not_begun (by simp [opened]) begins same
  | ok opening =>
    rw [opened] at failed
    cases opening with
    | stored report =>
      refine iff_of_true rfl fun batch database begins point same => ?_
      exact leavesNothing_of_not_begun (by simp [opened]) begins same
    | begun batch database =>
      obtain ⟨begun, _, _⟩ := openRun_eq_begun_iff.mp opened
      have begins : openRun call none world.database = .ok (.begun batch database) :=
        openRun_eq_begun_iff.mpr ⟨begun, by simp, by simp⟩
      simp only at failed ⊢
      rcases storeBatch_outcome fault begun with
        ⟨report, after, stored, _⟩ | ⟨error, point, after, stored, same, leftover⟩
      · rw [stored] at failed
        cases failed
      · rw [stored, leftover_eq_world_iff leftover]
        constructor
        · intro nothing batch' database' begins' point' same'
          rw [begins] at begins'
          rw [same] at same'
          cases begins'
          cases same'
          exact nothing
        · intro nothing
          exact nothing batch database begins point same

end

/-! ## An audit writer that fails -/

open Taxonomy (typedBuiltins quarterDigest quarterDay quarterEvent quarter_accepted)

theorem half_shared : IsShare ⟨false, 50, -2⟩ := by
  constructor <;> norm_num [Decimal.value, Decimal.magnitude]

theorem dawn_inDay : 0 < dayMicroseconds := by decide

/-- The clock of the calls below: the start of a day. -/
def dawn : UtcInstant := ⟨quarterDay, 0, dawn_inDay⟩

/-- A call by a user who may ingest, sees every borrower, and has a forecast for each. -/
def plainCall (events : List (SourceRow typedBuiltins quarterDigest)) :
    IngestCall typedBuiltins quarterDigest where
  dominantReasonShare := ⟨false, 50, -2⟩
  shared := half_shared
  forecastExists _ := true
  view := ⟨Uuid.ofInt 1, fun _ => true, fun _ => none⟩
  now := dawn
  newId := Uuid.ofInt 7
  principal := ⟨Uuid.ofInt 1, [.ingestData], .user⟩
  events := events
  sourceId := none
  batchId := none
  requestId := "request".toList
  idempotencyKey := none
  sourceType := "api".toList
  sourceReference := none
  sourceAsOfDate := none
  sourceAsOfDates := []
  sourceAsOf := none

/-- A payment event of a source. -/
def sourcedEvent : SignalEvent typedBuiltins quarterDigest :=
  { quarterEvent ⟨false, 25, -2⟩ quarter_accepted.1 quarter_accepted.2 with
    sourceId := some (Uuid.ofInt 3) }

/-- The event ingested on its own. -/
def sourcedCall : IngestCall typedBuiltins quarterDigest := plainCall [.event sourcedEvent]

/-- Nothing stored, nothing watched. -/
def blankWorld : World typedBuiltins quarterDigest where
  database := ⟨.empty, [], .empty, [], []⟩
  watermarks _ := none
  queue := .empty
  sink := []

/-- A call that raised nothing returned a report. -/
theorem eq_ok_of_isOk {ε α β : Type} {outcome : Except ε α × β} (ok : outcome.1.isOk = true) :
    ∃ value, outcome = (.ok value, outcome.2) := by
  obtain ⟨result, left'⟩ := outcome
  cases result with
  | ok value => exact ⟨value, rfl⟩
  | error error => cases ok

theorem failed_audit_raises :
    (ingest (plainCall [.other]) (some (.auditQuarantined 0)) blankWorld).1.isOk = false := by
  decide

theorem failed_ingest_leaves_nothing_iff_audit :
    (ingest (plainCall [.other]) (some (.auditQuarantined 0)) blankWorld).2 = blankWorld ↔
      ∀ batch database, openRun (plainCall [.other]) none blankWorld.database =
          .ok (.begun batch database) →
        ∀ point, some (FailurePoint.auditQuarantined 0) = some point →
          LeavesNothing (plainCall [.other]) blankWorld batch point :=
  failed_ingest_leaves_nothing_iff failed_audit_raises

/-- The audit event of a quarantined row cannot be written: the row stays in the sink. -/
theorem failed_audit_leaves_sink_row :
    ¬ ∀ (call : IngestCall typedBuiltins quarterDigest) (fault : Option FailurePoint)
      (world : World typedBuiltins quarterDigest), (ingest call fault world).1.isOk = false →
        (ingest call fault world).2 = world := by
  intro clean
  have same := clean (plainCall [.other]) (some (.auditQuarantined 0)) blankWorld failed_audit_raises
  have sinks := congrArg (fun world => world.sink.length) same
  have left : (ingest (plainCall [.other]) (some (.auditQuarantined 0))
      blankWorld).2.sink.length = 1 := by decide
  exact absurd (left.symm.trans sinks) (by decide)

end CovenantRadar.Ingestion
