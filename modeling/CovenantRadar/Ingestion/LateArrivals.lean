import CovenantRadar.Ingestion.Service

/-!
# Late arrivals and watermarks

What one batch does to the recomputation queue and to the watermarks: every signal dated before
the watermark of its source is recorded, in order, and queued where its borrower has a forecast;
then each watermark is raised to the dates of the batch.
-/

namespace CovenantRadar.Ingestion

open Taxonomy (Builtins SignalEvent)

variable {py : Builtins} {hexdigest : ByteArray → Text}

/-! ## Flags -/

theorem isLate_eq_true_iff {watermarks : Watermarks} {event : SignalEvent py hexdigest} :
    isLate watermarks event = true ↔ ∃ sourceId watermark, event.sourceId = some sourceId ∧
      watermarks sourceId = some watermark ∧ event.eventDate < watermark := by
  unfold isLate
  cases source : event.sourceId with
  | none => simp
  | some sourceId =>
    cases held : watermarks sourceId with
    | none => simp [held]
    | some watermark => simp [held]

/-- The signal carries the flag the service gives it. -/
def Flagged (watermarks : Watermarks) (signal : PreparedSignal py hexdigest) : Prop :=
  signal.event.isLate = isLate watermarks signal.event

theorem flagged_withLateFlag (watermarks : Watermarks) (signal : PreparedSignal py hexdigest) :
    Flagged watermarks (withLateFlag watermarks signal) := rfl

theorem flagged_of_accepted {call : IngestCall py hexdigest} {watermarks : Watermarks}
    {batch : SignalBatch py hexdigest} :
    ∀ signal ∈ acceptedSignals call watermarks batch, Flagged watermarks signal := by
  intro signal accepted
  obtain ⟨read, _, rfl⟩ := List.mem_map.mp (List.mem_of_mem_filter accepted)
  exact flagged_withLateFlag watermarks read

/-! ## One event -/

/-- The record of a late event. -/
structure Records (before : Watermarks) (forecastExists : Uuid → Bool)
    (event : SignalEvent py hexdigest) (record : LateArrivalRecord) : Prop where
  borrowerId : record.borrowerId = event.borrowerId
  eventDate : record.eventDate = event.eventDate
  eventHash : record.eventHash = event.contentHash
  sourceId : event.sourceId = some record.sourceId
  watermark : before record.sourceId = some record.watermark
  queued : record.recomputationQueued = forecastExists event.borrowerId

theorem late_signal_explained : requireReason "late_signal".toList = .ok () := by decide

theorem queued_explained : requireReason "recomputation queued".toList = .ok () := by decide

theorem unqueued_explained :
    requireReason "no forecast exists for borrower; recomputation not queued".toList = .ok () := by
  decide

theorem LateArrivalRecord.make_returns {event : SignalEvent py hexdigest} {watermark : Date}
    {reason : Text} (sourceId : Uuid) (recomputationQueued : Bool) (recordedAt : UtcInstant)
    (late : event.eventDate < watermark) (explained : requireReason reason = .ok ()) :
    make event watermark sourceId recomputationQueued reason recordedAt =
      .ok ⟨event.borrowerId, event.eventDate, watermark, event.contentHash, sourceId,
        recomputationQueued, reason, some recordedAt, late, explained⟩ := by
  unfold make
  rw [dif_pos late]
  split
  · rename_i error refused
    rw [explained] at refused
    cases refused
  · rfl

/-- What one signal does to the queue. -/
inductive Handles (before : Watermarks) (forecastExists : Uuid → Bool)
    (event : SignalEvent py hexdigest) (queue : RecomputationQueue) :
    RecomputationQueue → Prop where
  | onTime (flag : isLate before event = false) : Handles before forecastExists event queue queue
  | late {after : RecomputationQueue} {record : LateArrivalRecord}
      (flag : isLate before event = true) (records : Records before forecastExists event record)
      (lateArrivals : after.lateArrivals = queue.lateArrivals ++ [record])
      (kept : ∀ borrowerId dates, queue.Covers borrowerId dates → after.Covers borrowerId dates)
      (covered : forecastExists event.borrowerId = true →
        after.Covers event.borrowerId (Set.Icc event.eventDate record.watermark)) :
      Handles before forecastExists event queue after

theorem handleLateEvent_returns {before : Watermarks} {signal : PreparedSignal py hexdigest}
    (flagged : Flagged before signal) (forecastExists : Uuid → Bool) (now : UtcInstant)
    (handled : LateHandling) :
    ∃ after, handleLateEvent forecastExists before now handled signal = .ok after ∧
      Handles before forecastExists signal.event handled.queue after.queue := by
  unfold handleLateEvent
  rw [flagged]
  cases flag : isLate before signal.event with
  | false =>
    refine ⟨handled, ?_, .onTime flag⟩
    cases signal.event.sourceId <;> rfl
  | true =>
    obtain ⟨sourceId, watermark, source, held, late⟩ := isLate_eq_true_iff.mp flag
    rw [source]
    simp only [Bool.true_eq_false, if_false, held]
    by_cases forecast : forecastExists signal.event.borrowerId = true
    · rw [if_pos forecast]
      unfold recordQueued
      rw [RecomputationRequest.make_returns _ _ (le_of_lt late) late_signal_explained,
        LateArrivalRecord.make_returns sourceId true now late queued_explained]
      refine ⟨_, rfl, ?_⟩
      refine .late flag ⟨rfl, rfl, rfl, source, held, forecast.symm⟩ rfl ?_ ?_
      · intro borrowerId dates covers
        exact covers.enqueue _
      · intro _
        exact handled.queue.enqueue_covers _
    · rw [if_neg forecast]
      unfold recordUnqueued
      rw [LateArrivalRecord.make_returns sourceId false now late unqueued_explained]
      have absent : forecastExists signal.event.borrowerId = false := by simpa using forecast
      refine ⟨_, rfl, ?_⟩
      refine .late flag ⟨rfl, rfl, rfl, source, held, absent.symm⟩ rfl ?_ ?_
      · exact fun _ _ covers => covers
      · exact fun present => absurd present forecast

/-! ## One batch -/

/-- What a batch does to the queue. -/
structure HandlesAll (before : Watermarks) (forecastExists : Uuid → Bool)
    (signals : List (PreparedSignal py hexdigest)) (queue after : RecomputationQueue) : Prop where
  recorded : ∃ records, after.lateArrivals = queue.lateArrivals ++ records ∧
    List.Forall₂ (fun signal record => Records before forecastExists signal.event record)
      (signals.filter fun signal => isLate before signal.event) records
  kept : ∀ borrowerId dates, queue.Covers borrowerId dates → after.Covers borrowerId dates
  covered : ∀ signal ∈ signals, ∀ sourceId watermark, signal.event.sourceId = some sourceId →
    before sourceId = some watermark → signal.event.eventDate < watermark →
      forecastExists signal.event.borrowerId = true →
        after.Covers signal.event.borrowerId (Set.Icc signal.event.eventDate watermark)
  untouched : (∀ signal ∈ signals, isLate before signal.event = false) → after = queue

theorem HandlesAll.nil (before : Watermarks) (forecastExists : Uuid → Bool)
    (queue : RecomputationQueue) :
    HandlesAll before forecastExists ([] : List (PreparedSignal py hexdigest)) queue queue where
  recorded := ⟨[], by simp, .nil⟩
  kept _ _ covers := covers
  covered _ member := by cases member
  untouched _ := rfl

theorem HandlesAll.cons {before : Watermarks} {forecastExists : Uuid → Bool}
    {signal : PreparedSignal py hexdigest} {signals : List (PreparedSignal py hexdigest)}
    {queue middle after : RecomputationQueue}
    (first : Handles before forecastExists signal.event queue middle)
    (rest : HandlesAll before forecastExists signals middle after) :
    HandlesAll before forecastExists (signal :: signals) queue after := by
  cases first with
  | onTime flag =>
    refine ⟨?_, rest.kept, ?_, fun none => rest.untouched fun other member =>
      none other (List.mem_cons_of_mem _ member)⟩
    · rw [List.filter_cons_of_neg (by simp [flag])]
      exact rest.recorded
    · intro other member sourceId watermark source held late
      rcases List.mem_cons.mp member with rfl | later
      · rw [isLate_eq_true_iff.mpr ⟨sourceId, watermark, source, held, late⟩] at flag
        cases flag
      · exact rest.covered other later sourceId watermark source held late
  | @late _ record flag records lateArrivals kept covered =>
    obtain ⟨others, appended, pairs⟩ := rest.recorded
    refine ⟨⟨record :: others, ?_, ?_⟩, fun borrowerId dates covers => rest.kept _ _ (kept _ _ covers), ?_, ?_⟩
    · rw [appended, lateArrivals, List.append_assoc, List.singleton_append]
    · rw [List.filter_cons, if_pos flag]
      exact .cons records pairs
    · intro other member sourceId watermark source held late forecast
      rcases List.mem_cons.mp member with rfl | later
      · have same : sourceId = record.sourceId := Option.some.inj (source.symm.trans records.sourceId)
        rw [same, records.watermark] at held
        rw [← Option.some.inj held]
        exact rest.kept _ _ (covered forecast)
      · exact rest.covered other later sourceId watermark source held late forecast
    · intro none
      rw [none signal List.mem_cons_self] at flag
      cases flag

/-- Late events are handled without an exception, whatever the batch. -/
theorem handleLateEvents_returns {before : Watermarks}
    {signals : List (PreparedSignal py hexdigest)} (flagged : ∀ signal ∈ signals, Flagged before signal)
    (forecastExists : Uuid → Bool) (now : UtcInstant) (queue : RecomputationQueue) :
    ∃ handled, handleLateEvents forecastExists before now queue signals = .ok handled ∧
      HandlesAll before forecastExists signals queue handled.queue := by
  unfold handleLateEvents
  generalize start : LateHandling.mk queue 0 0 0 = handled
  have same : queue = handled.queue := by rw [← start]
  rw [same]
  clear start same
  induction signals generalizing handled with
  | nil => exact ⟨handled, rfl, .nil before forecastExists handled.queue⟩
  | cons signal signals ih =>
    obtain ⟨first, rest⟩ := List.forall_mem_cons.mp flagged
    obtain ⟨middle, returned, handles⟩ :=
      handleLateEvent_returns first forecastExists now handled
    obtain ⟨after, returned', handlesAll⟩ := ih rest middle
    refine ⟨after, ?_, handlesAll.cons handles⟩
    rw [List.foldlM_cons, returned]
    exact returned'

/-! ## Watermarks -/

/-- The dates of the signals of one source. -/
def datesOf (sourceId : Uuid) (signals : List (PreparedSignal py hexdigest)) : Set Date :=
  {date | ∃ signal ∈ signals, signal.event.sourceId = some sourceId ∧
    signal.event.eventDate = date}

theorem datesOf_cons (sourceId : Uuid) (signal : PreparedSignal py hexdigest)
    (signals : List (PreparedSignal py hexdigest)) :
    datesOf sourceId (signal :: signals) = (if signal.event.sourceId = some sourceId then
      insert signal.event.eventDate (datesOf sourceId signals) else datesOf sourceId signals) := by
  ext date
  unfold datesOf
  split_ifs with names
  · simp [names, eq_comm]
  · simp [names]

theorem foldl_advanceBy_tracks (signals : List (PreparedSignal py hexdigest))
    {advancements : Watermarks} {sourceId : Uuid} {dates : Set Date}
    (tracks : Tracks (advancements sourceId) dates) :
    Tracks (signals.foldl advanceBy advancements sourceId) (dates ∪ datesOf sourceId signals) := by
  induction signals generalizing advancements dates with
  | nil =>
    have none : datesOf sourceId ([] : List (PreparedSignal py hexdigest)) = ∅ := by
      simp [datesOf]
    rw [none, Set.union_empty]
    exact tracks
  | cons signal signals ih =>
    rw [List.foldl_cons, datesOf_cons]
    cases source : signal.event.sourceId with
    | none =>
      rw [if_neg (by simp), advanceBy, source, Option.elim_none]
      exact ih tracks
    | some other =>
      rw [advanceBy, source, Option.elim_some]
      by_cases same : sourceId = other
      · subst same
        rw [if_pos rfl, Set.union_insert, ← Set.insert_union]
        apply ih
        rw [Watermarks.advance_same]
        exact tracks.raiseTo signal.event.eventDate
      · rw [if_neg (fun equal => same (Option.some.inj equal).symm)]
        apply ih
        rw [Watermarks.advance_other _ _ same]
        exact tracks

/-- The advancements of a batch are the latest dates of its sources. -/
theorem watermarkAdvancements_tracks (signals : List (PreparedSignal py hexdigest))
    (sourceId : Uuid) :
    Tracks (watermarkAdvancements signals sourceId) (datesOf sourceId signals) := by
  have tracks := @foldl_advanceBy_tracks py hexdigest signals (fun _ => none) sourceId ∅ .empty
  rw [Set.empty_union] at tracks
  exact tracks

/-- Once a batch is in, a watermark tracks the dates of its source in the batch as well. -/
theorem advanceAll_tracks (signals : List (PreparedSignal py hexdigest)) {watermarks : Watermarks}
    {sourceId : Uuid} {dates : Set Date} (tracks : Tracks (watermarks sourceId) dates) :
    Tracks (advanceAll watermarks signals sourceId) (dates ∪ datesOf sourceId signals) := by
  have advanced := watermarkAdvancements_tracks signals sourceId
  unfold advanceAll
  cases latest : watermarkAdvancements signals sourceId with
  | none =>
    rw [advanced.eq_none_iff.mp latest, Set.union_empty, Option.elim_none]
    exact tracks
  | some date =>
    rw [Option.elim_some]
    exact tracks.union (advanced.eq_some_iff.mp latest)

/-- A watermark does not fall. -/
theorem le_advanceAll {signals : List (PreparedSignal py hexdigest)} {watermarks : Watermarks}
    {sourceId : Uuid} {watermark : Date} (held : watermarks sourceId = some watermark) :
    ∃ later, advanceAll watermarks signals sourceId = some later ∧ watermark ≤ later := by
  unfold advanceAll
  cases watermarkAdvancements signals sourceId with
  | none => exact ⟨watermark, held, le_refl watermark⟩
  | some date => exact le_of_raiseTo held

/-- A batch leaves the watermarks exactly where none of its dates is above its source's. -/
theorem advanceAll_eq_self_iff {signals : List (PreparedSignal py hexdigest)}
    {watermarks : Watermarks} :
    advanceAll watermarks signals = watermarks ↔ ∀ signal ∈ signals, ∀ sourceId,
      signal.event.sourceId = some sourceId →
        ∃ watermark, watermarks sourceId = some watermark ∧ signal.event.eventDate ≤ watermark := by
  constructor
  · intro same signal member sourceId source
    have advanced := watermarkAdvancements_tracks signals sourceId
    have dated : signal.event.eventDate ∈ datesOf sourceId signals := ⟨signal, member, source, rfl⟩
    have here := congrFun same sourceId
    unfold advanceAll at here
    cases latest : watermarkAdvancements signals sourceId with
    | none =>
      rw [advanced.eq_none_iff.mp latest] at dated
      exact dated.elim
    | some date =>
      rw [latest, Option.elim_some] at here
      have below := (advanced.eq_some_iff.mp latest).2 dated
      cases held : watermarks sourceId with
      | none =>
        rw [held] at here
        cases here
      | some watermark =>
        rw [held, raiseTo] at here
        refine ⟨watermark, rfl, le_trans below ?_⟩
        split_ifs at here with smaller
        · exact le_of_eq (Option.some.inj here)
        · exact not_lt.mp smaller
  · intro covered
    funext sourceId
    have advanced := watermarkAdvancements_tracks signals sourceId
    unfold advanceAll
    cases latest : watermarkAdvancements signals sourceId with
    | none => rfl
    | some date =>
      obtain ⟨signal, member, source, dated⟩ := (advanced.eq_some_iff.mp latest).1
      obtain ⟨watermark, held, below⟩ := covered signal member sourceId source
      rw [Option.elim_some, held, ← dated]
      exact raiseTo_of_le below

end CovenantRadar.Ingestion
