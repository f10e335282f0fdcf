import CovenantRadar.Core.DomainErrors
import CovenantRadar.Misc.KeyedTable
import CovenantRadar.Misc.Loop
import CovenantRadar.Misc.RunningMax
import CovenantRadar.Python.Datetime

/-!
# Watermarks and recomputation requests

Source `ingestion/signals/watermark.py`: the latest date processed of each source, and the queue
of borrowers to rescore, one pending request a borrower.
-/

namespace CovenantRadar.Ingestion

/-- An exception that is not a `DomainError`, by its text. -/
def raised (message : String) : DomainError := ⟨.raised, message.toList, none⟩

/-! ## Watermarks -/

/-- The state of `InMemoryWatermarkStore`. -/
abbrev Watermarks := Uuid → Option Date

/-- Source `InMemoryWatermarkStore.advance`: the largest date observed wins. -/
def Watermarks.advance (watermarks : Watermarks) (sourceId : Uuid) (watermark : Date) :
    Watermarks :=
  Function.update watermarks sourceId (raiseTo (watermarks sourceId) watermark)

theorem Watermarks.advance_same (watermarks : Watermarks) (sourceId : Uuid) (watermark : Date) :
    watermarks.advance sourceId watermark sourceId = raiseTo (watermarks sourceId) watermark :=
  Function.update_self _ _ _

theorem Watermarks.advance_other (watermarks : Watermarks) {sourceId other : Uuid}
    (watermark : Date) (apart : other ≠ sourceId) :
    watermarks.advance sourceId watermark other = watermarks other :=
  Function.update_of_ne apart _ _

/-! ## Requests -/

/-- Source `_MAX_REASON_LENGTH`. -/
def maxReasonLength : Nat := 500

/-- Source `_require_reason`. -/
def requireReason (reason : Text) : Except DomainError Unit :=
  if Text.strip reason = [] then
    .error (raised "A recomputation outcome requires a non-empty reason.")
  else if maxReasonLength < reason.length then
    .error (raised "A recomputation reason must be at most 500 characters.")
  else .ok ()

/-- Source `RecomputationRequest`. -/
structure RecomputationRequest where
  borrowerId : Uuid
  startDate : Date
  endDate : Date
  reason : Text
  requestedAt : Option UtcInstant
  sourceId : Option Uuid
  ordered : startDate ≤ endDate
  explained : requireReason reason = .ok ()
  deriving DecidableEq

namespace RecomputationRequest

/-- Source `RecomputationRequest.__post_init__`. -/
def make (borrowerId : Uuid) (startDate endDate : Date) (reason : Text)
    (requestedAt : Option UtcInstant) (sourceId : Option Uuid) :
    Except DomainError RecomputationRequest :=
  if ordered : startDate ≤ endDate then
    match explained : requireReason reason with
    | .error error => .error error
    | .ok () =>
      .ok ⟨borrowerId, startDate, endDate, reason, requestedAt, sourceId, ordered, explained⟩
  else .error (raised "Recomputation start_date cannot be after end_date.")

theorem make_returns {borrowerId : Uuid} {startDate endDate : Date} {reason : Text}
    (requestedAt : Option UtcInstant) (sourceId : Option Uuid) (ordered : startDate ≤ endDate)
    (explained : requireReason reason = .ok ()) :
    make borrowerId startDate endDate reason requestedAt sourceId =
      .ok ⟨borrowerId, startDate, endDate, reason, requestedAt, sourceId, ordered, explained⟩ := by
  unfold make
  rw [dif_pos ordered]
  split
  · rename_i error refused
    rw [explained] at refused
    cases refused
  · rfl

/-- The existing request with its range widened to take in another one. -/
def widen (existing candidate : RecomputationRequest) : RecomputationRequest :=
  { existing with
    startDate := min existing.startDate candidate.startDate
    endDate := max existing.endDate candidate.endDate
    ordered := le_trans (min_le_left _ _) (le_trans existing.ordered (le_max_left _ _)) }

/-- The request rescores the borrower on every date of a range. -/
def Covers (request : RecomputationRequest) (borrowerId : Uuid) (dates : Set Date) : Prop :=
  request.borrowerId = borrowerId ∧ dates ⊆ Set.Icc request.startDate request.endDate

theorem covers_self (request : RecomputationRequest) :
    request.Covers request.borrowerId (Set.Icc request.startDate request.endDate) :=
  ⟨rfl, subset_rfl⟩

theorem Covers.widen {existing : RecomputationRequest} {borrowerId : Uuid} {dates : Set Date}
    (covers : existing.Covers borrowerId dates) (candidate : RecomputationRequest) :
    (existing.widen candidate).Covers borrowerId dates :=
  ⟨covers.1, covers.2.trans (Set.Icc_subset_Icc (min_le_left _ _) (le_max_left _ _))⟩

theorem widen_covers {existing candidate : RecomputationRequest}
    (same : existing.borrowerId = candidate.borrowerId) :
    (existing.widen candidate).Covers candidate.borrowerId
      (Set.Icc candidate.startDate candidate.endDate) :=
  ⟨same, Set.Icc_subset_Icc (min_le_right _ _) (le_max_right _ _)⟩

end RecomputationRequest

/-- Source `LateArrivalRecord`. The length check of `event_hash` is left out: a SHA-256 digest
    in hexadecimal passes it. -/
structure LateArrivalRecord where
  borrowerId : Uuid
  eventDate : Date
  watermark : Date
  eventHash : Text
  sourceId : Uuid
  recomputationQueued : Bool
  reason : Text
  recordedAt : Option UtcInstant
  late : eventDate < watermark
  explained : requireReason reason = .ok ()
  deriving DecidableEq

/-! ## The queue -/

/-- The state of `InMemoryRecomputationQueue`. -/
structure RecomputationQueue where
  requests : KeyedTable RecomputationRequest.borrowerId
  lateArrivals : List LateArrivalRecord
  noForecast : List LateArrivalRecord

namespace RecomputationQueue

/-- A queue nothing was sent to. -/
def empty : RecomputationQueue := ⟨.empty, [], []⟩

/-- Source `InMemoryRecomputationQueue.enqueue`, of a checked candidate. -/
def enqueue (queue : RecomputationQueue) (candidate : RecomputationRequest) :
    RecomputationQueue :=
  { queue with
    requests := match queue.requests.find candidate.borrowerId with
      | none => queue.requests.insertNew candidate
      | some existing => queue.requests.put (existing.widen candidate) }

/-- Source `record_late_arrival`. -/
def recordLateArrival (queue : RecomputationQueue) (record : LateArrivalRecord) :
    RecomputationQueue :=
  { queue with lateArrivals := queue.lateArrivals ++ [record] }

/-- Source `record_no_forecast`. -/
def recordNoForecast (queue : RecomputationQueue) (record : LateArrivalRecord) :
    RecomputationQueue :=
  { queue with noForecast := queue.noForecast ++ [record] }

/-- Source `requests`: the pending requests in the order of their borrowers' identifiers. -/
def pending (queue : RecomputationQueue) : List RecomputationRequest :=
  queue.requests.rows.insertionSort fun a b => a.borrowerId.str ≤ b.borrowerId.str

/-- Source `InMemoryRecomputationQueue.drain`. -/
def drain (queue : RecomputationQueue) : List RecomputationRequest × RecomputationQueue :=
  (queue.pending, { queue with requests := .empty })

/-- Some pending request covers the borrower over the range. -/
def Covers (queue : RecomputationQueue) (borrowerId : Uuid) (dates : Set Date) : Prop :=
  ∃ request ∈ queue.pending, request.Covers borrowerId dates

theorem mem_pending {queue : RecomputationQueue} {request : RecomputationRequest} :
    request ∈ queue.pending ↔ queue.requests.find request.borrowerId = some request := by
  unfold pending
  rw [List.mem_insertionSort, KeyedTable.find_eq_some_iff]
  simp

/-- Queueing a request changes the entry of its borrower only. -/
theorem find_enqueue (queue : RecomputationQueue) (candidate : RecomputationRequest)
    (borrowerId : Uuid) :
    (queue.enqueue candidate).requests.find borrowerId =
      if borrowerId = candidate.borrowerId then
        some ((queue.requests.find borrowerId).elim candidate fun existing =>
          existing.widen candidate)
      else queue.requests.find borrowerId := by
  unfold enqueue
  cases held : queue.requests.find candidate.borrowerId with
  | none =>
    simp only
    rw [KeyedTable.find_insertNew]
    split_ifs with same
    · rw [same, held]
      rfl
    · rfl
  | some existing =>
    have key := (KeyedTable.find_eq_some_iff.mp held).2
    have present : queue.requests.find (existing.widen candidate).borrowerId = some existing := by
      rw [RecomputationRequest.widen, key]
      exact held
    simp only
    rw [KeyedTable.find_put present]
    have keys : (existing.widen candidate).borrowerId = candidate.borrowerId := key
    rw [keys]
    split_ifs with same
    · rw [same, held]
      rfl
    · rfl

/-- A request queued is covered from then on. -/
theorem enqueue_covers (queue : RecomputationQueue) (candidate : RecomputationRequest) :
    (queue.enqueue candidate).Covers candidate.borrowerId
      (Set.Icc candidate.startDate candidate.endDate) := by
  have entry := queue.find_enqueue candidate candidate.borrowerId
  rw [if_pos rfl] at entry
  cases held : queue.requests.find candidate.borrowerId with
  | none =>
    rw [held, Option.elim_none] at entry
    exact ⟨candidate, mem_pending.mpr entry, candidate.covers_self⟩
  | some existing =>
    have key := (KeyedTable.find_eq_some_iff.mp held).2
    rw [held, Option.elim_some] at entry
    refine ⟨existing.widen candidate, mem_pending.mpr ?_, RecomputationRequest.widen_covers key⟩
    rw [← entry]
    exact congrArg _ key

/-- Queueing keeps what was covered. -/
theorem Covers.enqueue {queue : RecomputationQueue} {borrowerId : Uuid} {dates : Set Date}
    (covers : queue.Covers borrowerId dates) (candidate : RecomputationRequest) :
    (queue.enqueue candidate).Covers borrowerId dates := by
  obtain ⟨request, held, covered⟩ := covers
  have entry := queue.find_enqueue candidate request.borrowerId
  rw [mem_pending.mp held, Option.elim_some] at entry
  by_cases same : request.borrowerId = candidate.borrowerId
  · rw [if_pos same] at entry
    exact ⟨request.widen candidate, mem_pending.mpr entry, covered.widen candidate⟩
  · rw [if_neg same] at entry
    exact ⟨request, mem_pending.mpr entry, covered⟩

end RecomputationQueue

end CovenantRadar.Ingestion
