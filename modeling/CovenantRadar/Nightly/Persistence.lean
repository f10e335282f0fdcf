import CovenantRadar.Nightly.Refresh

/-!
# Persistence in the nightly refresh

The refresh measures the longest run of adverse days over the whole history, while
`score_persistence` looks at the event window only. The window counts always agree.
-/

namespace CovenantRadar.Nightly

open CovenantRadar.Signals

/-! ## What one row gets -/

theorem foldl_step_longest (previous : Date) (rest : List Date) (longest current : Nat) :
    (rest.foldl ConsecutiveDays.step ⟨longest, current, some previous⟩).longest =
      extendRun previous.toOrdinal current longest (rest.map Date.toOrdinal) := by
  induction rest generalizing previous longest current with
  | nil => rfl
  | cons value rest ih =>
    rw [List.foldl_cons, List.map_cons, extendRun, ConsecutiveDays.step, ih]
    simp only [Option.any_some, decide_eq_true_eq]

theorem longestConsecutiveDays_eq (dates : List Date) :
    longestConsecutiveDays dates = longestRun (dates.map Date.toOrdinal) := by
  cases dates with
  | nil => rfl
  | cons first rest =>
    rw [longestConsecutiveDays, List.foldl_cons, ConsecutiveDays.step, foldl_step_longest]
    rfl

theorem windowStart_eq_ok_iff {asOf start : Date} {days : Nat} :
    windowStart asOf days = .ok start ↔ asOf.subDays (days - 1) = some start := by
  unfold windowStart
  cases asOf.subDays (days - 1) <;> simp

/-- The dates of the adverse events among these. -/
def adverseDates (events : List SignalEvent) : List Date :=
  (events.filter SignalEvent.isAdverse).map (·.eventDate)

/-- The dates from the start of a window to `as_of`. -/
def within (start asOf : Date) (dates : List Date) : List Date :=
  dates.filter fun day => start ≤ day && day ≤ asOf

theorem measure_eq_ok {persistence : PersistenceThresholds} {asOf : Date} {family : Text}
    {events : List SignalEvent} {measured : Measurement}
    (returned : measure persistence asOf family events = .ok measured) :
    ∃ start, asOf.subDays (persistence.eventWindowDays - 1) = some start ∧
      measured.observedDates = sortedSet (events.map (·.eventDate)) ∧
      measured.consecutive = longestRun ((sortedSet (adverseDates events)).map Date.toOrdinal) ∧
      measured.windowCount = (within start asOf (sortedSet (adverseDates events))).length ∧
      measured.sustained = (decide (persistence.sustainedDays ≤ measured.consecutive) ||
        decide (persistence.sustainedEvents ≤ measured.windowCount)) ∧
      measured.sourceEventIds = events.map fun event => event.id.str := by
  obtain ⟨start, windowed, rest⟩ := Except.bind_eq_ok_iff.mp returned
  obtain ⟨materiality, -, built⟩ := Except.bind_eq_ok_iff.mp rest
  cases built
  exact ⟨start, windowStart_eq_ok_iff.mp windowed, rfl, longestConsecutiveDays_eq _, rfl, rfl, rfl⟩

/-- The measurements a refreshed row carries. -/
structure Carries (measured : Measurement) (before after : EvidenceItem) : Prop where
  identity : after.id = before.id ∧ after.borrowerId = before.borrowerId ∧
    after.facilityId = before.facilityId ∧ after.groupKey = before.groupKey
  firstSeen : ∀ day, measured.observedDates.head? = some day → after.firstSeen = day
  lastSeen : ∀ day, measured.observedDates.getLast? = some day → after.lastSeen = day
  persistenceDays : after.persistenceDays = some measured.consecutive
  eventCountWindow : after.eventCountWindow = some measured.windowCount
  state : after.state = measured.nextState
  sourceEventIds : after.sourceEventIds = measured.sourceEventIds

theorem refreshItem_eq_ok {persistence : PersistenceThresholds} {asOf : Date}
    {events : List SignalEvent} {item item' : EvidenceItem} {transition : Option EvidenceTransition}
    (returned : refreshItem persistence asOf events item = .ok (item', transition)) :
    ∃ measured, measure persistence asOf item.family (eventsOf events item.groupKey) = .ok measured ∧
      Carries measured item item' := by
  obtain ⟨measured, computed, rest⟩ := Except.bind_eq_ok_iff.mp returned
  refine ⟨measured, computed, ?_⟩
  split_ifs at rest with changed
  · cases rest
    exact {
      identity := ⟨rfl, rfl, rfl, rfl⟩
      firstSeen := fun day first => by simp [writeItem, first]
      lastSeen := fun day last => by simp [writeItem, last]
      persistenceDays := rfl, eventCountWindow := rfl, state := rfl, sourceEventIds := rfl }
  · cases rest
    simp only [isChanged, Bool.or_eq_true, bne_iff_ne, not_or, ne_eq, Decidable.not_not] at changed
    obtain ⟨⟨⟨⟨⟨⟨⟨first, last⟩, days⟩, count⟩, state⟩, -⟩, -⟩, ids⟩ := changed
    exact {
      identity := ⟨rfl, rfl, rfl, rfl⟩
      firstSeen := fun day known => by rw [first, known]; rfl
      lastSeen := fun day known => by rw [last, known]; rfl
      persistenceDays := days, eventCountWindow := count, state := state, sourceEventIds := ids }

/-- The events of the borrower that the refresh reads. -/
def readEvents (borrowerId : Uuid) (asOf : Date) (stored : List SignalEvent) : List SignalEvent :=
  stored.filter fun event => event.borrowerId = borrowerId && event.eventDate ≤ asOf

theorem refreshEvidence_eq_ok {persistence : PersistenceThresholds} {revise : LedgerRevision}
    {borrowerId : Uuid} {asOf : Date} {stored : List SignalEvent} {rows : List EvidenceItem}
    {result : List (EvidenceItem × Option EvidenceTransition)}
    (returned : refreshEvidence persistence revise borrowerId asOf stored rows = .ok result) :
    ∃ revised, revise (representatives (readEvents borrowerId asOf stored)) rows = .ok revised ∧
      List.Forall₂ (fun item written =>
          refreshItem persistence asOf (readEvents borrowerId asOf stored) item = .ok written)
        (revised.filter fun item => item.borrowerId = borrowerId && item.state != .superseded)
        result := by
  obtain ⟨revised, revision, passed⟩ := Except.bind_eq_ok_iff.mp returned
  exact ⟨revised, revision, mapM_eq_ok_iff.mp passed⟩

/-! ## Agreement with `score_persistence` -/

theorem january_valid (day : Fin 28) : 1 ≤ 2026 ∧ 2026 ≤ 9999 ∧ 1 ≤ 1 ∧ 1 ≤ 12 ∧
    1 ≤ day.val + 1 ∧ day.val + 1 ≤ daysInMonth 2026 1 := by
  have month : daysInMonth 2026 1 = 31 := rfl
  omega

/-- A day of January 2026, counted from zero. -/
def january (day : Fin 28) : Date := ⟨2026, 1, day.val + 1, january_valid day⟩

theorem january_first : 0 < 28 := by decide

theorem january_second : 1 < 28 := by decide

theorem briefThresholds_positive : 0 < 2 ∧ 0 < 5 ∧ 0 < 3 := by decide

theorem briefThresholds_ordered : 2 ≤ 3 := by decide

/-- Two days or five events, in a window of three days. -/
def briefThresholds : PersistenceThresholds :=
  ⟨2, 5, 3, briefThresholds_positive, briefThresholds_ordered⟩

/-- An adverse payment event. -/
def adversePayment (id facility : Nat) (day : Fin 28) : SignalEvent where
  id := Uuid.ofInt id
  borrowerId := Uuid.ofInt 1
  facilityId := some (Uuid.ofInt facility)
  eventDate := january day
  family := "payment".toList
  eventType := "payment_delay".toList
  magnitude := none
  payload := [("is_adverse".toList, .bool true)]

/-- The row that two adverse days have left, still transient. -/
def paymentItem (facility : Nat) : EvidenceItem where
  id := Uuid.ofInt (100 + facility)
  borrowerId := Uuid.ofInt 1
  facilityId := some (Uuid.ofInt facility)
  family := "payment".toList
  evidenceType := "payment_delay".toList
  firstSeen := january ⟨0, january_first⟩
  lastSeen := january ⟨1, january_second⟩
  persistenceDays := some 1
  eventCountWindow := some 1
  materialityPct := none
  decayFactor := none
  state := .transient
  countsTowardPressure := false
  sourceEventIds := [(Uuid.ofInt 11).str, (Uuid.ofInt 12).str]
  version := 1

end CovenantRadar.Nightly
