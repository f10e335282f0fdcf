import CovenantRadar.Nightly.Persistence

/-!
# Facilities in the nightly refresh

A row is filled from the events of its family and type, whatever their facility.
-/

namespace CovenantRadar.Nightly

open CovenantRadar.Signals

/-- The stored events of a row's own identity, up to `as_of`. -/
def ownEvents (asOf : Date) (stored : List SignalEvent) (row : EvidenceItem) : List SignalEvent :=
  stored.filter fun event => event.borrowerId = row.borrowerId && event.eventDate ≤ asOf &&
    event.facilityId = row.facilityId && event.groupKey = row.groupKey

/-- A row whose counts, dates and source ids are those of these events. -/
structure FilledFrom (persistence : PersistenceThresholds) (asOf : Date)
    (events : List SignalEvent) (row : EvidenceItem) : Prop where
  sources : ∀ id, id ∈ row.sourceEventIds ↔ ∃ event ∈ events, event.id.str = id
  dates : events ≠ [] → row.firstSeen ∈ events.map (·.eventDate) ∧
    row.lastSeen ∈ events.map (·.eventDate) ∧
    ∀ event ∈ events, row.firstSeen ≤ event.eventDate ∧ event.eventDate ≤ row.lastSeen
  persistenceDays : row.persistenceDays =
    some (longestRun ((sortedSet (adverseDates events)).map Date.toOrdinal))
  eventCountWindow : ∃ start, asOf.subDays (persistence.eventWindowDays - 1) = some start ∧
    row.eventCountWindow = some (within start asOf (sortedSet (adverseDates events))).length

/-- Each row is filled from its own events only, and an event of some row's identity is
    counted by exactly one row. -/
structure Isolated (persistence : PersistenceThresholds) (asOf : Date) (stored : List SignalEvent)
    (rows : List EvidenceItem) : Prop where
  own : ∀ row ∈ rows, FilledFrom persistence asOf (ownEvents asOf stored row) row
  once : ∀ row ∈ rows, ∀ event ∈ ownEvents asOf stored row,
    ∃ holder ∈ rows, event.id.str ∈ holder.sourceEventIds ∧
      ∀ other ∈ rows, event.id.str ∈ other.sourceEventIds → other = holder

/-- The rows that the refresh rewrites. -/
def activeRows (borrowerId : Uuid) (revised : List EvidenceItem) : List EvidenceItem :=
  revised.filter fun item => item.borrowerId = borrowerId && item.state != .superseded

theorem head_mem_sortedSet {dates : List Date} {first last : Date}
    (head : (sortedSet dates).head? = some first) (tail : (sortedSet dates).getLast? = some last) :
    first ∈ dates ∧ last ∈ dates ∧ ∀ day ∈ dates, first ≤ day ∧ day ≤ last := by
  refine ⟨mem_sortedSet.mp (List.mem_of_mem_head? head),
    mem_sortedSet.mp (List.mem_of_mem_getLast? tail), fun day member => ?_⟩
  have sorted := sortedSet_pairwise dates
  have listed := mem_sortedSet.mpr member
  constructor
  · obtain ⟨rest, shape⟩ := List.head?_eq_some_iff.mp head
    rw [shape] at sorted listed
    rcases List.mem_cons.mp listed with same | later
    · exact same.ge
    · exact ((List.pairwise_cons.mp sorted).1 day later).le
  · obtain ⟨rest, shape⟩ := List.getLast?_eq_some_iff.mp tail
    rw [shape] at sorted listed
    rcases List.mem_append.mp listed with earlier | same
    · exact ((List.pairwise_append.mp sorted).2.2 day earlier last (List.mem_singleton_self _)).le
    · exact (List.mem_singleton.mp same).le

/-- What a refreshed row is filled from: the events of its group. -/
theorem refreshItem_filled {persistence : PersistenceThresholds} {asOf : Date}
    {events : List SignalEvent} {item item' : EvidenceItem} {transition : Option EvidenceTransition}
    (returned : refreshItem persistence asOf events item = .ok (item', transition)) :
    FilledFrom persistence asOf (eventsOf events item.groupKey) item' := by
  obtain ⟨measured, computed, carries⟩ := refreshItem_eq_ok returned
  obtain ⟨start, windowed, observed, consecutive, windowCount, -, sources⟩ := measure_eq_ok computed
  refine ⟨fun id => ?_, fun nonempty => ?_, ?_, start, windowed, ?_⟩
  · rw [carries.sourceEventIds, sources, List.mem_map]
  · have listed : measured.observedDates ≠ [] := by
      obtain ⟨event, member⟩ := List.exists_mem_of_ne_nil _ nonempty
      rw [observed]
      exact List.ne_nil_of_mem (mem_sortedSet.mpr (List.mem_map_of_mem member))
    obtain ⟨first, head⟩ : ∃ first, measured.observedDates.head? = some first :=
      ⟨_, List.head?_eq_some_head listed⟩
    obtain ⟨last, tail⟩ : ∃ last, measured.observedDates.getLast? = some last :=
      ⟨_, List.getLast?_eq_some_getLast listed⟩
    rw [carries.firstSeen _ head, carries.lastSeen _ tail]
    rw [observed] at head tail
    obtain ⟨firstIn, lastIn, between⟩ := head_mem_sortedSet head tail
    exact ⟨firstIn, lastIn, fun event member => between _ (List.mem_map_of_mem member)⟩
  · rw [carries.persistenceDays, consecutive]
  · rw [carries.eventCountWindow, windowCount]

theorem mem_ownEvents {borrowerId : Uuid} {asOf : Date} {stored : List SignalEvent}
    {row : EvidenceItem} {event : SignalEvent} (borrower : row.borrowerId = borrowerId) :
    event ∈ ownEvents asOf stored row ↔ event ∈ readEvents borrowerId asOf stored ∧
      event.facilityId = row.facilityId ∧ event.groupKey = row.groupKey := by
  simp only [ownEvents, readEvents, List.mem_filter, Bool.and_eq_true, decide_eq_true_eq, borrower]
  constructor
  · rintro ⟨member, ⟨⟨owner, past⟩, facility⟩, group⟩
    exact ⟨⟨member, owner, past⟩, facility, group⟩
  · rintro ⟨⟨member, owner, past⟩, facility, group⟩
    exact ⟨member, ⟨⟨owner, past⟩, facility⟩, group⟩

/-- A row on whose facility all events of its group lie has its group for its own events. -/
theorem ownEvents_eq {borrowerId : Uuid} {asOf : Date} {stored : List SignalEvent}
    {row : EvidenceItem} (borrower : row.borrowerId = borrowerId)
    (facility : ∀ event ∈ readEvents borrowerId asOf stored, event.groupKey = row.groupKey →
      event.facilityId = row.facilityId) :
    ownEvents asOf stored row = eventsOf (readEvents borrowerId asOf stored) row.groupKey := by
  unfold ownEvents eventsOf
  rw [readEvents, List.filter_filter]
  refine List.filter_congr fun event member => ?_
  rw [Bool.eq_iff_iff]
  simp only [Bool.and_eq_true, decide_eq_true_eq, borrower]
  constructor
  · rintro ⟨⟨⟨owner, past⟩, -⟩, group⟩
    exact ⟨group, owner, past⟩
  · rintro ⟨group, owner, past⟩
    have read : event ∈ readEvents borrowerId asOf stored :=
      List.mem_filter.mpr ⟨member, by simp [owner, past]⟩
    exact ⟨⟨⟨owner, past⟩, facility event read group⟩, group⟩

/-- After the refresh the rows are isolated exactly when, for each row the ledger's
    revision leaves active, the events of its family and type are all on its facility and
    no other active row has that family and type. -/
theorem refresh_isolated_iff {persistence : PersistenceThresholds} {revise : LedgerRevision}
    {borrowerId : Uuid} {asOf : Date} {stored : List SignalEvent} {rows revised : List EvidenceItem}
    {result : List (EvidenceItem × Option EvidenceTransition)}
    (eventKeys : (stored.map (·.id)).Nodup) (rowKeys : (revised.map (·.id)).Nodup)
    (revision : revise (representatives (readEvents borrowerId asOf stored)) rows = .ok revised)
    (returned : refreshEvidence persistence revise borrowerId asOf stored rows = .ok result) :
    Isolated persistence asOf stored (result.map Prod.fst) ↔
      ∀ row ∈ activeRows borrowerId revised, ∀ event ∈ readEvents borrowerId asOf stored,
        event.groupKey = row.groupKey → event.facilityId = row.facilityId ∧
          ∀ other ∈ activeRows borrowerId revised, other.groupKey = row.groupKey → other = row := by
  obtain ⟨revised', revision', pairs⟩ := refreshEvidence_eq_ok returned
  obtain rfl : revised' = revised := Except.ok.inj (revision'.symm.trans revision)
  obtain ⟨onward, back⟩ := forall₂_exists pairs
  have sameEvent {a b : SignalEvent} (listedA : a ∈ readEvents borrowerId asOf stored)
      (listedB : b ∈ readEvents borrowerId asOf stored) (same : a.id.str = b.id.str) : a = b :=
    List.inj_on_of_nodup_map eventKeys (List.mem_of_mem_filter listedA)
      (List.mem_of_mem_filter listedB) (Uuid.str_injective same)
  have borrowerOf {row : EvidenceItem} (active : row ∈ activeRows borrowerId revised') :
      row.borrowerId = borrowerId := by
    have passed := (List.mem_filter.mp active).2
    rw [Bool.and_eq_true, decide_eq_true_eq] at passed
    exact passed.1
  -- A refreshed row keeps its identity and holds the events of its group.
  have keeps {row after : EvidenceItem} {transition : Option EvidenceTransition}
      (written : refreshItem persistence asOf (readEvents borrowerId asOf stored) row =
        .ok (after, transition)) :
      after.id = row.id ∧ after.borrowerId = row.borrowerId ∧ after.facilityId = row.facilityId ∧
        after.groupKey = row.groupKey := by
    obtain ⟨measured, -, carries⟩ := refreshItem_eq_ok written
    exact carries.identity
  constructor
  · intro isolated row active event read group
    obtain ⟨⟨after, transition⟩, listed, written⟩ := onward row active
    have listed' : after ∈ result.map Prod.fst := List.mem_map_of_mem listed
    obtain ⟨-, borrower, facility, key⟩ := keeps written
    have held : event.id.str ∈ after.sourceEventIds :=
      ((refreshItem_filled written).sources _).mpr
        ⟨event, List.mem_filter.mpr ⟨read, by simpa using group⟩, rfl⟩
    obtain ⟨source, own, same⟩ := ((isolated.own after listed').sources _).mp held
    have ownRead := (mem_ownEvents (borrower.trans (borrowerOf active))).mp own
    obtain rfl : source = event := sameEvent ownRead.1 read same
    refine ⟨ownRead.2.1.trans facility, fun other otherActive otherGroup => ?_⟩
    obtain ⟨⟨after', transition'⟩, listedOther, writtenOther⟩ := onward other otherActive
    have heldOther : source.id.str ∈ after'.sourceEventIds :=
      ((refreshItem_filled writtenOther).sources _).mpr
        ⟨source, List.mem_filter.mpr ⟨read, by simpa using group.trans otherGroup.symm⟩, rfl⟩
    obtain ⟨holder, -, -, unique⟩ := isolated.once after listed' source own
    have merged : after' = after := (unique after' (List.mem_map_of_mem listedOther) heldOther).trans
      (unique after listed' held).symm
    have ids : other.id = row.id := by
      rw [← (keeps writtenOther).1, ← (keeps written).1, merged]
    exact List.inj_on_of_nodup_map rowKeys (List.mem_of_mem_filter otherActive)
      (List.mem_of_mem_filter active) ids
  · intro apart
    refine ⟨fun after listed => ?_, fun after listed event own => ?_⟩
    · obtain ⟨⟨after, transition⟩, member, rfl⟩ := List.mem_map.mp listed
      obtain ⟨row, active, written⟩ := back _ member
      obtain ⟨-, borrower, facility, key⟩ := keeps written
      have whole := @ownEvents_eq borrowerId asOf stored after (borrower.trans (borrowerOf active))
        (fun event read group =>
          ((apart row active event read (group.trans key)).1).trans facility.symm)
      rw [whole, key]
      exact refreshItem_filled written
    · obtain ⟨⟨after, transition⟩, member, rfl⟩ := List.mem_map.mp listed
      obtain ⟨row, active, written⟩ := back _ member
      obtain ⟨-, borrower, facility, key⟩ := keeps written
      obtain ⟨read, -, group⟩ := (mem_ownEvents (borrower.trans (borrowerOf active))).mp own
      have group' : event.groupKey = row.groupKey := group.trans key
      refine ⟨after, listed, ((refreshItem_filled written).sources _).mpr
        ⟨event, List.mem_filter.mpr ⟨read, by simpa using group'⟩, rfl⟩, fun other inside held => ?_⟩
      obtain ⟨⟨other, transition'⟩, otherMember, rfl⟩ := List.mem_map.mp inside
      obtain ⟨row', active', written'⟩ := back _ otherMember
      obtain ⟨source, inGroup, same⟩ := ((refreshItem_filled written').sources _).mp held
      obtain ⟨sourceRead, sourceGroup⟩ := List.mem_filter.mp inGroup
      obtain rfl : source = event := sameEvent sourceRead read same
      have keys : row'.groupKey = row.groupKey :=
        (decide_eq_true_eq.mp sourceGroup).symm.trans group'
      obtain rfl : row' = row := (apart row active source read group').2 row' active' keys
      exact congrArg Prod.fst (Except.ok.inj (written'.symm.trans written))

/-! ## Two facilities with one signal type -/

/-- An adverse payment on facility 5, and the day after one on facility 6. -/
def twoFacilities : List SignalEvent :=
  [adversePayment 11 5 ⟨0, january_first⟩, adversePayment 12 6 ⟨1, january_second⟩]

/-- The rows of the two facilities, each holding its own event. -/
def facilityItems : List EvidenceItem :=
  [{ paymentItem 5 with
      lastSeen := january ⟨0, january_first⟩, sourceEventIds := [(Uuid.ofInt 11).str] },
    { paymentItem 6 with
      firstSeen := january ⟨1, january_second⟩, sourceEventIds := [(Uuid.ofInt 12).str] }]

/-- What either row holds after the refresh of the second of January. -/
def mixedItem (facility : Nat) : EvidenceItem :=
  { paymentItem facility with
    persistenceDays := some 2, eventCountWindow := some 2, state := .sustained
    materialityPct := some (Decimal.ofInt 5), decayFactor := some (Decimal.ofInt 1)
    countsTowardPressure := true, version := 2 }

def sustainedTransition (facility : Nat) : EvidenceTransition :=
  ⟨Uuid.ofInt (100 + facility), .transient, .sustained, january ⟨1, january_second⟩,
    "T3.sustained_days_or_events".toList⟩

def mixedResult : List (EvidenceItem × Option EvidenceTransition) :=
  [(mixedItem 5, some (sustainedTransition 5)), (mixedItem 6, some (sustainedTransition 6))]

theorem refresh_twoFacilities :
    refreshEvidence briefThresholds (fun _ rows => .ok rows) (Uuid.ofInt 1) (january 1)
      twoFacilities facilityItems = .ok mixedResult := rfl

theorem refresh_isolated_iff_twoFacilities :
    Isolated briefThresholds (january 1) twoFacilities (mixedResult.map Prod.fst) ↔
      ∀ row ∈ activeRows (Uuid.ofInt 1) facilityItems,
        ∀ event ∈ readEvents (Uuid.ofInt 1) (january 1) twoFacilities,
          event.groupKey = row.groupKey → event.facilityId = row.facilityId ∧
            ∀ other ∈ activeRows (Uuid.ofInt 1) facilityItems,
              other.groupKey = row.groupKey → other = row :=
  refresh_isolated_iff (by decide) (by decide) rfl refresh_twoFacilities

/-- The row of facility 5 counts the event of facility 6. -/
theorem refresh_mixes_facilities :
    refreshEvidence briefThresholds (fun _ rows => .ok rows) (Uuid.ofInt 1) (january 1)
        twoFacilities facilityItems = .ok mixedResult ∧
      ¬ Isolated briefThresholds (january 1) twoFacilities (mixedResult.map Prod.fst) := by
  refine ⟨rfl, fun isolated => ?_⟩
  have held : (Uuid.ofInt 12).str ∈ (mixedItem 5).sourceEventIds := by decide
  obtain ⟨event, own, same⟩ :=
    ((isolated.own (mixedItem 5) (by simp [mixedResult])).sources _).mp held
  have alone : ownEvents (january 1) twoFacilities (mixedItem 5) = [adversePayment 11 5 0] := rfl
  rw [alone, List.mem_singleton] at own
  subst own
  exact absurd same (by decide)

end CovenantRadar.Nightly
