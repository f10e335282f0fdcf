import CovenantRadar.Ai.Budget
import CovenantRadar.Misc.Windows

/-!
# Runs of the budget

The ledger through any sequence of reservations and settlements. It discards the entries of earlier
months, and with them calls that still count in the hour or the day that runs over the first of a
month.
-/

namespace CovenantRadar

namespace Ai

/-! ## Calls one after the other -/

/-- A call of the ledger; a reservation with the identifier it is given. -/
inductive LedgerCall where
  | reserve (id : Uuid) (instant : UtcInstant) (estimatedCost : Cost)
  | settle (reservation : BudgetReservation) (actualCost : Option Cost)

/-- The entries, and the reservations granted so far. -/
structure Book where
  entries : List UsageEntry
  granted : List BudgetReservation

/-- One call. -/
def step (limits : BudgetLimits) (book : Book) : LedgerCall → Book
  | .reserve id instant estimatedCost =>
      match reserve limits book.entries id instant estimatedCost with
      | (.ok reservation, entries) => ⟨entries, book.granted ++ [reservation]⟩
      | (.error _, entries) => ⟨entries, book.granted⟩
  | .settle reservation actualCost =>
      ⟨(settle book.entries reservation actualCost).2, book.granted⟩

/-- The book after calls one after the other. -/
def run (limits : BudgetLimits) (calls : List LedgerCall) : Book :=
  calls.foldl (step limits) ⟨[], []⟩

/-- The identifier a call would reserve under. -/
def LedgerCall.reservedId : LedgerCall → Option Uuid
  | .reserve id _ _ => some id
  | .settle _ _ => none

/-- The instant of a reservation, in microseconds. -/
def LedgerCall.ticks : LedgerCall → Option Int
  | .reserve _ instant _ => some instant.ticks
  | .settle _ _ => none

/-- The instants of reservations, in microseconds. -/
def reservedTicks (granted : List BudgetReservation) : List Int :=
  granted.map fun reservation => reservation.reservedAt.ticks

/-- Every settlement with a valid cost goes through. -/
def CanSettle (entries : List UsageEntry) (reservation : BudgetReservation) : Prop :=
  ∀ actualCost cost, settledCost reservation actualCost = .ok cost →
    (settle entries reservation actualCost).1 = .ok cost

/-- What the ceilings promise: no hour and no day holds more reservations than its limit, and each
    reservation can be settled. -/
structure Promised (limits : BudgetLimits) (book : Book) : Prop where
  hourly : WithinLimit limits.callsPerHour hour (reservedTicks book.granted)
  daily : WithinLimit limits.callsPerDay day (reservedTicks book.granted)
  settles : ∀ reservation ∈ book.granted, CanSettle book.entries reservation

/-- No entry is from a month before the month of the call that is about to prune. -/
def SameMonthOnly (book : Book) : LedgerCall → Prop
  | .reserve _ instant estimatedCost =>
      (∃ cost, nonnegativeDecimal estimatedCost "estimated_cost" = .ok cost) →
        ∀ entry ∈ book.entries, (monthStart instant).ticks ≤ entry.occurredAt.ticks
  | .settle _ _ => True

/-! ## What one call does -/

/-- What stays of an entry when its cost is settled. -/
def UsageEntry.stamp (entry : UsageEntry) : Uuid × UtcInstant := (entry.id, entry.occurredAt)

/-- The entry a reservation leaves. -/
def BudgetReservation.stamp (reservation : BudgetReservation) : Uuid × UtcInstant :=
  (reservation.id, reservation.reservedAt)

theorem shifted_eq_ok {instant moved : UtcInstant} {delta : Int}
    (returned : shifted instant delta = .ok moved) : moved.ticks = instant.ticks + delta := by
  unfold shifted at returned
  split at returned
  · cases returned
  · next found =>
    cases returned
    exact UtcInstant.ticks_plus found

theorem entriesInWindow_eq_ok {entries found : List UsageEntry} {instant : UtcInstant}
    {window : Int} (returned : entriesInWindow entries instant window = .ok found) :
    found = entries.filter fun item =>
      decide (instant.ticks - window < item.occurredAt.ticks) := by
  obtain ⟨boundary, moved, returned⟩ := Except.bind_eq_ok_iff.mp returned
  cases returned
  rw [shifted_eq_ok moved]
  rfl

theorem callCeiling_eq_ok {dimension : Text} {limit : Nat} {window : Int}
    {entries : List UsageEntry} (passed : callCeiling dimension limit window entries = .ok ()) :
    entries.length < limit := by
  unfold callCeiling at passed
  split_ifs at passed with fewer
  · exact fewer
  · split at passed
    · cases passed
    · obtain ⟨_, _, impossible⟩ := Except.bind_eq_ok_iff.mp passed
      cases impossible

/-- The entries in the window that ends at an instant are fewer than the limit. -/
def RoomIn (limit : Nat) (window : Int) (instant : UtcInstant) (entries : List UsageEntry) : Prop :=
  (entries.filter fun item =>
    decide (instant.ticks - window < item.occurredAt.ticks)).length < limit

/-- An admitted call has room in its hour and in its day. -/
theorem admit_eq_ok {limits : BudgetLimits} {entries : List UsageEntry} {instant : UtcInstant}
    {cost : Decimal} (admitted : checkCeilings limits entries instant cost = .ok ()) :
    RoomIn limits.callsPerHour hour instant entries ∧
      RoomIn limits.callsPerDay day instant entries := by
  obtain ⟨hourEntries, inHour, admitted⟩ := Except.bind_eq_ok_iff.mp admitted
  obtain ⟨dayEntries, inDay, admitted⟩ := Except.bind_eq_ok_iff.mp admitted
  obtain ⟨_, hourly, admitted⟩ := Except.bind_eq_ok_iff.mp admitted
  obtain ⟨_, daily, _⟩ := Except.bind_eq_ok_iff.mp admitted
  have fewerHour := callCeiling_eq_ok hourly
  have fewerDay := callCeiling_eq_ok daily
  rw [entriesInWindow_eq_ok inHour] at fewerHour
  rw [entriesInWindow_eq_ok inDay] at fewerDay
  exact ⟨fewerHour, fewerDay⟩

/-- What a reservation does: nothing, for a cost it rejects; else it prunes, and a granted one is
    entered behind the entries kept. -/
theorem step_reserve_cases (limits : BudgetLimits) (book : Book) (id : Uuid) (instant : UtcInstant)
    (estimatedCost : Cost) :
    (step limits book (.reserve id instant estimatedCost) = book ∧
      ∀ cost, nonnegativeDecimal estimatedCost "estimated_cost" ≠ .ok cost) ∨
    (∃ cost, nonnegativeDecimal estimatedCost "estimated_cost" = .ok cost ∧
      step limits book (.reserve id instant estimatedCost) =
        ⟨prune instant book.entries, book.granted⟩) ∨
    (∃ cost, nonnegativeDecimal estimatedCost "estimated_cost" = .ok cost ∧
      RoomIn limits.callsPerHour hour instant (prune instant book.entries) ∧
      RoomIn limits.callsPerDay day instant (prune instant book.entries) ∧
      step limits book (.reserve id instant estimatedCost) =
        ⟨prune instant book.entries ++ [⟨id, instant, cost⟩],
          book.granted ++ [⟨id, instant, cost, limits.currency⟩]⟩) := by
  cases valid : nonnegativeDecimal estimatedCost "estimated_cost" with
  | error error =>
    refine .inl ⟨?_, fun cost impossible => by cases impossible⟩
    simp [step, reserve, valid]
  | ok cost =>
    cases admitted : checkCeilings limits (prune instant book.entries) instant cost with
    | error refusal => exact .inr (.inl ⟨cost, rfl, by simp [step, reserve, valid, admitted]⟩)
    | ok done =>
      obtain ⟨hourly, daily⟩ := admit_eq_ok admitted
      exact .inr (.inr ⟨cost, rfl, hourly, daily, by simp [step, reserve, valid, admitted]⟩)

/-- Replacing a cost succeeds where there is an entry, and leaves the rest of the entries. -/
theorem replaceCost_isSome_iff {id : Uuid} {cost : Decimal} {entries : List UsageEntry} :
    (replaceCost id cost entries).isSome = true ↔ id ∈ entries.map UsageEntry.id := by
  induction entries with
  | nil => simp [replaceCost]
  | cons entry entries ih =>
    simp only [replaceCost, List.map_cons, List.mem_cons]
    by_cases here : entry.id = id
    · simp [here]
    · rw [if_neg here, Option.isSome_map, ih]
      simp [Ne.symm here]

theorem stamp_replaceCost {id : Uuid} {cost : Decimal} {entries replaced : List UsageEntry}
    (found : replaceCost id cost entries = some replaced) :
    replaced.map UsageEntry.stamp = entries.map UsageEntry.stamp := by
  induction entries generalizing replaced with
  | nil => cases found
  | cons entry entries ih =>
    simp only [replaceCost] at found
    split_ifs at found
    · cases found
      rfl
    · obtain ⟨rest, foundRest, rfl⟩ := Option.map_eq_some_iff.mp found
      rw [List.map_cons, List.map_cons, ih foundRest]

/-- A settlement changes costs only. -/
theorem stamp_settle (entries : List UsageEntry) (reservation : BudgetReservation)
    (actualCost : Option Cost) :
    (settle entries reservation actualCost).2.map UsageEntry.stamp =
      entries.map UsageEntry.stamp := by
  unfold settle
  split
  · rfl
  · split
    · rfl
    · next found => exact stamp_replaceCost found

/-- A reservation can be settled where its entry is still there. -/
theorem canSettle_iff {entries : List UsageEntry} {reservation : BudgetReservation} :
    CanSettle entries reservation ↔ reservation.id ∈ entries.map UsageEntry.id := by
  have settles : ∀ actualCost cost, settledCost reservation actualCost = .ok cost →
      ((settle entries reservation actualCost).1 = .ok cost ↔
        reservation.id ∈ entries.map UsageEntry.id) := by
    intro actualCost cost valid
    rw [← @replaceCost_isSome_iff reservation.id cost entries]
    cases found : replaceCost reservation.id cost entries with
    | none => simp [settle, valid, found]
    | some replaced => simp [settle, valid, found]
  constructor
  · intro can
    exact (settles none _ rfl).mp (can none _ rfl)
  · intro present actualCost cost valid
    exact (settles actualCost cost valid).mpr present

/-! ## What holds of every run -/

theorem run_append_singleton (limits : BudgetLimits) (calls : List LedgerCall) (call : LedgerCall) :
    run limits (calls ++ [call]) = step limits (run limits calls) call := by
  simp [run]

/-- The entries are those of the last reservations granted, and the reservations come from the
    calls, in their order. -/
structure Orderly (book : Book) (calls : List LedgerCall) : Prop where
  kept : book.entries.map UsageEntry.stamp <:+ book.granted.map BudgetReservation.stamp
  ids : (book.granted.map BudgetReservation.id).Sublist (calls.filterMap LedgerCall.reservedId)
  instants : (reservedTicks book.granted).Sublist (calls.filterMap LedgerCall.ticks)

theorem stamp_prune_suffix (instant : UtcInstant) (entries : List UsageEntry) :
    (prune instant entries).map UsageEntry.stamp <:+ entries.map UsageEntry.stamp :=
  (List.dropWhile_suffix _).map _

theorem orderly_step {limits : BudgetLimits} {book : Book} {calls : List LedgerCall}
    (orderly : Orderly book calls) (call : LedgerCall) :
    Orderly (step limits book call) (calls ++ [call]) := by
  have ids := orderly.ids.trans (List.sublist_append_left _ ([call].filterMap LedgerCall.reservedId))
  have instants := orderly.instants.trans (List.sublist_append_left _ ([call].filterMap LedgerCall.ticks))
  rw [← List.filterMap_append] at ids instants
  cases call with
  | settle reservation actualCost =>
    refine ⟨?_, ids, instants⟩
    show (settle book.entries reservation actualCost).2.map UsageEntry.stamp <:+ _
    rw [stamp_settle]
    exact orderly.kept
  | reserve id instant estimatedCost =>
    have pruned := (stamp_prune_suffix instant book.entries).trans orderly.kept
    obtain ⟨unchanged, _⟩ | ⟨cost, _, refused⟩ | ⟨cost, _, _, _, granted⟩ :=
      step_reserve_cases limits book id instant estimatedCost
    · rw [unchanged]
      exact ⟨orderly.kept, ids, instants⟩
    · rw [refused]
      exact ⟨pruned, ids, instants⟩
    · rw [granted]
      refine ⟨?_, ?_, ?_⟩
      · obtain ⟨before, same⟩ := pruned
        refine ⟨before, ?_⟩
        rw [List.map_append, List.map_append, ← List.append_assoc, same]
        rfl
      · rw [List.map_append, List.filterMap_append]
        exact orderly.ids.append (List.Sublist.refl _)
      · rw [reservedTicks, List.map_append, List.filterMap_append]
        exact orderly.instants.append (List.Sublist.refl _)

theorem orderly_run (limits : BudgetLimits) (calls : List LedgerCall) :
    Orderly (run limits calls) calls := by
  induction calls using List.reverseRecOn with
  | nil => exact ⟨List.suffix_refl _, List.Sublist.refl _, List.Sublist.refl _⟩
  | append_singleton calls call ih =>
    rw [run_append_singleton]
    exact orderly_step ih call

/-- The identifiers of the entries, read off their stamps. -/
theorem ids_entries (entries : List UsageEntry) :
    entries.map UsageEntry.id = (entries.map UsageEntry.stamp).map Prod.fst := by
  rw [List.map_map]
  rfl

theorem ids_granted (granted : List BudgetReservation) :
    granted.map BudgetReservation.id = (granted.map BudgetReservation.stamp).map Prod.fst := by
  rw [List.map_map]
  rfl

theorem ticks_granted (granted : List BudgetReservation) : reservedTicks granted =
    (granted.map BudgetReservation.stamp).map fun stamp => stamp.2.ticks := by
  rw [List.map_map]
  rfl

/-! ## While nothing is pruned -/

/-- Every reservation granted has its entry. -/
def Complete (book : Book) : Prop :=
  book.entries.map UsageEntry.stamp = book.granted.map BudgetReservation.stamp

theorem prune_eq_self {book : Book} {id : Uuid} {instant : UtcInstant} {estimatedCost : Cost}
    {cost : Decimal} (current : SameMonthOnly book (.reserve id instant estimatedCost))
    (valid : nonnegativeDecimal estimatedCost "estimated_cost" = .ok cost) :
    prune instant book.entries = book.entries := by
  have recent := current ⟨cost, valid⟩
  unfold prune
  cases listed : book.entries with
  | nil => rfl
  | cons entry entries =>
    rw [List.dropWhile_cons_of_neg]
    have := recent entry (by simp [listed])
    simpa using this

/-- The room in a window, counted in the reservations. -/
theorem room_granted {book : Book} {limit : Nat} {window : Int} {instant : UtcInstant}
    (complete : Complete book) (room : RoomIn limit window instant book.entries) :
    ((reservedTicks book.granted).filter fun earlier =>
      decide (instant.ticks - window < earlier)).length < limit := by
  rw [ticks_granted, ← complete, List.map_map, List.filter_map, List.length_map]
  exact room

theorem canSettle_of_complete {book : Book} (complete : Complete book) :
    ∀ reservation ∈ book.granted, CanSettle book.entries reservation := by
  intro reservation granted
  rw [canSettle_iff, ids_entries, complete, ← ids_granted]
  exact List.mem_map_of_mem granted

/-- One call that prunes nothing keeps the promise. -/
theorem promised_step {limits : BudgetLimits} {book : Book} {call : LedgerCall}
    (complete : Complete book) (promised : Promised limits book)
    (current : SameMonthOnly book call) :
    Complete (step limits book call) ∧ Promised limits (step limits book call) := by
  cases call with
  | settle reservation actualCost =>
    have completed : Complete (step limits book (.settle reservation actualCost)) := by
      show (settle book.entries reservation actualCost).2.map UsageEntry.stamp = _
      rw [stamp_settle]
      exact complete
    exact ⟨completed, promised.hourly, promised.daily, canSettle_of_complete completed⟩
  | reserve id instant estimatedCost =>
    obtain ⟨unchanged, _⟩ | ⟨cost, valid, refused⟩ | ⟨cost, valid, hourly, daily, granted⟩ :=
      step_reserve_cases limits book id instant estimatedCost
    · rw [unchanged]
      exact ⟨complete, promised⟩
    · rw [refused, prune_eq_self current valid]
      exact ⟨complete, promised⟩
    · rw [prune_eq_self current valid] at hourly daily granted
      have completed : Complete (step limits book (.reserve id instant estimatedCost)) := by
        rw [granted]
        unfold Complete
        rw [List.map_append, List.map_append, complete]
        rfl
      refine ⟨completed, ?_, ?_, canSettle_of_complete completed⟩
      all_goals
        rw [granted, reservedTicks, List.map_append]
      · exact promised.hourly.append (room_granted complete hourly)
      · exact promised.daily.append (room_granted complete daily)

/-- A call that prunes an entry breaks the promise: its reservation can no longer be settled. -/
theorem not_promised_of_pruned {limits : BudgetLimits} {book : Book} {calls : List LedgerCall}
    {call : LedgerCall} (orderly : Orderly book calls)
    (fresh : ((calls ++ [call]).filterMap LedgerCall.reservedId).Nodup)
    (ordered : (calls.filterMap LedgerCall.ticks).Pairwise (· ≤ ·))
    (stale : ¬ SameMonthOnly book call) : ¬ Promised limits (step limits book call) := by
  intro promised
  cases call with
  | settle reservation actualCost => exact stale trivial
  | reserve id instant estimatedCost =>
    simp only [SameMonthOnly, not_forall] at stale
    obtain ⟨⟨cost, valid⟩, entry, listed, early⟩ := stale
    -- the first entry is no later than the stale one, so it is pruned
    obtain ⟨first, rest, shape⟩ := List.exists_cons_of_ne_nil (List.ne_nil_of_mem listed)
    have stamps := orderly.kept
    have sorted : (book.entries.map fun entry => entry.occurredAt.ticks).Pairwise (· ≤ ·) := by
      have granted := (ordered.sublist orderly.instants)
      rw [ticks_granted] at granted
      have entries := granted.sublist (stamps.sublist.map fun stamp => stamp.2.ticks)
      rwa [List.map_map] at entries
    rw [shape] at sorted listed stamps
    have firstEarly : first.occurredAt.ticks < (monthStart instant).ticks := by
      have early := not_le.mp early
      rcases List.mem_cons.mp listed with rfl | later
      · exact early
      · have := (List.pairwise_cons.mp sorted).1 _ (List.mem_map_of_mem later)
        exact this.trans_lt early
    have pruned : (prune instant book.entries).Sublist rest := by
      have dropped : prune instant (first :: rest) = prune instant rest :=
        List.dropWhile_cons_of_pos (by simpa using firstEarly)
      rw [shape, dropped]
      exact List.dropWhile_sublist _
    -- its reservation was granted, and neither a kept entry nor the new one has its identifier
    obtain ⟨reservation, granted, same⟩ := List.mem_map.mp (stamps.subset List.mem_cons_self)
    have sameId : reservation.id = first.id := congrArg Prod.fst same
    have distinct : ((first :: rest).map UsageEntry.id).Nodup := by
      rw [ids_entries]
      refine List.Nodup.sublist (stamps.sublist.map Prod.fst) ?_
      rw [← ids_granted]
      refine (List.Nodup.sublist orderly.ids ?_)
      rw [List.filterMap_append] at fresh
      exact fresh.of_append_left
    have unkept : first.id ∉ (prune instant book.entries).map UsageEntry.id := fun kept =>
      (List.nodup_cons.mp distinct).1 ((pruned.map _).subset kept)
    have other : first.id ≠ id := by
      rintro rfl
      rw [List.filterMap_append] at fresh
      refine List.disjoint_of_nodup_append fresh ?_ (List.mem_singleton_self _)
      rw [← sameId]
      exact orderly.ids.subset (List.mem_map_of_mem granted)
    obtain ⟨_, invalid⟩ | ⟨_, _, refused⟩ | ⟨_, _, _, _, accepted⟩ :=
      step_reserve_cases limits book id instant estimatedCost
    · exact invalid cost valid
    · rw [refused] at promised
      have present := canSettle_iff.mp (promised.settles reservation granted)
      rw [sameId] at present
      exact unkept present
    · rw [accepted] at promised
      have present := canSettle_iff.mp
        (promised.settles reservation (List.mem_append_left _ granted))
      rw [sameId, List.map_append, List.mem_append] at present
      rcases present with kept | new
      · exact unkept kept
      · exact other (List.mem_singleton.mp new)

/-! ## The ceilings over a run -/

/-- No reservation of the calls comes upon an entry of an earlier month. -/
def WithinMonths (limits : BudgetLimits) (calls : List LedgerCall) : Prop :=
  ∀ before call after, calls = before ++ call :: after → SameMonthOnly (run limits before) call

/-- While every reservation comes upon entries of its own month only, the ceilings and the
    settlements hold. -/
theorem promised_of_withinMonths {limits : BudgetLimits} {calls : List LedgerCall}
    (within : WithinMonths limits calls) :
    Complete (run limits calls) ∧ Promised limits (run limits calls) := by
  induction calls using List.reverseRecOn with
  | nil =>
    exact ⟨rfl, withinLimit_nil _ _, withinLimit_nil _ _, fun _ granted =>
      absurd granted List.not_mem_nil⟩
  | append_singleton calls call ih =>
    obtain ⟨complete, promised⟩ := ih fun before earlier after shape =>
      within before earlier (after ++ [call]) (by rw [shape]; simp)
    rw [run_append_singleton]
    exact promised_step complete promised (within calls call [] rfl)

/-- The hourly and the daily ceiling hold and every reservation can be settled, after every call,
    exactly if no reservation comes upon an entry of an earlier month. -/
theorem promised_iff_withinMonths (limits : BudgetLimits) (calls : List LedgerCall)
    (fresh : (calls.filterMap LedgerCall.reservedId).Nodup)
    (ordered : (calls.filterMap LedgerCall.ticks).Pairwise (· ≤ ·)) :
    (∀ before after, calls = before ++ after → Promised limits (run limits before)) ↔
      WithinMonths limits calls := by
  constructor
  · intro promised before call after shape
    by_contra stale
    have parts : calls = (before ++ [call]) ++ after := by rw [shape]; simp
    rw [parts, List.filterMap_append] at fresh ordered
    have orderedBefore := (List.pairwise_append.mp ordered).1
    rw [List.filterMap_append] at orderedBefore
    have broken : ¬ Promised limits (step limits (run limits before) call) :=
      not_promised_of_pruned (orderly_run limits before) fresh.of_append_left
        (List.pairwise_append.mp orderedBefore).1 stale
    rw [← run_append_singleton] at broken
    exact broken (promised _ after parts)
  · rintro within before after rfl
    refine (promised_of_withinMonths ?_).2
    intro first call rest shape
    exact within first call (rest ++ after) (by rw [shape]; simp)

/-! ## A month's end -/

/-- One call in an hour and in a day. -/
def oneCall : BudgetLimits where
  callsPerHour := 1
  callsPerDay := 1
  monthlyBudget := none
  currency := "INR".toList
  positive := Nat.one_pos
  ordered := Nat.one_pos
  spendable := nofun
  code := rfl

theorem lastOfMay_valid : 1 ≤ 2026 ∧ 2026 ≤ 9999 ∧ 1 ≤ 5 ∧ 5 ≤ 12 ∧
    1 ≤ 31 ∧ 31 ≤ daysInMonth 2026 5 := by decide

theorem lastMinute_inDay : 86340 * 10 ^ 6 < dayMicroseconds := by decide

/-- 31 May 2026, 23:59. -/
def lastMinute : UtcInstant := ⟨⟨2026, 5, 31, lastOfMay_valid⟩, 86340 * 10 ^ 6, lastMinute_inDay⟩

theorem firstOfJune_valid : 1 ≤ 2026 ∧ 2026 ≤ 9999 ∧ 1 ≤ 6 ∧ 6 ≤ 12 ∧
    1 ≤ 1 ∧ 1 ≤ daysInMonth 2026 6 := by decide

/-- 1 June 2026, 00:00. -/
def firstMinute : UtcInstant := ⟨⟨2026, 6, 1, firstOfJune_valid⟩, 0, midnight_inDay⟩

/-- Two reservations a minute apart, in two months. -/
def acrossMonths : List LedgerCall :=
  [.reserve (Uuid.ofInt 1) lastMinute (.int 0), .reserve (Uuid.ofInt 2) firstMinute (.int 0)]

theorem promised_acrossMonths_one :
    (∀ before after, acrossMonths.take 1 = before ++ after →
      Promised oneCall (run oneCall before)) ↔ WithinMonths oneCall (acrossMonths.take 1) :=
  promised_iff_withinMonths oneCall (acrossMonths.take 1) (by decide) (by decide)

/-- Both reservations of the one call an hour and a day allows are granted. -/
theorem month_start_resets_the_hour : ¬ ∀ (limits : BudgetLimits) (calls : List LedgerCall),
    (calls.filterMap LedgerCall.reservedId).Nodup →
    (calls.filterMap LedgerCall.ticks).Pairwise (· ≤ ·) →
    ∀ before after, calls = before ++ after → Promised limits (run limits before) := by
  intro claim
  have promised := claim oneCall acrossMonths (by decide) (by decide) acrossMonths [] rfl
  have both : (inWindow hour firstMinute.ticks
      (reservedTicks (run oneCall acrossMonths).granted)).length = 2 := by decide +kernel
  have one := promised.hourly firstMinute.ticks
  rw [both] at one
  exact absurd one (by decide)

end Ai

end CovenantRadar
