import CovenantRadar.Covenants.Schedule
import CovenantRadar.Python.Timedelta
import CovenantRadar.Signals.Persistence

/-!
# The longest run of consecutive days, twice

Source `domain/signals/evidence.py`: the run an evidence row is given, beside the run
`domain/signals/persistence.py` scores. The second counts ordinals; the first walks the calendar a
day before and a day past each block, and so leaves it at both ends.
-/

namespace CovenantRadar.Signals

open Covenants (lastDay toOrdinal_bounds toOrdinal_lastDay)

/-! ## Both ends of the calendar -/

theorem exists_next {d : Date} (earlier : d.toOrdinal < Date.maxOrdinal) :
    ∃ e, d.next = some e := by
  unfold Date.next
  split_ifs with inMonth inYear inRange
  · exact ⟨_, rfl⟩
  · exact ⟨_, rfl⟩
  · exact ⟨_, rfl⟩
  · have range := d.valid
    have year : d.year = 9999 := by omega
    have month : d.month = 12 := by omega
    have same : d = lastDay := by
      apply Date.ext year month
      rw [year, month] at inMonth range
      have days : daysInMonth 9999 12 = 31 := rfl
      have last : lastDay.day = 31 := rfl
      omega
    rw [same, toOrdinal_lastDay] at earlier
    exact absurd earlier (lt_irrefl _)

theorem exists_addDays {d : Date} {count : Nat} (within : d.toOrdinal + count ≤ Date.maxOrdinal) :
    ∃ e, d.addDays count = some e := by
  induction count with
  | zero => exact ⟨d, rfl⟩
  | succ count ih =>
    obtain ⟨middle, found⟩ := ih (by omega)
    have ordinal := Date.toOrdinal_addDays found
    obtain ⟨e, after⟩ := exists_next (show middle.toOrdinal < Date.maxOrdinal by omega)
    exact ⟨e, Option.bind_eq_some_iff.mpr ⟨middle, found, after⟩⟩

theorem firstDay_valid :
    1 ≤ 1 ∧ 1 ≤ 9999 ∧ 1 ≤ 1 ∧ 1 ≤ 12 ∧ 1 ≤ 1 ∧ 1 ≤ daysInMonth 1 1 := by decide

/-- `date.min`. -/
def firstDay : Date := ⟨1, 1, 1, firstDay_valid⟩

theorem toOrdinal_firstDay : firstDay.toOrdinal = 1 := by decide

/-! ## The evidence loop -/

/-- The ordinals of a set of dates. -/
def ordinalsOf (dates : List Date) : Set ℕ := {ordinal | ordinal ∈ dates.map Date.toOrdinal}

theorem toOrdinal_mem_iff {dates : List Date} {day : Date} :
    day.toOrdinal ∈ ordinalsOf dates ↔ day ∈ dates :=
  List.mem_map_of_injective Date.toOrdinal_strictMono.injective

/-- The inner loop of `_longest_consecutive_run`: days are added while they are in the set. -/
def extendDays (dates : List Date) (candidate : Date) (run : Nat) : Except PyError Nat :=
  match shifted : candidate.addDays run with
  | none => .error (.overflowError "date value out of range")
  | some day => if day ∈ dates then extendDays dates candidate (run + 1) else .ok run
termination_by Date.maxOrdinal + 1 - (candidate.toOrdinal + run)
decreasing_by
  have ordinal := Date.toOrdinal_addDays shifted
  have range := toOrdinal_bounds day
  omega

/-- The body of the outer loop of `_longest_consecutive_run`. -/
def longestStep (dates : List Date) (longest : Nat) (candidate : Date) : Except PyError Nat :=
  match candidate.subDays 1 with
  | none => .error (.overflowError "date value out of range")
  | some previous =>
    if previous ∈ dates then .ok longest
    else do
      let run ← extendDays dates candidate 1
      .ok (max longest run)

/-- Source `_longest_consecutive_run`. -/
def longestConsecutiveRun (dates : List Date) : Except PyError Nat :=
  (sortedSet dates).foldlM (longestStep dates) 0

theorem extendDays_eq_ok {dates : List Date} {candidate : Date} {run count : Nat}
    (returned : extendDays dates candidate run = .ok count) :
    run ≤ count ∧
      (∀ x, candidate.toOrdinal + run ≤ x → x < candidate.toOrdinal + count →
        x ∈ ordinalsOf dates) ∧
      candidate.toOrdinal + count ∉ ordinalsOf dates ∧
      candidate.toOrdinal + count ≤ Date.maxOrdinal := by
  fun_induction extendDays dates candidate run with
  | case1 run outside => cases returned
  | case2 run day shifted member ih =>
    obtain ⟨longer, all, stops, within⟩ := ih returned
    have ordinal := Date.toOrdinal_addDays shifted
    refine ⟨by omega, fun x lower upper => ?_, stops, within⟩
    by_cases first : x = candidate.toOrdinal + run
    · rw [first, ← ordinal]
      exact toOrdinal_mem_iff.mpr member
    · exact all x (by omega) upper
  | case3 run day shifted absent =>
    cases returned
    have ordinal := Date.toOrdinal_addDays shifted
    refine ⟨le_rfl, fun x lower upper => by omega, ?_, ?_⟩
    · rw [← ordinal]
      exact mt toOrdinal_mem_iff.mp absent
    · exact ordinal ▸ (toOrdinal_bounds day).2

/-- The inner loop ends short of the last day of the calendar, unless that is in the set. -/
theorem extendDays_returns {dates : List Date} {candidate : Date} {run : Nat}
    (last : lastDay ∉ dates) (within : candidate.toOrdinal + run ≤ Date.maxOrdinal) :
    ∃ count, extendDays dates candidate run = .ok count := by
  fun_induction extendDays dates candidate run with
  | case1 run outside =>
    obtain ⟨day, shifted⟩ := exists_addDays within
    rw [outside] at shifted
    cases shifted
  | case2 run day shifted member ih =>
    apply ih
    have ordinal := Date.toOrdinal_addDays shifted
    have other : day.toOrdinal ≠ Date.maxOrdinal := by
      intro same
      rw [← toOrdinal_lastDay] at same
      exact last (Date.toOrdinal_strictMono.injective same ▸ member)
    have range := toOrdinal_bounds day
    omega
  | case3 run day shifted absent => exact ⟨run, rfl⟩

/-- A date that starts a block of the set. -/
def StartsBlock (dates : List Date) (candidate : Date) : Prop :=
  candidate ∈ dates ∧ candidate.toOrdinal - 1 ∉ ordinalsOf dates

theorem zero_not_mem_ordinalsOf (dates : List Date) : 0 ∉ ordinalsOf dates := by
  intro member
  obtain ⟨day, _, none⟩ := List.mem_map.mp member
  have positive := Date.toOrdinal_pos day
  omega

/-- One turn of the outer loop: a date inside a block is passed over, the start of a block is
    measured. -/
theorem longestStep_eq_ok {dates : List Date} {longest next : Nat} {candidate : Date}
    (member : candidate ∈ dates) (returned : longestStep dates longest candidate = .ok next) :
    candidate ≠ firstDay ∧
      ((¬ StartsBlock dates candidate ∧ next = longest) ∨
        StartsBlock dates candidate ∧ ∃ run, extendDays dates candidate 1 = .ok run ∧
          next = max longest run) := by
  unfold longestStep at returned
  cases moved : candidate.subDays 1 with
  | none =>
    rw [moved] at returned
    cases returned
  | some previous =>
    rw [moved] at returned
    have ordinal := Date.toOrdinal_subDays moved
    have before : candidate.toOrdinal - 1 = previous.toOrdinal := by omega
    refine ⟨?_, ?_⟩
    · rintro rfl
      have positive := Date.toOrdinal_pos previous
      rw [toOrdinal_firstDay] at ordinal
      omega
    · simp only at returned
      split_ifs at returned with inside
      · cases returned
        left
        refine ⟨fun starts => starts.2 ?_, rfl⟩
        rw [before]
        exact toOrdinal_mem_iff.mpr inside
      · obtain ⟨run, extended, last⟩ := Except.bind_eq_ok_iff.mp returned
        cases last
        right
        refine ⟨⟨member, ?_⟩, run, extended, rfl⟩
        rw [before]
        exact mt toOrdinal_mem_iff.mp inside

theorem longestStep_returns {dates : List Date} {candidate : Date} (longest : Nat)
    (first : firstDay ∉ dates) (last : lastDay ∉ dates) (member : candidate ∈ dates) :
    ∃ next, longestStep dates longest candidate = .ok next := by
  have later : 1 < candidate.toOrdinal := by
    have positive := Date.toOrdinal_pos candidate
    by_contra start
    have same : candidate.toOrdinal = firstDay.toOrdinal := by
      rw [toOrdinal_firstDay]
      omega
    exact first (Date.toOrdinal_strictMono.injective same ▸ member)
  have before : candidate.toOrdinal + 1 ≤ Date.maxOrdinal := by
    have range := toOrdinal_bounds candidate
    by_contra finish
    have same : candidate.toOrdinal = lastDay.toOrdinal := by
      rw [toOrdinal_lastDay]
      omega
    exact last (Date.toOrdinal_strictMono.injective same ▸ member)
  obtain ⟨previous, moved⟩ := Date.exists_subDays later
  obtain ⟨run, extended⟩ := extendDays_returns last before
  unfold longestStep
  rw [moved]
  simp only
  split_ifs
  · exact ⟨longest, rfl⟩
  · rw [extended]
    exact ⟨max longest run, rfl⟩

/-- What the outer loop has measured: the longest of the blocks it has passed. -/
theorem foldlM_longestStep {dates candidates : List Date} {longest result : Nat}
    (within : ∀ candidate ∈ candidates, candidate ∈ dates)
    (returned : candidates.foldlM (longestStep dates) longest = .ok result) :
    (∀ candidate ∈ candidates, candidate ≠ firstDay) ∧
      longest ≤ result ∧
      (∀ candidate ∈ candidates, StartsBlock dates candidate →
        ∃ run, extendDays dates candidate 1 = .ok run ∧ run ≤ result) ∧
      (result = longest ∨ ∃ candidate ∈ candidates, extendDays dates candidate 1 = .ok result) := by
  induction candidates generalizing longest with
  | nil =>
    cases returned
    exact ⟨nofun, le_rfl, nofun, .inl rfl⟩
  | cons candidate rest ih =>
    obtain ⟨next, stepped, remaining⟩ := foldlM_cons_eq_ok_iff.mp returned
    obtain ⟨later, grown, measured, reached⟩ :=
      ih (fun day member => within day (List.mem_cons_of_mem _ member)) remaining
    obtain ⟨notFirst, outcome⟩ := longestStep_eq_ok (within candidate List.mem_cons_self) stepped
    refine ⟨?_, ?_, ?_, ?_⟩
    · intro day member
      rcases List.mem_cons.mp member with rfl | member
      · exact notFirst
      · exact later day member
    · rcases outcome with ⟨_, rfl⟩ | ⟨_, run, _, rfl⟩
      · exact grown
      · exact (le_max_left longest run).trans grown
    · intro day member starts
      rcases List.mem_cons.mp member with rfl | member
      · rcases outcome with ⟨inside, _⟩ | ⟨_, run, extended, rfl⟩
        · exact absurd starts inside
        · exact ⟨run, extended, (le_max_right longest run).trans grown⟩
      · exact measured day member starts
    · rcases reached with same | ⟨day, member, extended⟩
      · rcases outcome with ⟨_, rfl⟩ | ⟨_, run, extended, rfl⟩
        · exact .inl same
        · rcases max_choice longest run with kept | replaced
          · exact .inl (same.trans kept)
          · refine .inr ⟨candidate, List.mem_cons_self, ?_⟩
            rw [same, replaced]
            exact extended
      · exact .inr ⟨day, List.mem_cons_of_mem _ member, extended⟩

/-! ## Both runs are one -/

theorem lastDay_not_mem_of_ok {dates : List Date} {result : Nat}
    (returned : longestConsecutiveRun dates = .ok result) : lastDay ∉ dates := by
  intro member
  obtain ⟨_, _, measured, _⟩ := foldlM_longestStep (fun _ listed => mem_sortedSet.mp listed) returned
  have ends : ∀ x, Date.maxOrdinal ≤ x → x < Date.maxOrdinal + 1 → x ∈ ordinalsOf dates := by
    intro x lower upper
    have same : x = lastDay.toOrdinal := by
      rw [toOrdinal_lastDay]
      omega
    rw [same]
    exact toOrdinal_mem_iff.mpr member
  obtain ⟨start, earlier, alone, all⟩ := exists_blockStart (zero_not_mem_ordinalsOf dates)
    (Nat.lt_succ_self Date.maxOrdinal) ends
  obtain ⟨day, listed, rfl⟩ := List.mem_map.mp (all start le_rfl (by omega))
  obtain ⟨run, extended, _⟩ := measured day (mem_sortedSet.mpr listed) ⟨listed, alone⟩
  obtain ⟨_, _, stops, within⟩ := extendDays_eq_ok extended
  exact stops (all _ (by omega) (by omega))

/-- What the evidence loop returns is the longest run of the set. -/
theorem le_longestConsecutiveRun {dates : List Date} {result : Nat}
    (returned : longestConsecutiveRun dates = .ok result) (count : Nat) :
    count ≤ result ↔ HasRun (ordinalsOf dates) count := by
  obtain ⟨_, _, measured, reached⟩ :=
    foldlM_longestStep (fun _ listed => mem_sortedSet.mp listed) returned
  constructor
  · intro within
    rcases reached with none | ⟨candidate, listed, extended⟩
    · have zero : count = 0 := by omega
      exact zero ▸ HasRun.zero _
    · obtain ⟨_, all, _, _⟩ := extendDays_eq_ok extended
      refine HasRun.of_le within ⟨candidate.toOrdinal, fun x lower upper => ?_⟩
      by_cases first : x = candidate.toOrdinal
      · rw [first]
        exact toOrdinal_mem_iff.mpr (mem_sortedSet.mp listed)
      · exact all x (by omega) upper
  · rintro ⟨first, all⟩
    by_cases positive : 0 < count
    · obtain ⟨start, earlier, alone, whole⟩ := exists_blockStart (zero_not_mem_ordinalsOf dates)
        (Nat.lt_add_of_pos_right positive) all
      obtain ⟨day, listed, rfl⟩ := List.mem_map.mp (whole start le_rfl (by omega))
      obtain ⟨run, extended, bounded⟩ := measured day (mem_sortedSet.mpr listed) ⟨listed, alone⟩
      obtain ⟨_, _, stops, _⟩ := extendDays_eq_ok extended
      by_contra short
      exact stops (whole _ (by omega) (by omega))
    · omega

/-- The evidence loop measures what persistence scores, on every set of dates that leaves out
    both ends of the calendar, and on no other. -/
theorem longestConsecutiveRun_iff {dates : List Date} :
    longestConsecutiveRun dates = .ok (longestRunOfDates (sortedSet dates)) ↔
      firstDay ∉ dates ∧ lastDay ∉ dates := by
  constructor
  · intro returned
    obtain ⟨notFirst, _⟩ :=
      foldlM_longestStep (fun _ listed => mem_sortedSet.mp listed) returned
    refine ⟨fun member => ?_, lastDay_not_mem_of_ok returned⟩
    exact notFirst firstDay (mem_sortedSet.mpr member) rfl
  · rintro ⟨first, last⟩
    obtain ⟨result, returned⟩ : ∃ result, longestConsecutiveRun dates = .ok result := by
      apply foldlM_returns
      intro longest candidate member
      exact longestStep_returns longest first last (mem_sortedSet.mp member)
    have runs : ∀ count, HasRun (ordinalsOf dates) count ↔ HasDayRun (sortedSet dates) count := by
      intro count
      have same : ordinalsOf dates = {ordinal | ordinal ∈ (sortedSet dates).map Date.toOrdinal} := by
        ext ordinal
        simp only [ordinalsOf, Set.mem_ofPred_eq, List.mem_map, mem_sortedSet]
      unfold HasDayRun
      rw [same]
    rw [returned, longestRunOfDates_eq]
    refine congrArg Except.ok (le_antisymm ?_ ?_)
    · rw [le_longestRun_dates (sortedSet_pairwise dates), ← runs, ← le_longestConsecutiveRun returned]
    · rw [le_longestConsecutiveRun returned, runs, ← le_longestRun_dates (sortedSet_pairwise dates)]

/-! ## More events -/

section

variable {eventDates more eligible eligible' : List Date} {asOf : Date}
  {configured : PersistenceThresholds} {score : PersistenceScore}

theorem scorePersistence_eq_ok_iff :
    scorePersistence eventDates asOf configured = .ok score ↔
      ∃ eligible, datesInWindow (sortedSet eventDates) asOf configured.eventWindowDays =
          .ok eligible ∧
        score = ⟨asOf, longestRunOfDates eligible, eligible.length,
          decidePersistence (longestRunOfDates eligible) eligible.length configured, configured⟩ := by
  unfold scorePersistence
  rw [Except.bind_eq_ok_iff]
  refine exists_congr fun eligible => and_congr_right fun _ => ?_
  exact ⟨fun same => (Except.ok.inj same).symm, fun same => congrArg Except.ok same.symm⟩

theorem eligible_pairwise
    (chosen : datesInWindow (sortedSet eventDates) asOf configured.eventWindowDays = .ok eligible) :
    eligible.Pairwise (· < ·) := by
  obtain ⟨firstDate, _, rfl⟩ := datesInWindow_eq_ok_iff.mp chosen
  exact (sortedSet_pairwise eventDates).filter _

/-- Of more dates, more are in the window. -/
theorem datesInWindow_grows (within : ∀ day ∈ eventDates, day ∈ more)
    (chosen : datesInWindow (sortedSet eventDates) asOf configured.eventWindowDays = .ok eligible) :
    ∃ eligible', datesInWindow (sortedSet more) asOf configured.eventWindowDays = .ok eligible' ∧
      ∀ day ∈ eligible, day ∈ eligible' := by
  obtain ⟨firstDate, known, rfl⟩ := datesInWindow_eq_ok_iff.mp chosen
  refine ⟨_, datesInWindow_eq_ok_iff.mpr ⟨firstDate, known, rfl⟩, fun day member => ?_⟩
  obtain ⟨listed, inside⟩ := List.mem_filter.mp member
  exact List.mem_filter.mpr ⟨mem_sortedSet.mpr (within day (mem_sortedSet.mp listed)), inside⟩

/-- More dates never shorten the longest run, and never lower the count. -/
theorem measures_mono (within : ∀ day ∈ eligible, day ∈ eligible')
    (sorted : eligible.Pairwise (· < ·)) (sorted' : eligible'.Pairwise (· < ·)) :
    longestRunOfDates eligible ≤ longestRunOfDates eligible' ∧
      eligible.length ≤ eligible'.length := by
  constructor
  · rw [longestRunOfDates_eq, longestRunOfDates_eq, le_longestRun_dates sorted']
    exact ((le_longestRun_dates sorted _).mp le_rfl).mono within
  · have distinct : eligible.Nodup := sorted.imp ne_of_lt
    exact (distinct.subperm within).length_le

/-- Longer runs and higher counts fire an arm that fired before. -/
theorem decidePersistence_mono {days days' count count' : Nat} (longer : days ≤ days')
    (higher : count ≤ count') (fired : (decidePersistence days count configured).isSome = true) :
    (decidePersistence days' count' configured).isSome = true := by
  rw [decidePersistence_isSome, Bool.or_eq_true, decide_eq_true_eq, decide_eq_true_eq] at fired ⊢
  exact fired.imp longer.trans' higher.trans'

/-- Another event never lowers a measurement nor turns sustained evidence transient; and the
    evidence loop measures the same run on the dates in the window, exactly when neither end of
    the calendar is among them. -/
theorem scorePersistence_run_iff (scored : scorePersistence eventDates asOf configured = .ok score)
    (chosen : datesInWindow (sortedSet eventDates) asOf configured.eventWindowDays =
      .ok eligible) :
    (∀ added, ∃ score', scorePersistence (added :: eventDates) asOf configured = .ok score' ∧
      score.persistenceDays ≤ score'.persistenceDays ∧
      score.eventCountWindow ≤ score'.eventCountWindow ∧
      (score.sustained = true → score'.sustained = true)) ∧
    (longestConsecutiveRun eligible = .ok score.persistenceDays ↔
      firstDay ∉ eligible ∧ lastDay ∉ eligible) := by
  obtain ⟨chosen', measured, rfl⟩ := scorePersistence_eq_ok_iff.mp scored
  rw [chosen] at measured
  cases measured
  have sorted := eligible_pairwise chosen
  constructor
  · intro added
    obtain ⟨eligible', grown, within⟩ :=
      datesInWindow_grows (fun day member => List.mem_cons_of_mem added member) chosen
    obtain ⟨longer, higher⟩ := measures_mono within sorted (eligible_pairwise grown)
    exact ⟨_, scorePersistence_eq_ok_iff.mpr ⟨eligible', grown, rfl⟩, longer, higher,
      decidePersistence_mono longer higher⟩
  · rw [← longestConsecutiveRun_iff, eq_of_mem_iff (sortedSet_pairwise eligible) sorted
      fun _ => mem_sortedSet]

/-- An event on the first day of the calendar. -/
theorem firstDay_escapes :
    ¬ ∀ (eventDates eligible : List Date) (asOf : Date) (configured : PersistenceThresholds)
      (score : PersistenceScore), scorePersistence eventDates asOf configured = .ok score →
      datesInWindow (sortedSet eventDates) asOf configured.eventWindowDays = .ok eligible →
        longestConsecutiveRun eligible = .ok score.persistenceDays := by
  intro claimed
  have same := claimed [firstDay] [firstDay] firstDay ⟨1, 1, 1, by decide, le_rfl⟩
    ⟨firstDay, 1, 1, some .sustainedDays, ⟨1, 1, 1, by decide, le_rfl⟩⟩ rfl rfl
  cases same

/-- One event is a run of one day. -/
theorem scorePersistence_run_single :
    ∃ eventDates eligible asOf configured score,
      scorePersistence eventDates asOf configured = .ok score ∧
      (∀ added, ∃ score', scorePersistence (added :: eventDates) asOf configured = .ok score' ∧
        score.persistenceDays ≤ score'.persistenceDays ∧
        score.eventCountWindow ≤ score'.eventCountWindow ∧
        (score.sustained = true → score'.sustained = true)) ∧
      (longestConsecutiveRun eligible = .ok score.persistenceDays ↔
        firstDay ∉ eligible ∧ lastDay ∉ eligible) :=
  have may : 1 ≤ 2026 ∧ 2026 ≤ 9999 ∧ 1 ≤ 5 ∧ 5 ≤ 12 ∧ 1 ≤ 1 ∧ 1 ≤ daysInMonth 2026 5 := by decide
  ⟨[⟨2026, 5, 1, may⟩], [⟨2026, 5, 1, may⟩], ⟨2026, 5, 1, may⟩, ⟨1, 1, 1, by decide, le_rfl⟩,
    ⟨⟨2026, 5, 1, may⟩, 1, 1, some .sustainedDays, ⟨1, 1, 1, by decide, le_rfl⟩⟩, rfl,
    scorePersistence_run_iff rfl rfl⟩

end

end CovenantRadar.Signals
