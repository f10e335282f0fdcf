import CovenantRadar.Core.DomainErrors
import CovenantRadar.Covenants.Calendar

/-!
# Cure periods

Source `domain/covenants/cure.py`: the check of a cure window against the testing
frequency. The check counts nominal periods, the calendar real ones.
-/

namespace CovenantRadar

namespace Covenants

/-- Source `FREQUENCY_WINDOW_DAYS`. -/
def frequencyWindowDays : List (Text × Nat) :=
  [("monthly".toList, 30), ("quarterly".toList, 90), ("half_yearly".toList, 180),
    ("annual".toList, 365)]

/-- Source `validate_cure_period`. -/
def validateCurePeriod (frequency : Text) (cureDays : Option Int) : Except ValidationError Unit :=
  if frequency = [] then
    .error ⟨"covenant_version.frequency is required.".toList, "frequency".toList⟩
  else
    match cureDays with
    | none => .ok ()
    | some days =>
      if days < 0 then
        .error ⟨"covenant_version.cure_days must be a non-negative ".toList ++
          "integer or null.".toList, "cure_days".toList⟩
      else if days = 0 ∨ frequency = "on_event".toList then .ok ()
      else
        match dictGet frequencyWindowDays frequency with
        | none => .error ⟨"Cannot validate cure period for unknown frequency ".toList ++
            Text.repr frequency ++ ".".toList, "frequency".toList⟩
        | some window =>
          if days < window then
            .error ⟨"The ".toList ++ frequency ++ " testing frequency is longer than the ".toList ++
              Text.ofInt days ++ "-day cure window; ".toList ++
              "a cure window must reach a possible retest.".toList, "cure_days".toList⟩
          else .ok ()

/-- A positive cure window is accepted on the nominal length of a period. -/
theorem window_of_validateCurePeriod {frequency : Text} {days : Int} (positive : 0 < days)
    (accepted : validateCurePeriod frequency (some days) = .ok ()) :
    frequency = "on_event".toList ∨ ∃ window, (frequency, window) ∈ frequencyWindowDays ∧
      (window : Int) ≤ days := by
  unfold validateCurePeriod at accepted
  split_ifs at accepted with blank
  simp only at accepted
  split_ifs at accepted with negative free
  · exact Or.inl (free.resolve_left (by omega))
  · cases found : dictGet frequencyWindowDays frequency with
    | none =>
      rw [found] at accepted
      cases accepted
    | some window =>
      rw [found] at accepted
      simp only at accepted
      split_ifs at accepted with short
      exact Or.inr ⟨window, mem_of_dictGet found, not_lt.mp short⟩

/-! ## Real periods -/

/-- The days of the longest period of the frequency. Fiscal years that start in April,
    June, October or December have no half of 184 days. -/
def longestPeriod (frequency : Text) (fiscalYearStartMonth : Int) : Nat :=
  if frequency = "monthly".toList then 31
  else if frequency = "quarterly".toList then 92
  else if frequency = "half_yearly".toList then
    if fiscalYearStartMonth % 6 = 4 ∨ fiscalYearStartMonth % 6 = 0 then 183 else 184
  else 366

/-- From a boundary the cure window reaches the next one, wherever the range is taken. -/
def ReachesRetest (frequency : Text) (fiscalYearStartMonth cureDays : Int) : Prop :=
  ∀ start finish front before after back,
    periodEndDates frequency fiscalYearStartMonth start finish =
      .ok (front ++ before :: after :: back) →
    (after.toOrdinal : Int) ≤ before.toOrdinal + cureDays

/-- The days of `cycle` months after the month with this residue, in a leap year. -/
def longCycle (cycle residue : Nat) : Nat :=
  ((List.range cycle).map fun k => Date.longMonth (residue + 1 + k)).sum

private theorem longCycle_bounds :
    (∀ residue < 12, longCycle 1 residue ≤ 31) ∧ (∀ residue < 12, longCycle 3 residue ≤ 92) ∧
      (∀ residue < 12, longCycle 6 residue ≤ 184) ∧
      (∀ residue < 12, residue % 6 = 2 ∨ residue % 6 = 4 → longCycle 6 residue ≤ 183) ∧
      ∀ residue < 12, longCycle 12 residue ≤ 366 := by decide +kernel

/-- No period is longer than the longest one. -/
theorem period_le_longest {frequency : Text} {fiscalYearStartMonth : Int}
    {start finish before after : Date} {front back : List Date}
    (returned : periodEndDates frequency fiscalYearStartMonth start finish =
      .ok (front ++ before :: after :: back)) :
    after.toOrdinal ≤ before.toOrdinal + longestPeriod frequency fiscalYearStartMonth := by
  obtain ⟨cycle, known, endBefore, endAfter, index, closes⟩ := periodEndDates_consecutive returned
  have days := (Date.endOrdinal_add before.monthIndex_bounds.1 cycle).2
  rw [← index, ← Date.toOrdinal_of_isMonthEnd endBefore, ← Date.toOrdinal_of_isMonthEnd endAfter]
    at days
  have residue : before.monthIndex % 12 < 12 := Nat.mod_lt _ (by decide)
  obtain ⟨month, quarter, half, shortHalf, year⟩ := longCycle_bounds
  refine le_trans days (Nat.add_le_add_left ?_ _)
  simp only [cycleMonths, List.mem_cons, List.not_mem_nil, or_false, Prod.mk.injEq] at known
  rcases known with ⟨rfl, rfl⟩ | ⟨rfl, rfl⟩ | ⟨rfl, rfl⟩ | ⟨rfl, rfl⟩
  · exact month _ residue
  · exact quarter _ residue
  · have start := after.month_of_monthIndex
    unfold ClosesPeriod at closes
    have either : longestPeriod "half_yearly".toList fiscalYearStartMonth =
        if fiscalYearStartMonth % 6 = 4 ∨ fiscalYearStartMonth % 6 = 0 then 183 else 184 := rfl
    rw [either]
    by_cases early : fiscalYearStartMonth % 6 = 4 ∨ fiscalYearStartMonth % 6 = 0
    · rw [if_pos early]
      exact shortHalf _ residue (by omega)
    · rw [if_neg early]
      exact half _ residue
  · exact year _ residue

/-- Neighbours of a list are found in it one after the other. -/
theorem exists_append_of_mem_zip_tail {α : Type} {a b : α} {xs : List α}
    (neighbours : (a, b) ∈ xs.zip xs.tail) : ∃ front back, xs = front ++ a :: b :: back := by
  induction xs with
  | nil => cases neighbours
  | cons x xs ih =>
    cases xs with
    | nil => cases neighbours
    | cons y ys =>
      simp only [List.tail_cons, List.zip_cons_cons, List.mem_cons, Prod.mk.injEq] at neighbours
      rcases neighbours with ⟨rfl, rfl⟩ | later
      · exact ⟨[], ys, rfl⟩
      · obtain ⟨front, back, split⟩ := ih later
        exact ⟨x :: front, back, by rw [split, List.cons_append]⟩

/-- Whether two successive boundaries in the range are this many days apart. -/
def hasPeriod (frequency : Text) (fiscalYearStartMonth : Int) (start finish : Date) (days : Nat) :
    Bool :=
  match periodEndDates frequency fiscalYearStartMonth start finish with
  | .error _ => false
  | .ok dates => (dates.zip dates.tail).any fun pair => pair.2.toOrdinal = pair.1.toOrdinal + days

theorem exists_of_hasPeriod {frequency : Text} {fiscalYearStartMonth : Int} {start finish : Date}
    {days : Nat} (found : hasPeriod frequency fiscalYearStartMonth start finish days = true) :
    ∃ front before after back, periodEndDates frequency fiscalYearStartMonth start finish =
      .ok (front ++ before :: after :: back) ∧ after.toOrdinal = before.toOrdinal + days := by
  unfold hasPeriod at found
  cases returned : periodEndDates frequency fiscalYearStartMonth start finish with
  | error error =>
    rw [returned] at found
    cases found
  | ok dates =>
    rw [returned] at found
    obtain ⟨⟨before, after⟩, neighbours, gap⟩ := List.any_eq_true.mp found
    obtain ⟨front, back, rfl⟩ := exists_append_of_mem_zip_tail neighbours
    exact ⟨front, before, after, back, rfl, of_decide_eq_true gap⟩

/-- The longest period occurs: the three years from 2023 hold one of every frequency. -/
theorem longestPeriod_occurs {frequency : Text} {window : Nat}
    (listed : (frequency, window) ∈ frequencyWindowDays) {fiscalYearStartMonth : Int}
    (positive : 1 ≤ fiscalYearStartMonth) (small : fiscalYearStartMonth ≤ 12) :
    ∃ start finish front before after back,
      periodEndDates frequency fiscalYearStartMonth start finish =
        .ok (front ++ before :: after :: back) ∧
      after.toOrdinal = before.toOrdinal + longestPeriod frequency fiscalYearStartMonth := by
  have years : ∀ entry ∈ frequencyWindowDays, ∀ month ∈ List.range 12,
      hasPeriod entry.1 (month + 1 : Nat) ⟨2023, 1, 1, by decide⟩ ⟨2026, 1, 1, by decide⟩
        (longestPeriod entry.1 (month + 1 : Nat)) = true := by decide +kernel
  obtain ⟨month, rfl⟩ : ∃ month : Nat, fiscalYearStartMonth = ((month + 1 : Nat) : Int) :=
    ⟨(fiscalYearStartMonth - 1).toNat, by omega⟩
  exact ⟨_, _, exists_of_hasPeriod
    (years _ listed month (List.mem_range.mpr (by omega)))⟩

/-- An accepted cure window reaches the next boundary of every period exactly when it is
    as long as the longest real period of the frequency. -/
theorem validateCurePeriod_reaches_iff {frequency : Text} {fiscalYearStartMonth cureDays : Int}
    (accepted : validateCurePeriod frequency (some cureDays) = .ok ()) (positive : 0 < cureDays)
    (month : 1 ≤ fiscalYearStartMonth ∧ fiscalYearStartMonth ≤ 12) :
    ReachesRetest frequency fiscalYearStartMonth cureDays ↔
      frequency = "on_event".toList ∨
        (longestPeriod frequency fiscalYearStartMonth : Int) ≤ cureDays := by
  constructor
  · intro reaches
    rcases window_of_validateCurePeriod positive accepted with event | ⟨window, listed, _⟩
    · exact Or.inl event
    · obtain ⟨start, finish, front, before, after, back, returned, gap⟩ :=
        longestPeriod_occurs listed month.1 month.2
      have reached := reaches start finish front before after back returned
      exact Or.inr (by omega)
  · intro long start finish front before after back returned
    rcases long with rfl | long
    · unfold periodEndDates at returned
      rw [if_pos rfl] at returned
      cases returned
    · have days := period_le_longest returned
      omega

/-- `validateCurePeriod_reaches_iff` for a quarterly window of 92 days in fiscal years from
    April. -/
theorem validateCurePeriod_reaches_quarterly : ReachesRetest "quarterly".toList 4 92 :=
  (validateCurePeriod_reaches_iff (by decide +kernel) (by decide) (by decide)).mpr
    (Or.inr (by decide))

/-- An accepted monthly window of 30 days does not reach from the end of December to the
    end of January. -/
theorem validateCurePeriod_misses_january :
    validateCurePeriod "monthly".toList (some 30) = .ok () ∧
      ∃ start finish before after, dateOf 2024 12 31 = .ok start ∧ dateOf 2025 2 1 = .ok finish ∧
        dateOf 2024 12 31 = .ok before ∧ dateOf 2025 1 31 = .ok after ∧
        periodEndDates "monthly".toList 4 start finish = .ok [before, after] ∧
          ¬ (after.toOrdinal : Int) ≤ before.toOrdinal + 30 := by
  refine ⟨by decide +kernel, ⟨2024, 12, 31, by decide⟩, ⟨2025, 2, 1, by decide⟩,
    ⟨2024, 12, 31, by decide⟩, ⟨2025, 1, 31, by decide⟩, ?_⟩
  decide +kernel

end Covenants

end CovenantRadar
