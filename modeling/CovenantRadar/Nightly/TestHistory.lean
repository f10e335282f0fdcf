import CovenantRadar.Misc.SortedLists
import CovenantRadar.Python.Scalars

/-!
# The observation series of the nightly forecast

Source `services/nightly.py`, `_test_history` and the series of
`_forecast_candidates`. The query orders by test date alone, so that tests of one date
come in whatever order the database returns them.
-/

namespace CovenantRadar.Nightly

/-- The columns of `covenant_test` that the forecast reads. -/
structure CovenantTest where
  id : Uuid
  covenantVersionId : Uuid
  asOfDate : Date
  value : Option Decimal
  verdict : Text
  deriving DecidableEq

/-- Source `Observation`. -/
structure SeriesObservation where
  date : Date
  value : Decimal
  deriving DecidableEq

/-- What `_forecast_candidates` takes from the tests of one version. -/
structure SeriesCandidate where
  series : List SeriesObservation
  dataAsOf : Date
  alreadyBreached : Bool
  deriving DecidableEq

/-- Source `_TEST_HISTORY_LIMIT`. -/
def testHistoryLimit : Nat := 366

/-- Source `_BREACH_VERDICTS`. -/
def breachVerdicts : List Text := ["breach".toList, "breach_cure_open".toList]

/-- The `where` clause of `_test_history`. -/
def matchingTests (versionId : Uuid) (asOf : Date) (tests : List CovenantTest) :
    List CovenantTest :=
  tests.filter fun test => test.covenantVersionId = versionId && test.asOfDate ≤ asOf

/-- The answers that `order_by(as_of_date.asc())` permits. -/
structure OrderedTests (versionId : Uuid) (asOf : Date) (tests ordered : List CovenantTest) :
    Prop where
  complete : ordered.Perm (matchingTests versionId asOf tests)
  ascending : ordered.Pairwise fun a b => a.asOfDate ≤ b.asOfDate

/-- `row.value is not None`. -/
def CovenantTest.computable (test : CovenantTest) : Bool := test.value.isSome

/-- `history` in `_forecast_candidates`: the limit is applied by the query, the test for
    a value afterwards. -/
def testHistory (ordered : List CovenantTest) : List CovenantTest :=
  (ordered.take testHistoryLimit).filter CovenantTest.computable

def CovenantTest.observation (test : CovenantTest) : SeriesObservation :=
  ⟨test.asOfDate, test.value.getD (.ofInt 0)⟩

/-- The candidate of one version, if it has a history. -/
def forecastCandidate (ordered : List CovenantTest) : Option SeriesCandidate :=
  let history := testHistory ordered
  history.getLast?.map fun latest =>
    ⟨history.map CovenantTest.observation, latest.asOfDate, breachVerdicts.contains latest.verdict⟩

/-! ## The series that is wanted -/

/-- The computable tests of a version up to `as_of`. -/
def computableTests (versionId : Uuid) (asOf : Date) (tests : List CovenantTest) :
    List CovenantTest :=
  (matchingTests versionId asOf tests).filter CovenantTest.computable

/-- One observation for each date with a computable test, in increasing order, the
    newest one included. -/
structure RightSeries (computable : List CovenantTest) (candidate : SeriesCandidate) : Prop where
  dates : candidate.series.map (·.date) = sortedSet (computable.map (·.asOfDate))
  stored : ∀ item ∈ candidate.series,
    ∃ test ∈ computable, test.asOfDate = item.date ∧ test.value = some item.value
  newest : candidate.dataAsOf ∈ computable.map (·.asOfDate) ∧
    ∀ test ∈ computable, test.asOfDate ≤ candidate.dataAsOf

/-- Tests dated before a day. -/
def testsBefore (day : Date) (tests : List CovenantTest) : Nat :=
  tests.countP fun test => test.asOfDate < day

/-- Computable tests dated on a day. -/
def computableOn (day : Date) (tests : List CovenantTest) : Nat :=
  tests.countP fun test => test.asOfDate = day && test.computable

/-- Tests without a value dated on a day. -/
def notComputableOn (day : Date) (tests : List CovenantTest) : Nat :=
  tests.countP fun test => test.asOfDate = day && !test.computable

section

variable {versionId : Uuid} {asOf : Date} {tests ordered : List CovenantTest}

theorem testHistory_ascending (ascending : ordered.Pairwise fun a b => a.asOfDate ≤ b.asOfDate) :
    ((testHistory ordered).map (·.asOfDate)).Pairwise (· ≤ ·) :=
  List.pairwise_map.mpr ((ascending.sublist (List.take_sublist _ _)).filter _)

theorem count_testHistory (day : Date) :
    ((testHistory ordered).map (·.asOfDate)).count day =
      computableOn day (ordered.take testHistoryLimit) := by
  rw [List.count_eq_countP, List.countP_map, testHistory, List.countP_filter]
  refine List.countP_congr fun test _ => ?_
  simp

theorem mem_computable_dates {day : Date} :
    day ∈ (computableTests versionId asOf tests).map (·.asOfDate) ↔
      0 < computableOn day (matchingTests versionId asOf tests) := by
  rw [computableOn, List.countP_pos_iff]
  simp only [computableTests, List.mem_map, List.mem_filter, Bool.and_eq_true, decide_eq_true_eq]
  constructor
  · rintro ⟨test, ⟨member, value⟩, date⟩
    exact ⟨test, member, date, value⟩
  · rintro ⟨test, member, date, value⟩
    exact ⟨test, ⟨member, value⟩, date⟩

/-- The candidate is right as soon as its dates are. -/
theorem rightSeries_iff (order : OrderedTests versionId asOf tests ordered)
    (some' : computableTests versionId asOf tests ≠ []) :
    (∃ candidate, forecastCandidate ordered = some candidate ∧
        RightSeries (computableTests versionId asOf tests) candidate) ↔
      (testHistory ordered).map (·.asOfDate) =
        sortedSet ((computableTests versionId asOf tests).map (·.asOfDate)) := by
  have observed : (testHistory ordered).map (fun test => test.observation.date) =
      (testHistory ordered).map (·.asOfDate) := rfl
  constructor
  · rintro ⟨candidate, made, right⟩
    obtain ⟨latest, -, rfl⟩ := Option.map_eq_some_iff.mp made
    rw [← observed, ← right.dates, List.map_map]
    rfl
  · intro dates
    obtain ⟨test, member⟩ := List.exists_mem_of_ne_nil _ some'
    have listed : test.asOfDate ∈ (testHistory ordered).map (·.asOfDate) := by
      rw [dates, mem_sortedSet]
      exact List.mem_map_of_mem member
    obtain ⟨latest, last⟩ : ∃ latest, (testHistory ordered).getLast? = some latest := by
      cases shape : (testHistory ordered).getLast? with
      | some latest => exact ⟨latest, rfl⟩
      | none => rw [List.getLast?_eq_none_iff.mp shape] at listed; exact absurd listed List.not_mem_nil
    have within : ∀ test ∈ testHistory ordered, test ∈ computableTests versionId asOf tests := by
      intro test inside
      obtain ⟨taken, value⟩ := List.mem_filter.mp inside
      exact List.mem_filter.mpr ⟨order.complete.mem_iff.mp (List.mem_of_mem_take taken), value⟩
    refine ⟨_, Option.map_eq_some_iff.mpr ⟨latest, last, rfl⟩, ?_, ?_, ?_, ?_⟩
    · rw [List.map_map]
      exact dates
    · intro item inside
      obtain ⟨test, taken, rfl⟩ := List.mem_map.mp inside
      refine ⟨test, within test taken, rfl, ?_⟩
      obtain ⟨value, known⟩ := Option.isSome_iff_exists.mp (List.mem_filter.mp taken).2
      rw [CovenantTest.observation, known]
      rfl
    · exact List.mem_map_of_mem (within latest (List.mem_of_mem_getLast? last))
    · intro test inside
      have known : test.asOfDate ∈ (testHistory ordered).map (·.asOfDate) := by
        rw [dates, mem_sortedSet]
        exact List.mem_map_of_mem inside
      obtain ⟨other, taken, same⟩ := List.mem_map.mp known
      obtain ⟨front, shape⟩ := List.getLast?_eq_some_iff.mp last
      have sorted := testHistory_ascending order.ascending
      rw [shape] at taken sorted
      rcases List.mem_append.mp taken with earlier | final
      · rw [← same]
        rw [List.map_append] at sorted
        exact (List.pairwise_append.mp sorted).2.2 _ (List.mem_map_of_mem earlier) _
          (List.mem_map_of_mem (List.mem_singleton_self _))
      · rw [← same, List.mem_singleton.mp final]

/-! ## Counting the tests of one date -/

theorem dates_eq_iff (order : OrderedTests versionId asOf tests ordered) :
    (testHistory ordered).map (·.asOfDate) =
        sortedSet ((computableTests versionId asOf tests).map (·.asOfDate)) ↔
      ∀ day, (0 < computableOn day (matchingTests versionId asOf tests) →
          computableOn day (ordered.take testHistoryLimit) = 1) ∧
        (¬ 0 < computableOn day (matchingTests versionId asOf tests) →
          computableOn day (ordered.take testHistoryLimit) = 0) := by
  rw [eq_iff_count (testHistory_ascending order.ascending) (sortedSet_pairwise _)]
  simp only [count_testHistory, mem_sortedSet, mem_computable_dates]

theorem OrderedTests.computableOn_take_le (order : OrderedTests versionId asOf tests ordered)
    (day : Date) : computableOn day (ordered.take testHistoryLimit) ≤
      computableOn day (matchingTests versionId asOf tests) :=
  ((List.take_sublist _ _).countP_le).trans_eq (order.complete.countP_eq _)

theorem OrderedTests.notComputableOn_take_le (order : OrderedTests versionId asOf tests ordered)
    (day : Date) : notComputableOn day (ordered.take testHistoryLimit) ≤
      notComputableOn day (matchingTests versionId asOf tests) :=
  ((List.take_sublist _ _).countP_le).trans_eq (order.complete.countP_eq _)

/-- How many tests of one date the limit lets through, whatever the order of ties. -/
theorem OrderedTests.take_on (order : OrderedTests versionId asOf tests ordered) (day : Date) :
    computableOn day (ordered.take testHistoryLimit) +
        notComputableOn day (ordered.take testHistoryLimit) =
      min (computableOn day (matchingTests versionId asOf tests) +
          notComputableOn day (matchingTests versionId asOf tests))
        (testHistoryLimit - testsBefore day (matchingTests versionId asOf tests)) := by
  have taken := @countP_take_key _ _ _ CovenantTest.asOfDate ordered day
    (fun test => test.asOfDate = day) (fun test => test.asOfDate < day) order.ascending
    (fun test => decide_eq_true_iff) (fun test => decide_eq_true_iff) testHistoryLimit
  rw [order.complete.countP_eq, order.complete.countP_eq] at taken
  simp only [computableOn, notComputableOn, ← countP_split]
  exact taken

/-- Tests by date, and on one date by a flag. -/
def flagKey (flag : CovenantTest → Bool) (test : CovenantTest) : Date ×ₗ Bool :=
  toLex (test.asOfDate, flag test)

/-- An answer of the query that breaks ties by a flag. -/
def orderedBy (flag : CovenantTest → Bool) (rows : List CovenantTest) : List CovenantTest :=
  rows.insertionSort fun a b => flagKey flag a ≤ flagKey flag b

theorem orderedBy_sorted (flag : CovenantTest → Bool) (rows : List CovenantTest) :
    (orderedBy flag rows).Pairwise fun a b => flagKey flag a ≤ flagKey flag b :=
  List.pairwise_insertionSort (fun a b => flagKey flag a ≤ flagKey flag b) rows

theorem orderedBy_ordered (flag : CovenantTest → Bool) :
    OrderedTests versionId asOf tests (orderedBy flag (matchingTests versionId asOf tests)) where
  complete := List.perm_insertionSort _ _
  ascending := (orderedBy_sorted flag _).imp fun less => by
    rcases Prod.Lex.le_iff.mp less with earlier | same
    · exact earlier.le
    · exact same.1.le

/-- With ties broken so that the computable tests of a date come after the others. -/
theorem computableOn_take_last (day : Date) (rows : List CovenantTest) :
    computableOn day ((orderedBy CovenantTest.computable rows).take testHistoryLimit) =
      min (computableOn day rows)
        (testHistoryLimit - (testsBefore day rows + notComputableOn day rows)) := by
  have perm : (orderedBy CovenantTest.computable rows).Perm rows := List.perm_insertionSort _ _
  have taken := @countP_take_key _ _ _ (flagKey CovenantTest.computable) _ (toLex (day, true))
    (fun test => test.asOfDate = day && test.computable)
    (fun test => test.asOfDate < day || test.asOfDate = day && !test.computable)
    (orderedBy_sorted CovenantTest.computable rows) (fun test => by simp [flagKey])
    (fun test => by simp [flagKey, Prod.Lex.toLex_lt_toLex, Bool.lt_iff]) testHistoryLimit
  have before : rows.countP (fun test =>
        test.asOfDate < day || test.asOfDate = day && !test.computable) =
      testsBefore day rows + notComputableOn day rows := by
    rw [testsBefore, notComputableOn, countP_split rows _ fun test => test.asOfDate < day]
    congr 1 <;> refine List.countP_congr fun test _ => ?_ <;>
      simp only [Bool.and_eq_true, Bool.or_eq_true, Bool.not_eq_true', decide_eq_true_eq,
        decide_eq_false_iff_not]
    · exact ⟨And.right, fun less => ⟨Or.inl less, less⟩⟩
    · exact ⟨fun both => both.1.resolve_left both.2,
        fun both => ⟨Or.inr both, both.1 ▸ lt_irrefl _⟩⟩
  rw [perm.countP_eq, perm.countP_eq, before] at taken
  exact taken

/-- With ties broken so that the computable tests of a date come first. -/
theorem computableOn_take_first (day : Date) (rows : List CovenantTest) :
    computableOn day ((orderedBy (fun test => !test.computable) rows).take testHistoryLimit) =
      min (computableOn day rows) (testHistoryLimit - testsBefore day rows) := by
  have perm : (orderedBy (fun test => !test.computable) rows).Perm rows :=
    List.perm_insertionSort _ _
  have taken := @countP_take_key _ _ _ (flagKey fun test => !test.computable) _ (toLex (day, false))
    (fun test => test.asOfDate = day && test.computable) (fun test => test.asOfDate < day)
    (orderedBy_sorted (fun test => !test.computable) rows) (fun test => by simp [flagKey])
    (fun test => by simp [flagKey, Prod.Lex.toLex_lt_toLex]) testHistoryLimit
  rw [perm.countP_eq, perm.countP_eq] at taken
  exact taken

/-- The series is right for every order the query may return exactly when, for each date
    with a computable test, at most 365 tests are dated before it or lack a value on it,
    and the date has one computable test only or exactly 365 tests before it. -/
theorem series_right_iff :
    (∀ ordered, OrderedTests versionId asOf tests ordered →
        computableTests versionId asOf tests ≠ [] →
        ∃ candidate, forecastCandidate ordered = some candidate ∧
          RightSeries (computableTests versionId asOf tests) candidate) ↔
      ∀ day, 0 < computableOn day (matchingTests versionId asOf tests) →
        testsBefore day (matchingTests versionId asOf tests) +
            notComputableOn day (matchingTests versionId asOf tests) < testHistoryLimit ∧
          (computableOn day (matchingTests versionId asOf tests) = 1 ∨
            testsBefore day (matchingTests versionId asOf tests) + 1 = testHistoryLimit) := by
  constructor
  · intro right day tested
    have some' : computableTests versionId asOf tests ≠ [] := by
      obtain ⟨test, member, -⟩ := List.mem_map.mp (mem_computable_dates.mpr tested)
      exact List.ne_nil_of_mem member
    have counted (flag : CovenantTest → Bool) :
        computableOn day ((orderedBy flag (matchingTests versionId asOf tests)).take
          testHistoryLimit) = 1 := by
      have order := @orderedBy_ordered versionId asOf tests flag
      have dates := (rightSeries_iff order some').mp (right _ order some')
      exact ((dates_eq_iff order).mp dates day).1 tested
    have last := counted CovenantTest.computable
    have first := counted fun test => !test.computable
    rw [computableOn_take_last] at last
    rw [computableOn_take_first] at first
    omega
  · intro enough ordered order some'
    rw [rightSeries_iff order some', dates_eq_iff order]
    intro day
    have fewer := order.computableOn_take_le day
    have others := order.notComputableOn_take_le day
    have total := order.take_on day
    refine ⟨fun tested => ?_, fun untested => by omega⟩
    have := enough day tested
    omega

end

/-! ## A history one test longer than the limit -/

theorem monthly_valid (n : Fin 367) : 1 ≤ 1990 + n.val / 12 ∧ 1990 + n.val / 12 ≤ 9999 ∧
    1 ≤ n.val % 12 + 1 ∧ n.val % 12 + 1 ≤ 12 ∧ 1 ≤ 1 ∧
    1 ≤ daysInMonth (1990 + n.val / 12) (n.val % 12 + 1) := by
  have positive : 1 ≤ daysInMonth (1990 + n.val / 12) (n.val % 12 + 1) := by
    unfold daysInMonth
    split_ifs <;> omega
  omega

/-- The first day of a month, counted from January 1990. -/
def monthly (n : Fin 367) : Date := ⟨1990 + n.val / 12, n.val % 12 + 1, 1, monthly_valid n⟩

/-- A computable test on the first day of a month. -/
def monthlyTest (n : Fin 367) : CovenantTest :=
  ⟨Uuid.ofInt n.val, Uuid.ofInt 1, monthly n, some ⟨false, 15, -1⟩, "pass".toList⟩

def monthlyTests : List CovenantTest := (List.finRange 367).map monthlyTest

theorem monthly_strictMono : StrictMono monthly := by
  intro a b less
  have order : a.val < b.val := less
  show (toLex (_, toLex (_, _)) : ℕ ×ₗ ℕ ×ₗ ℕ) < toLex (_, toLex (_, _))
  simp only [Prod.Lex.toLex_lt_toLex, monthly]
  omega

theorem monthlyTests_ordered :
    OrderedTests (Uuid.ofInt 1) (monthly 366) monthlyTests monthlyTests where
  complete := by
    have all : matchingTests (Uuid.ofInt 1) (monthly 366) monthlyTests = monthlyTests := by
      refine List.filter_eq_self.mpr fun test member => ?_
      obtain ⟨n, -, rfl⟩ := List.mem_map.mp member
      rw [Bool.and_eq_true, decide_eq_true_eq, decide_eq_true_eq]
      exact ⟨rfl, monthly_strictMono.monotone (Fin.le_last n)⟩
    rw [all]
  ascending := List.pairwise_map.mpr ((List.pairwise_lt_finRange 367).imp fun less =>
    (monthly_strictMono less).le)

/-- Of 367 monthly tests the newest one is not in the series. -/
theorem monthlyTests_lose_newest :
    ¬ ∀ ordered, OrderedTests (Uuid.ofInt 1) (monthly 366) monthlyTests ordered →
      computableTests (Uuid.ofInt 1) (monthly 366) monthlyTests ≠ [] →
      ∃ candidate, forecastCandidate ordered = some candidate ∧
        RightSeries (computableTests (Uuid.ofInt 1) (monthly 366) monthlyTests) candidate := by
  intro right
  have order := monthlyTests_ordered
  have newest : monthlyTest 366 ∈ computableTests (Uuid.ofInt 1) (monthly 366) monthlyTests :=
    List.mem_filter.mpr ⟨order.complete.mem_iff.mp (List.mem_map_of_mem (List.mem_finRange 366)), rfl⟩
  obtain ⟨candidate, made, series⟩ := right monthlyTests order (List.ne_nil_of_mem newest)
  unfold forecastCandidate at made
  obtain ⟨latest, last, rfl⟩ := Option.map_eq_some_iff.mp made
  obtain ⟨taken, -⟩ := List.mem_filter.mp (List.mem_of_mem_getLast? last)
  obtain ⟨index, inside, found⟩ := List.mem_take_iff_getElem.mp taken
  have short : index < 366 := (lt_min_iff.mp inside).1
  have date : latest.asOfDate = monthly ⟨index, by omega⟩ := by
    rw [← found]
    simp [monthlyTests, monthlyTest]
  have later := series.newest.2 _ newest
  rw [date] at later
  exact absurd later (monthly_strictMono (show (⟨index, by omega⟩ : Fin 367) < 366 from short)).not_ge

end CovenantRadar.Nightly
