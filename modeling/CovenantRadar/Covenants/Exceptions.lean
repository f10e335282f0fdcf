import CovenantRadar.Misc.Loop
import CovenantRadar.Misc.Select
import CovenantRadar.Python.Scalars
import Mathlib

/-!
# Covenant exceptions and waivers

Source `domain/covenants/exceptions.py`: financial periods, the check that refuses
an exception overlapping an existing one, and the lookup of the exception in force, whose
window is the closed interval of the periods between its two ends; and the waivers of a
covenant, with the lookup of the approved one in force on a date, whose window is closed at
both ends, and open-ended without a last date.
-/

namespace CovenantRadar.Covenants

/-! ## Financial periods -/

/-- Source `_PERIOD_PATTERN.fullmatch`: the year digits and the quarter digit. -/
def fullmatchPeriod : Text → Option (Text × Char)
  | ['F', 'Y', a, b, 'Q', quarter] =>
    if [a, b].all (fun c => (Text.decimal c).isSome) ∧ quarter ∈ ['1', '2', '3', '4'] then
      some ([a, b], quarter)
    else none
  | ['F', 'Y', a, b, c, d, 'Q', quarter] =>
    if [a, b, c, d].all (fun c => (Text.decimal c).isSome) ∧ quarter ∈ ['1', '2', '3', '4'] then
      some ([a, b, c, d], quarter)
    else none
  | _ => none

/-- `int(digits)`. -/
def intOf (digits : Text) : Nat :=
  digits.foldl (fun value digit => 10 * value + (Text.decimal digit).getD 0) 0

/-- Source `normalise_period`, on a text label. -/
def normalisePeriod (value : Text) : Except PyError Text :=
  let period := Text.upper (Text.strip value)
  if 20 < period.length ∨ fullmatchPeriod period = none then
    .error (.valueError "Financial period must use the FYyyQn format, for example FY27Q2.")
  else .ok period

/-- Financial periods in chronological order: financial year, then quarter. -/
abbrev PeriodKey := ℕ ×ₗ ℕ

/-- The key of the matched groups; a year of two digits counts from 2000. -/
def groupsKey (groups : Text × Char) : PeriodKey :=
  let year := intOf groups.1
  toLex (if groups.1.length = 2 then year + 2000 else year, intOf [groups.2])

/-- Source `period_key`. -/
def periodKey (value : Text) : Except PyError PeriodKey := do
  let period ← normalisePeriod value
  match fullmatchPeriod period with
  | none => .error (.valueError "Invalid financial period.")
  | some groups => .ok (groupsKey groups)

/-- Source `validate_exception_window`. -/
def validateExceptionWindow (fromPeriod toPeriod : Text) : Except PyError (Text × Text) := do
  let start ← normalisePeriod fromPeriod
  let finish ← normalisePeriod toPeriod
  let finishKey ← periodKey finish
  let startKey ← periodKey start
  if finishKey < startKey then
    .error (.valueError "An exception's to_period must not precede its from_period.")
  else .ok (start, finish)

/-- Source `exception_windows_overlap`. -/
def exceptionWindowsOverlap (fromA toA fromB toB : Text) : Except PyError Bool := do
  let a ← validateExceptionWindow fromA toA
  let b ← validateExceptionWindow fromB toB
  let startA ← periodKey a.1
  let finishB ← periodKey b.2
  let startB ← periodKey b.1
  let finishA ← periodKey a.2
  .ok (decide (startA ≤ finishB ∧ startB ≤ finishA))

/-! ## Exceptions -/

/-- The fields of an exception, as a stored row carries them. -/
structure ExceptionFields where
  fromPeriod : Text
  toPeriod : Text
  relaxedThreshold : Option Decimal
  id : Option Uuid
  covenantVersionId : Option Uuid
  approvedById : Option Uuid
  deriving DecidableEq

/-- Source `ExceptionFacts`: fields whose window passed its check and is canonical. -/
structure ExceptionFacts extends ExceptionFields where
  window : validateExceptionWindow fromPeriod toPeriod = .ok (fromPeriod, toPeriod)
  deriving DecidableEq

/-- The label the pattern accepts is spelled canonically: nothing is left to strip or
    to change to upper case. -/
theorem upper_strip_of_fullmatch {label : Text} (shaped : fullmatchPeriod label ≠ none) :
    Text.upper (Text.strip label) = label := by
  have ends : ∀ (body : Text) (quarter : Char), quarter ∈ ['1', '2', '3', '4'] →
      Text.strip ('F' :: (body ++ [quarter])) = 'F' :: (body ++ [quarter]) := by
    intro body quarter listed
    have digits : ∀ digit ∈ ['1', '2', '3', '4'], Text.isSpace digit = false :=
      forall_mem_of_all (by decide)
    have first : Text.isSpace 'F' = false := by decide
    rw [Text.strip, List.dropWhile_cons_of_neg (by simp [first]), ← List.cons_append,
      List.rdropWhile_concat_neg _ _ _ (by simp [digits quarter listed])]
  have raised : ∀ quarter ∈ ['1', '2', '3', '4'], quarter.toUpper = quarter :=
    forall_mem_of_all (by decide)
  have letters : ∀ letter ∈ ['F', 'Y', 'Q'], letter.toUpper = letter :=
    forall_mem_of_all (by decide)
  unfold fullmatchPeriod at shaped
  split at shaped
  · rename_i a b quarter
    split_ifs at shaped with digits
    · obtain ⟨decimals, listed⟩ := digits
      simp only [List.all_cons, List.all_nil, Bool.and_true, Bool.and_eq_true] at decimals
      have stripped : Text.strip ['F', 'Y', a, b, 'Q', quarter] = ['F', 'Y', a, b, 'Q', quarter] :=
        ends ['Y', a, b, 'Q'] quarter listed
      rw [stripped]
      simp [Text.upper, letters, raised quarter listed, Text.toUpper_of_decimal decimals.1,
        Text.toUpper_of_decimal decimals.2]
    · exact absurd rfl shaped
  · rename_i a b c d quarter
    split_ifs at shaped with digits
    · obtain ⟨decimals, listed⟩ := digits
      simp only [List.all_cons, List.all_nil, Bool.and_true, Bool.and_eq_true] at decimals
      have stripped : Text.strip ['F', 'Y', a, b, c, d, 'Q', quarter] =
          ['F', 'Y', a, b, c, d, 'Q', quarter] := ends ['Y', a, b, c, d, 'Q'] quarter listed
      rw [stripped]
      simp [Text.upper, letters, raised quarter listed, Text.toUpper_of_decimal decimals.1,
        Text.toUpper_of_decimal decimals.2.1, Text.toUpper_of_decimal decimals.2.2.1,
        Text.toUpper_of_decimal decimals.2.2.2]
    · exact absurd rfl shaped
  · exact absurd rfl shaped

theorem normalisePeriod_eq_ok_iff {value period : Text} :
    normalisePeriod value = .ok period ↔
      period = Text.upper (Text.strip value) ∧ period.length ≤ 20 ∧ fullmatchPeriod period ≠ none := by
  unfold normalisePeriod
  constructor
  · intro returned
    simp only at returned
    split_ifs at returned with refused
    rw [not_or, not_lt] at refused
    cases returned
    exact ⟨rfl, refused⟩
  · rintro ⟨rfl, short, shaped⟩
    exact if_neg (not_or.mpr ⟨not_lt.mpr short, shaped⟩)

/-- A canonical label is its own canonical form. -/
theorem normalisePeriod_self {value period : Text} (returned : normalisePeriod value = .ok period) :
    normalisePeriod period = .ok period := by
  obtain ⟨_, short, shaped⟩ := normalisePeriod_eq_ok_iff.mp returned
  exact normalisePeriod_eq_ok_iff.mpr ⟨(upper_strip_of_fullmatch shaped).symm, short, shaped⟩

/-- The key of a canonical label. -/
def labelKey (label : Text) : PeriodKey := (fullmatchPeriod label).elim (toLex (0, 0)) groupsKey

theorem periodKey_eq_ok {value period : Text} (returned : normalisePeriod value = .ok period) :
    periodKey value = .ok (labelKey period) := by
  obtain ⟨_, _, shaped⟩ := normalisePeriod_eq_ok_iff.mp returned
  obtain ⟨groups, matched⟩ := Option.ne_none_iff_exists'.mp shaped
  rw [periodKey, returned, labelKey]
  simp only [bind, Except.bind, matched, Option.elim_some]

/-- A window is accepted exactly when both labels are and the end does not precede. -/
theorem validateExceptionWindow_eq_ok_iff {fromPeriod toPeriod start finish : Text} :
    validateExceptionWindow fromPeriod toPeriod = .ok (start, finish) ↔
      normalisePeriod fromPeriod = .ok start ∧ normalisePeriod toPeriod = .ok finish ∧
        labelKey start ≤ labelKey finish := by
  have checked : ∀ s f, normalisePeriod fromPeriod = .ok s → normalisePeriod toPeriod = .ok f →
      validateExceptionWindow fromPeriod toPeriod =
        if labelKey f < labelKey s then
          .error (.valueError "An exception's to_period must not precede its from_period.")
        else .ok (s, f) := by
    intro s f first last
    rw [validateExceptionWindow, first, last]
    simp only [bind, Except.bind, periodKey_eq_ok (normalisePeriod_self first),
      periodKey_eq_ok (normalisePeriod_self last)]
  constructor
  · intro returned
    obtain ⟨s, first, rest⟩ := Except.bind_eq_ok_iff.mp returned
    obtain ⟨f, last, _⟩ := Except.bind_eq_ok_iff.mp rest
    rw [checked s f first last] at returned
    split_ifs at returned with inverted
    cases returned
    exact ⟨first, last, not_lt.mp inverted⟩
  · intro ⟨first, last, ordered⟩
    rw [checked start finish first last, if_neg (not_lt.mpr ordered)]

/-! ## Windows as intervals -/

/-- Closed intervals that are not empty meet exactly when each begins before the other ends. -/
theorem disjoint_Icc_iff {α : Type} [LinearOrder α] {a b c d : α} (first : a ≤ b) (second : c ≤ d) :
    Disjoint (Set.Icc a b) (Set.Icc c d) ↔ ¬ (a ≤ d ∧ c ≤ b) := by
  rw [Set.disjoint_iff_inter_eq_empty, Set.Icc_inter_Icc, Set.Icc_eq_empty_iff, not_iff_not,
    sup_le_iff, le_inf_iff, le_inf_iff]
  exact ⟨fun both => ⟨both.1.2, both.2.1⟩, fun both => ⟨⟨first, both.1⟩, both.2, second⟩⟩

/-- The periods of a window given by canonical labels. -/
def windowOf (start finish : Text) : Set PeriodKey := Set.Icc (labelKey start) (labelKey finish)

/-- Two windows that pass their check overlap exactly when some period is in both. -/
theorem exceptionWindowsOverlap_eq_ok {startA finishA startB finishB : Text}
    (windowA : validateExceptionWindow startA finishA = .ok (startA, finishA))
    (windowB : validateExceptionWindow startB finishB = .ok (startB, finishB)) :
    ∃ overlap, exceptionWindowsOverlap startA finishA startB finishB = .ok overlap ∧
      (overlap = false ↔ Disjoint (windowOf startA finishA) (windowOf startB finishB)) := by
  obtain ⟨firstA, lastA, orderedA⟩ := validateExceptionWindow_eq_ok_iff.mp windowA
  obtain ⟨firstB, lastB, orderedB⟩ := validateExceptionWindow_eq_ok_iff.mp windowB
  refine ⟨decide (labelKey startA ≤ labelKey finishB ∧ labelKey startB ≤ labelKey finishA), ?_, ?_⟩
  · rw [exceptionWindowsOverlap, windowA, windowB]
    simp only [bind, Except.bind, periodKey_eq_ok firstA, periodKey_eq_ok lastA,
      periodKey_eq_ok firstB, periodKey_eq_ok lastB]
  · rw [windowOf, windowOf, disjoint_Icc_iff orderedA orderedB, decide_eq_false_iff_not]

/-! ## Accepting exceptions -/

/-- What the resolver and the check read: a domain fact, or a stored row. -/
inductive ExceptionValue where
  | facts (facts : ExceptionFacts)
  | row (fields : ExceptionFields)

namespace ExceptionValue

/-- The fields as they stand. -/
def fields : ExceptionValue → ExceptionFields
  | .facts known => known.toExceptionFields
  | .row stored => stored

end ExceptionValue

/-- Source `ExceptionFacts.__post_init__`. -/
def ExceptionFacts.make (fields : ExceptionFields) : Except PyError ExceptionFacts :=
  match returned : validateExceptionWindow fields.fromPeriod fields.toPeriod with
  | .error error => .error error
  | .ok (start, finish) =>
    .ok ⟨{ fields with fromPeriod := start, toPeriod := finish }, by
      obtain ⟨first, last, ordered⟩ := validateExceptionWindow_eq_ok_iff.mp returned
      exact validateExceptionWindow_eq_ok_iff.mpr
        ⟨normalisePeriod_self first, normalisePeriod_self last, ordered⟩⟩

/-- Source `to_exception_facts`. -/
def toExceptionFacts : ExceptionValue → Except PyError ExceptionFacts
  | .facts known => .ok known
  | .row stored => ExceptionFacts.make stored

/-- The refusal of `validate_no_overlapping_exceptions` for one existing exception. -/
def checkAgainst (start finish : Text) (current : ExceptionValue) : Except PyError Unit := do
  let facts ← toExceptionFacts current
  if ← exceptionWindowsOverlap start finish facts.fromPeriod facts.toPeriod then
    .error (.valueError ("Exception window " ++ String.ofList start ++ " to " ++
      String.ofList finish ++ " overlaps the existing window " ++
      String.ofList facts.fromPeriod ++ " to " ++ String.ofList facts.toPeriod ++ "."))
  else .ok ()

/-- Source `validate_no_overlapping_exceptions`. -/
def validateNoOverlappingExceptions (fromPeriod toPeriod : Text)
    (existing : List ExceptionValue) : Except PyError Unit := do
  let window ← validateExceptionWindow fromPeriod toPeriod
  existing.forM (checkAgainst window.1 window.2)

/-- A list of exceptions, each accepted against the ones accepted before it. -/
inductive Accepted : List ExceptionValue → Prop where
  | empty : Accepted []
  | next {accepted : List ExceptionValue} {candidate : ExceptionValue} :
      Accepted accepted →
      validateNoOverlappingExceptions candidate.fields.fromPeriod candidate.fields.toPeriod
        accepted = .ok () →
      Accepted (accepted ++ [candidate])

/-! ## Resolving the exception in force -/

/-- The version `resolve_exception` is asked about, with the exceptions it exposes. -/
structure ExceptionVersion where
  id : Option Uuid
  exceptions : List ExceptionValue

/-- The exception belongs to the version; an id missing on either side is no objection. -/
def ExceptionFacts.appliesTo (facts : ExceptionFacts) (versionId : Option Uuid) : Bool :=
  match versionId, facts.covenantVersionId with
  | some version, some candidate => candidate = version
  | _, _ => true

/-- The test `resolve_exception` makes of one candidate. -/
def matchesPeriod (versionId : Option Uuid) (requested : PeriodKey) (facts : ExceptionFacts) :
    Except PyError Bool := do
  if facts.appliesTo versionId then
    let start ← periodKey facts.fromPeriod
    let finish ← periodKey facts.toPeriod
    .ok (decide (start ≤ requested ∧ requested ≤ finish))
  else .ok false

/-- The loop of `resolve_exception`. -/
def matchingExceptions (versionId : Option Uuid) (requested : PeriodKey)
    (matching : List ExceptionFacts) (candidate : ExceptionValue) :
    Except PyError (List ExceptionFacts) := do
  let facts ← toExceptionFacts candidate
  if ← matchesPeriod versionId requested facts then .ok (matching ++ [facts]) else .ok matching

/-- Source `resolve_exception`. Its sort is left out: it is only reached with one match. -/
def resolveException (version : ExceptionVersion) (period : Text) :
    Except PyError (Option ExceptionFacts) := do
  let requested ← periodKey period
  let matching ← version.exceptions.foldlM (matchingExceptions version.id requested) []
  match matching with
  | [] => .ok none
  | [facts] => .ok (some facts)
  | _ => .error (.valueError ("More than one exception is in force for financial period " ++
      String.ofList (Text.repr period) ++
      "; overlapping exception windows must be corrected before testing."))

/-! ## What acceptance means for the lookup -/

/-- The periods an exception covers. -/
def ExceptionFacts.periods (facts : ExceptionFacts) : Set PeriodKey :=
  windowOf facts.fromPeriod facts.toPeriod

/-- The exception covers the period, whichever version it belongs to. -/
def ExceptionValue.InForce (exception : ExceptionValue) (period : PeriodKey) : Prop :=
  ∃ facts, toExceptionFacts exception = .ok facts ∧ period ∈ facts.periods

/-- A value is read as facts exactly when its window passes its check, with that window. -/
theorem toExceptionFacts_window {value : ExceptionValue} {start finish : Text} :
    validateExceptionWindow value.fields.fromPeriod value.fields.toPeriod = .ok (start, finish) ↔
      ∃ facts, toExceptionFacts value = .ok facts ∧ facts.fromPeriod = start ∧
        facts.toPeriod = finish := by
  cases value with
  | facts known =>
    constructor
    · intro returned
      have same := known.window.symm.trans returned
      cases same
      exact ⟨known, rfl, rfl, rfl⟩
    · rintro ⟨facts, ⟨⟩, rfl, rfl⟩
      exact known.window
  | row stored =>
    simp only [ExceptionValue.fields, toExceptionFacts, ExceptionFacts.make]
    split
    · rename_i error failed
      rw [failed]
      simp
    · rename_i s f returned
      constructor
      · intro same
        cases returned.symm.trans same
        exact ⟨_, rfl, rfl, rfl⟩
      · rintro ⟨facts, made, rfl, rfl⟩
        cases made
        exact returned

/-- Everything but the labels is read as it stands. -/
theorem toExceptionFacts_fields {value : ExceptionValue} {facts : ExceptionFacts}
    (made : toExceptionFacts value = .ok facts) :
    facts.toExceptionFields = { value.fields with
      fromPeriod := facts.fromPeriod, toPeriod := facts.toPeriod } := by
  cases value with
  | facts known =>
    cases made
    rfl
  | row stored =>
    simp only [toExceptionFacts, ExceptionFacts.make] at made
    split at made
    · cases made
    · cases made
      rfl

theorem checkAgainst_eq_ok_iff {start finish : Text} {current : ExceptionValue}
    (window : validateExceptionWindow start finish = .ok (start, finish)) :
    checkAgainst start finish current = .ok () ↔
      ∃ facts, toExceptionFacts current = .ok facts ∧
        Disjoint (windowOf start finish) facts.periods := by
  rw [checkAgainst, Except.bind_eq_ok_iff]
  apply exists_congr
  intro facts
  apply and_congr_right
  intro _
  obtain ⟨overlap, computed, disjoint⟩ := exceptionWindowsOverlap_eq_ok window facts.window
  rw [computed, ExceptionFacts.periods, ← disjoint]
  cases overlap <;> simp [bind, Except.bind]

/-- What a list of accepted exceptions reads as: windows that share no period. -/
theorem Accepted.facts {exceptions : List ExceptionValue} (accepted : Accepted exceptions) :
    ∃ all, List.Forall₂ (fun value facts => toExceptionFacts value = .ok facts) exceptions all ∧
      all.Pairwise (fun a b => Disjoint a.periods b.periods) := by
  induction accepted with
  | empty => exact ⟨[], List.Forall₂.nil, List.Pairwise.nil⟩
  | @next accepted candidate _ checked ih =>
    obtain ⟨all, read, disjoint⟩ := ih
    obtain ⟨⟨start, finish⟩, window, clear⟩ := Except.bind_eq_ok_iff.mp checked
    obtain ⟨facts, made, rfl, rfl⟩ := toExceptionFacts_window.mp window
    refine ⟨all ++ [facts], List.rel_append read (List.Forall₂.cons made List.Forall₂.nil), ?_⟩
    apply List.pairwise_append.mpr
    refine ⟨disjoint, List.pairwise_singleton _ _, ?_⟩
    intro earlier member last isLast
    rw [List.mem_singleton.mp isLast]
    obtain ⟨value, listed, found⟩ := (forall₂_exists read).2 earlier member
    obtain ⟨other, again, apart⟩ := (checkAgainst_eq_ok_iff facts.window).mp
      (forM_eq_ok_iff.mp clear value listed)
    cases found.symm.trans again
    exact apart.symm

/-- Whether `resolve_exception` matches an exception. -/
def matched (versionId : Option Uuid) (requested : PeriodKey) (facts : ExceptionFacts) : Bool :=
  facts.appliesTo versionId &&
    decide (labelKey facts.fromPeriod ≤ requested ∧ requested ≤ labelKey facts.toPeriod)

theorem matched_iff {versionId : Option Uuid} {requested : PeriodKey} {facts : ExceptionFacts} :
    matched versionId requested facts = true ↔
      requested ∈ facts.periods ∧ facts.appliesTo versionId = true := by
  rw [matched, Bool.and_eq_true, decide_eq_true_iff, and_comm]
  exact Iff.rfl

theorem matchesPeriod_eq_ok (versionId : Option Uuid) (requested : PeriodKey)
    (facts : ExceptionFacts) :
    matchesPeriod versionId requested facts = .ok (matched versionId requested facts) := by
  obtain ⟨first, last, _⟩ := validateExceptionWindow_eq_ok_iff.mp facts.window
  rw [matchesPeriod, matched, periodKey_eq_ok first, periodKey_eq_ok last]
  cases facts.appliesTo versionId <;> rfl

/-- The loop collects the matching exceptions in their order. -/
theorem matchingExceptions_fold {versionId : Option Uuid} {requested : PeriodKey}
    {exceptions : List ExceptionValue} {all matching : List ExceptionFacts}
    (read : List.Forall₂ (fun value facts => toExceptionFacts value = .ok facts) exceptions all) :
    exceptions.foldlM (matchingExceptions versionId requested) matching =
      .ok (matching ++ all.filter (matched versionId requested)) := by
  induction read generalizing matching with
  | nil => simp [pure, Except.pure]
  | @cons value facts exceptions all made _ ih =>
    have step : matchingExceptions versionId requested matching value =
        if matched versionId requested facts = true then .ok (matching ++ [facts])
        else .ok matching := by
      rw [matchingExceptions, made]
      simp only [bind, Except.bind, matchesPeriod_eq_ok]
    rw [List.foldlM_cons, step, List.filter_cons]
    by_cases matches' : matched versionId requested facts = true
    · have rest := @ih (matching ++ [facts])
      rw [List.append_assoc] at rest
      rw [if_pos matches', if_pos matches']
      exact rest
    · rw [if_neg matches', if_neg matches']
      exact ih

/-- Of items that exclude each other a test keeps at most one. -/
theorem filter_of_pairwise {α : Type} {p : α → Bool} {xs : List α}
    (exclusive : xs.Pairwise (fun a b => ¬ (p a = true ∧ p b = true))) :
    xs.filter p = [] ∨ ∃ x, xs.filter p = [x] := by
  have pairs := exclusive.filter p
  have kept : ∀ x ∈ xs.filter p, p x = true := fun x member => (List.mem_filter.mp member).2
  cases shape : xs.filter p with
  | nil => exact Or.inl rfl
  | cons x rest =>
    cases rest with
    | nil => exact Or.inr ⟨x, rfl⟩
    | cons y rest =>
      rw [shape] at pairs kept
      have excluded := List.rel_of_pairwise_cons pairs List.mem_cons_self
      exact absurd ⟨kept x List.mem_cons_self, kept y (by simp)⟩ excluded

/-- Among exceptions each accepted against the earlier ones, no two cover one period, and
    the lookup returns, without ever raising, exactly the one that covers the period and
    belongs to the version. -/
theorem resolveException_accepted {exceptions : List ExceptionValue}
    (accepted : Accepted exceptions) (versionId : Option Uuid) {period : Text}
    {requested : PeriodKey} (known : periodKey period = .ok requested) :
    exceptions.Pairwise (fun a b => ¬ (a.InForce requested ∧ b.InForce requested)) ∧
      (∃ found, resolveException ⟨versionId, exceptions⟩ period = .ok found) ∧
        ∀ facts, resolveException ⟨versionId, exceptions⟩ period = .ok (some facts) ↔
          ∃ exception ∈ exceptions, toExceptionFacts exception = .ok facts ∧
            requested ∈ facts.periods ∧ facts.appliesTo versionId = true := by
  obtain ⟨all, read, disjoint⟩ := accepted.facts
  have apart : all.Pairwise
      (fun a b => ¬ (requested ∈ a.periods ∧ requested ∈ b.periods)) := by
    apply disjoint.imp
    intro a b separate both
    exact Set.disjoint_left.mp separate both.1 both.2
  have computed : resolveException ⟨versionId, exceptions⟩ period =
      match all.filter (matched versionId requested) with
      | [] => .ok none
      | [facts] => .ok (some facts)
      | _ => .error (.valueError ("More than one exception is in force for financial period " ++
          String.ofList (Text.repr period) ++
          "; overlapping exception windows must be corrected before testing.")) := by
    rw [resolveException, known]
    simp only [bind, Except.bind, matchingExceptions_fold read, List.nil_append]
  have listed : ∀ facts, facts ∈ all.filter (matched versionId requested) ↔
      ∃ exception ∈ exceptions, toExceptionFacts exception = .ok facts ∧
        requested ∈ facts.periods ∧ facts.appliesTo versionId = true := by
    intro facts
    rw [List.mem_filter, matched_iff]
    constructor
    · intro ⟨member, both⟩
      obtain ⟨value, found, made⟩ := (forall₂_exists read).2 facts member
      exact ⟨value, found, made, both⟩
    · intro ⟨value, found, made, both⟩
      obtain ⟨other, member, again⟩ := (forall₂_exists read).1 value found
      cases made.symm.trans again
      exact ⟨member, both⟩
  refine ⟨?_, ?_⟩
  · apply pairwise_of_forall₂ read apart
    rintro value value' facts facts' made made' separate ⟨⟨f, again, first⟩, f', again', second⟩
    cases made.symm.trans again
    cases made'.symm.trans again'
    exact separate ⟨first, second⟩
  · have exclusive : all.Pairwise (fun a b => ¬ (matched versionId requested a = true ∧
        matched versionId requested b = true)) := by
      apply apart.imp
      intro a b separate both
      exact separate ⟨(matched_iff.mp both.1).1, (matched_iff.mp both.2).1⟩
    rcases filter_of_pairwise exclusive with nothing | ⟨facts, only⟩
    · rw [nothing] at computed listed
      refine ⟨⟨none, computed⟩, fun facts => ?_⟩
      rw [computed, ← listed]
      simp
    · rw [only] at computed listed
      refine ⟨⟨some facts, computed⟩, fun other => ?_⟩
      rw [computed, ← listed, List.mem_singleton, Except.ok.injEq, Option.some.injEq, eq_comm]

/-! ## Sample exceptions -/

/-- A stored exception for a window of one version. -/
def sampleException (fromPeriod toPeriod : Text) (id versionId : Nat) : ExceptionValue :=
  .row ⟨fromPeriod, toPeriod, none, some (Uuid.ofInt id), some (Uuid.ofInt versionId), none⟩

/-- Two adjacent windows, the second of another version. -/
def sampleExceptions : List ExceptionValue :=
  [sampleException "FY27Q1".toList "fy27q2".toList 1 7,
    sampleException "FY2027Q3".toList "FY28Q1".toList 2 8]

theorem sampleExceptions_accepted : Accepted sampleExceptions :=
  (Accepted.empty.next (by decide : validateNoOverlappingExceptions
      (sampleException "FY27Q1".toList "fy27q2".toList 1 7).fields.fromPeriod
      (sampleException "FY27Q1".toList "fy27q2".toList 1 7).fields.toPeriod [] = .ok ())).next
    (by decide : validateNoOverlappingExceptions
      (sampleException "FY2027Q3".toList "FY28Q1".toList 2 8).fields.fromPeriod
      (sampleException "FY2027Q3".toList "FY28Q1".toList 2 8).fields.toPeriod
      [sampleException "FY27Q1".toList "fy27q2".toList 1 7] = .ok ())

/-- `resolveException_accepted` on the sample: the first version's exception is found in
    its last period. -/
theorem resolveException_accepted_sample :
    ∃ facts, toExceptionFacts (sampleException "FY27Q1".toList "fy27q2".toList 1 7) = .ok facts ∧
      resolveException ⟨some (Uuid.ofInt 7), sampleExceptions⟩ "FY27Q2".toList =
        .ok (some facts) := by
  have window : validateExceptionWindow "FY27Q1".toList "fy27q2".toList =
      .ok ("FY27Q1".toList, "FY27Q2".toList) := by decide
  obtain ⟨facts, made, first, last⟩ := toExceptionFacts_window.mp
    (show validateExceptionWindow
      (sampleException "FY27Q1".toList "fy27q2".toList 1 7).fields.fromPeriod
      (sampleException "FY27Q1".toList "fy27q2".toList 1 7).fields.toPeriod = _ from window)
  have known : periodKey "FY27Q2".toList = .ok (labelKey "FY27Q2".toList) := by decide
  refine ⟨facts, made, ((resolveException_accepted sampleExceptions_accepted
    (some (Uuid.ofInt 7)) known).2.2 facts).mpr ⟨_, List.mem_cons_self, made, ?_, ?_⟩⟩
  · rw [ExceptionFacts.periods, first, last]
    exact (by decide : labelKey "FY27Q1".toList ≤ labelKey "FY27Q2".toList ∧
      labelKey "FY27Q2".toList ≤ labelKey "FY27Q2".toList)
  · have version : facts.covenantVersionId = some (Uuid.ofInt 7) := by
      rw [toExceptionFacts_fields made]
      rfl
    simp [ExceptionFacts.appliesTo, version]

/-- An accepted exception of another version is not returned, though its window contains
    the period. -/
theorem resolveException_other_version :
    Accepted sampleExceptions ∧
      (∃ exception ∈ sampleExceptions, exception.InForce (labelKey "FY27Q4".toList)) ∧
      periodKey "FY27Q4".toList = .ok (labelKey "FY27Q4".toList) ∧
      resolveException ⟨some (Uuid.ofInt 7), sampleExceptions⟩ "FY27Q4".toList = .ok none := by
  refine ⟨sampleExceptions_accepted, ?_, by decide, by decide⟩
  have window : validateExceptionWindow "FY2027Q3".toList "FY28Q1".toList =
      .ok ("FY2027Q3".toList, "FY28Q1".toList) := by decide
  obtain ⟨facts, made, first, last⟩ := toExceptionFacts_window.mp
    (show validateExceptionWindow
      (sampleException "FY2027Q3".toList "FY28Q1".toList 2 8).fields.fromPeriod
      (sampleException "FY2027Q3".toList "FY28Q1".toList 2 8).fields.toPeriod = _ from window)
  refine ⟨_, List.mem_cons_of_mem _ List.mem_cons_self, facts, made, ?_⟩
  rw [ExceptionFacts.periods, first, last]
  exact (by decide : labelKey "FY2027Q3".toList ≤ labelKey "FY27Q4".toList ∧
    labelKey "FY27Q4".toList ≤ labelKey "FY28Q1".toList)

/-! ## Waivers -/

/-- The fields of a waiver, as a stored row carries them. -/
structure WaiverFields where
  fromDate : Date
  toDate : Option Date
  state : Text
  approved : Option Bool
  id : Option Uuid
  covenantId : Option Uuid
  deriving DecidableEq

/-- Source `WaiverFacts`: the window is in order and the state is not blank. -/
structure WaiverFacts extends WaiverFields where
  ordered : ∀ last ∈ toDate, fromDate ≤ last
  named : Text.strip state ≠ []
  deriving DecidableEq

/-- Source `WaiverFacts.is_approved`. -/
def WaiverFacts.isApproved (waiver : WaiverFacts) : Bool :=
  waiver.approved.getD (Text.lower (Text.strip waiver.state) = "approved".toList)

/-- Source `to_waiver_facts`, which checks what `WaiverFacts.__post_init__` checks. -/
def toWaiverFacts (fields : WaiverFields) : Except PyError WaiverFacts :=
  if ordered : ∀ last ∈ fields.toDate, fields.fromDate ≤ last then
    if named : Text.strip fields.state ≠ [] then .ok { fields with ordered, named }
    else .error (.valueError "A waiver state must be a non-empty string.")
  else .error (.valueError "A waiver's to_date must not precede its from_date.")

/-- The waiver belongs to the covenant; an id missing on either side is no objection. -/
def WaiverFacts.appliesTo (waiver : WaiverFacts) (covenantId : Option Uuid) : Bool :=
  match covenantId, waiver.covenantId with
  | some covenant, some candidate => candidate = covenant
  | _, _ => true

/-- The window contains the date. -/
def WaiverFacts.inForce (waiver : WaiverFacts) (asOf : Date) : Bool :=
  waiver.fromDate ≤ asOf && waiver.toDate.all fun last => asOf ≤ last

/-- `date.max`. -/
def lastDate : Date := ⟨9999, 12, 31, by decide⟩

/-- The key the matching waivers are sorted by. -/
def WaiverFacts.sortKey (waiver : WaiverFacts) : Date ×ₗ Bool ×ₗ Date ×ₗ Text :=
  toLex (waiver.fromDate, toLex (waiver.toDate.isNone, toLex (waiver.toDate.getD lastDate,
    waiver.id.elim "None".toList Uuid.str)))

/-- Source `resolve_waiver`: its sort in reverse, of which only the first item is read. -/
def resolveWaiver (covenantId : Option Uuid) (waivers : List WaiverFields) (asOf : Date) :
    Except PyError (Option WaiverFacts) := do
  let candidates ← waivers.mapM toWaiverFacts
  .ok (maxBy WaiverFacts.sortKey (candidates.filter fun waiver =>
    waiver.appliesTo covenantId && waiver.isApproved && waiver.inForce asOf))

end CovenantRadar.Covenants
