import CovenantRadar.Covenants.Schedule
import CovenantRadar.Misc.KeyedTable
import CovenantRadar.Nightly.CovenantTests

/-!
# Tests and the occurrences they resolve

Source `services/engine.py`, `EngineService.test` and `queue_retest`, `services/certificates.py`,
`_queue_recomputation`, and `services/nightly.py`, `_run_test`: a test that is persisted resolves the
pending occurrence of its version for its own date, and the night tests every live version that has
data. An occurrence whose date passes without a test stays due.
-/

namespace CovenantRadar

namespace Nightly

open Covenants

/-! ## Tables -/

/-- Source `CovenantSchedule`. -/
structure CovenantSchedule where
  id : Uuid
  covenantVersionId : Uuid
  dueDate : Date
  state : ScheduleState
  testId : Option Uuid
  deriving DecidableEq

/-- Source `CovenantVersion` with its `Covenant`, as a test loads them. -/
structure LoadedVersion where
  rows : CovenantRows
  reference : Text
  isActive : Bool
  isLive : Bool
  effectiveFrom : Date
  effectiveTo : Option Date

/-- The identifier of a version. -/
def LoadedVersion.id (version : LoadedVersion) : Uuid := version.rows.version.id

/-- Source `_version_effective`. -/
def LoadedVersion.isEffective (version : LoadedVersion) (asOf : Date) : Bool :=
  decide (version.effectiveFrom ≤ asOf) && version.effectiveTo.all fun last => decide (asOf < last)

/-- Source `CovenantTest`, under its identifier. -/
structure StoredTest (ν : Type) where
  id : Uuid
  row : CovenantTestRow ν

/-- The tables a test works on. -/
structure TestBook (ν : Type) where
  versions : List LoadedVersion
  tests : KeyedTable (@StoredTest.id ν)
  schedules : KeyedTable CovenantSchedule.id
  testedAtLeastOnce : List Uuid

variable {ν : Type}

/-- Whether a row is pending for a version on a date. -/
def CovenantSchedule.isPending (schedule : CovenantSchedule) (versionId : Uuid) (date : Date) : Bool :=
  decide (schedule.covenantVersionId = versionId) && decide (schedule.dueDate = date) &&
    decide (schedule.state = .due)

theorem isPending_iff {schedule : CovenantSchedule} {versionId : Uuid} {date : Date} :
    schedule.isPending versionId date = true ↔ schedule.covenantVersionId = versionId ∧
      schedule.dueDate = date ∧ schedule.state = .due := by
  unfold CovenantSchedule.isPending
  simp only [Bool.and_eq_true, decide_eq_true_eq, and_assoc]

/-- Source `_pending_schedule`; `one_or_none` raises where there are several. -/
def pendingSchedule (book : TestBook ν) (versionId : Uuid) (dueDate : Date) :
    Except DomainError (Option CovenantSchedule) :=
  match book.schedules.rows.filter fun schedule => schedule.isPending versionId dueDate with
  | [] => .ok none
  | [schedule] => .ok (some schedule)
  | _ => .error ⟨.raised, "Multiple rows were found when one or none was required".toList, none⟩

/-! ## Testing -/

/-- How a caller names the version to test. -/
inductive VersionIdentifier where
  | versionId (id : Uuid)
  | uuid (id : Uuid)
  | reference (text : Text)

/-- A test call: what is tested, over which versions the caller sees, with which facts, and what the
    SMA derivation at its end raises. -/
structure TestCall where
  identifier : VersionIdentifier
  inScope : LoadedVersion → Bool
  arguments : TestArguments
  today : Date
  computeRatio : LoadedVersion → Date → Bool → Except DomainError RatioResult
  newId : Uuid
  deriveSma : Except DomainError Unit

/-- The date a version is looked up for. -/
def TestCall.asOf (call : TestCall) : Date :=
  let fromPeriod := match call.arguments.period with
    | .date day => some day
    | .label _ => none
    | .facts facts => facts.date
  (call.arguments.asOfDate.or fromPeriod).getD call.today

/-- The refusal of a version that is not live, or not effective. -/
def requireLive (version : LoadedVersion) (asOf : Date) : Except DomainError LoadedVersion :=
  if !(version.isActive && version.isLive) then
    .error (.validationError "Only a live covenant version can be tested." "covenant")
  else if !version.isEffective asOf then
    .error (.notFound "The covenant version was not effective on the test date.".toList)
  else .ok version

/-- The one version of a covenant that is live and effective on a date. -/
def matchingVersion (visible : List LoadedVersion) (asOf : Date) (reference : Text) :
    Except DomainError LoadedVersion :=
  match visible.filter fun version => version.isLive && version.isEffective asOf with
  | [version] => requireLive version asOf
  | _ => .error (.notFound ("No single live covenant version was effective for ".toList ++
      Text.repr reference ++ " on ".toList ++ asOf.isoformat ++ ".".toList))

/-- The versions of a covenant, or the refusal of a covenant that is not visible. -/
def ofCovenant (visible : List LoadedVersion) (asOf : Date) : Except DomainError LoadedVersion :=
  match visible with
  | [] => .error (.notFound "The covenant was not found within the current scope.".toList)
  | first :: _ => matchingVersion visible asOf first.reference

/-- Source `EngineService._load_version`. -/
def loadVersion (book : TestBook ν) (call : TestCall) : Except DomainError LoadedVersion :=
  let visible := book.versions.filter call.inScope
  match call.identifier with
  | .versionId id =>
      match visible.find? fun version => version.id == id with
      | some version => requireLive version call.asOf
      | none => .error (.notFound
          "The covenant version was not found within the current scope.".toList)
  | .uuid id =>
      match visible.find? fun version => version.id == id with
      | some version => requireLive version call.asOf
      | none => ofCovenant (visible.filter fun version => version.rows.covenantId == id) call.asOf
  | .reference text =>
      if text.strip = [] then
        .error (.validationError "covenant must be text or a UUID." "covenant_reference")
      else ofCovenant (visible.filter fun version => version.reference == text.strip) call.asOf

/-- A pending row once a test has resolved it. -/
def CovenantSchedule.settle (schedule : CovenantSchedule) (testId : Uuid) : CovenantSchedule :=
  { schedule with
    state := .tested
    testId := some testId }

/-- The tables with a new test, and its pending row resolved. -/
def persistTest (book : TestBook ν) (test : StoredTest ν) : Except DomainError (TestBook ν) :=
  if fresh : book.tests.find test.id = none then do
    let linked ← pendingSchedule book test.row.covenantVersionId test.row.asOfDate
    return {
      versions := book.versions
      tests := book.tests.insert test fresh
      schedules := linked.elim book.schedules fun schedule =>
        book.schedules.put (schedule.settle test.id)
      testedAtLeastOnce := test.row.covenantVersionId :: book.testedAtLeastOnce }
  else .error ⟨.raised, "UNIQUE constraint failed: covenant_test.id".toList, none⟩

/-- Source `EngineService.test`. -/
def engineTest (arithmetic : Arithmetic ν) (book : TestBook ν) (call : TestCall) :
    Except DomainError (TestBook ν) := do
  let version ← loadVersion book call
  let row ← testCovenant arithmetic version.rows (call.computeRatio version) call.arguments
  let persisted ← persistTest book ⟨call.newId, row⟩
  call.deriveSma
  return persisted

/-! ## Queueing retests -/

/-- Source `_queue_one_retest`, and `_queue_recomputation` of the certificate service. -/
def queueOneRetest (dueDate : Date) (book : TestBook ν) (retest : Uuid × Uuid) :
    Except DomainError (TestBook ν) := do
  let existing ← pendingSchedule book retest.1 dueDate
  match existing with
  | some _ => .ok book
  | none =>
      if (book.schedules.find retest.2).isSome then
        .error ⟨.raised, "UNIQUE constraint failed: covenant_schedule.id".toList, none⟩
      else .ok { book with
        schedules := book.schedules.insertNew ⟨retest.2, retest.1, dueDate, .due, none⟩ }

/-- Source `EngineService.queue_retest`, for the versions a trigger affects and the identifiers of
    the rows it may add. -/
def queueRetest (book : TestBook ν) (retests : List (Uuid × Uuid)) (asOfDate : Date) :
    Except DomainError (TestBook ν) := retests.foldlM (queueOneRetest asOfDate) book

/-! ## The night -/

/-- The facts of one night: its date, the borrowers it runs for, the statement lines of each version
    and the identifiers of the tests. -/
structure Night where
  asOfDate : Date
  inScope : LoadedVersion → Bool
  lines : LoadedVersion → Except DomainError (Option (Date → Bool → Except DomainError RatioResult))
  newId : Uuid → Uuid
  deriveSma : Uuid → Except DomainError Unit

/-- Source `_live_covenant_versions`. -/
def liveVersions (book : TestBook ν) (night : Night) : List LoadedVersion :=
  (book.versions.filter fun version => night.inScope version && version.isLive &&
    version.isActive && version.isEffective night.asOfDate).insertionSort
      fun a b => a.id.int ≤ b.id.int

/-- Source `_already_tested`: a pending row for the date asks for another test. -/
def alreadyTested (book : TestBook ν) (versionId : Uuid) (asOfDate : Date) : Bool :=
  book.tests.rows.any (fun test => decide (test.row.covenantVersionId = versionId) &&
    decide (test.row.asOfDate = asOfDate)) &&
    !book.schedules.rows.any fun schedule => schedule.isPending versionId asOfDate

/-- The call a night makes for one version. -/
def nightlyCall (night : Night) (version : LoadedVersion)
    (lines : Date → Bool → Except DomainError RatioResult) : TestCall where
  identifier := .versionId version.id
  inScope := night.inScope
  arguments := { period := .date night.asOfDate, asOfDate := some night.asOfDate }
  today := night.asOfDate
  computeRatio := fun _ => lines
  newId := night.newId version.id
  deriveSma := night.deriveSma version.id

/-- One turn of the loop of `_run_test`: a test that fails is rolled back to its savepoint. -/
def testOne (arithmetic : Arithmetic ν) (night : Night) (book : TestBook ν)
    (version : LoadedVersion) : Except DomainError (TestBook ν) :=
  if alreadyTested book version.id night.asOfDate then .ok book
  else do
    let lines ← night.lines version
    match lines with
    | none => return book
    | some lines =>
        match engineTest arithmetic book (nightlyCall night version lines) with
        | .ok tested => return tested
        | .error _ => return book

/-- Source `_run_test`. -/
def runTest (arithmetic : Arithmetic ν) (book : TestBook ν) (night : Night) :
    Except DomainError (TestBook ν) :=
  (liveVersions book night).foldlM (testOne arithmetic night) book

/-! ## Runs -/

/-- What happens to the tables: a night, a test on demand, or retests that are queued. -/
inductive TestOp where
  | night (night : Night)
  | test (call : TestCall)
  | retest (retests : List (Uuid × Uuid)) (asOfDate : Date)

/-- The tables after a step that returns. -/
def perform (arithmetic : Arithmetic ν) (book : TestBook ν) : TestOp → Except DomainError (TestBook ν)
  | .night night => runTest arithmetic book night
  | .test call => engineTest arithmetic book call
  | .retest retests asOfDate => queueRetest book retests asOfDate

/-- The tables after a step: one that raises is rolled back. -/
def step (arithmetic : Arithmetic ν) (book : TestBook ν) (op : TestOp) : TestBook ν :=
  match perform arithmetic book op with
  | .ok next => next
  | .error _ => book

/-- The tables after steps one after the other. -/
def run (arithmetic : Arithmetic ν) (book : TestBook ν) (ops : List TestOp) : TestBook ν :=
  ops.foldl (step arithmetic) book

/-! ## What tests resolve -/

/-- A test that is in the second tables and not in the first. -/
def NewTest (book next : TestBook ν) (test : StoredTest ν) : Prop :=
  next.tests.find test.id = some test ∧ book.tests.find test.id = none

/-- Tests were added, each of a live version, and each has resolved the pending occurrences of its
    version and date; no other occurrence has changed. -/
structure Settled (book next : TestBook ν) : Prop where
  versions : next.versions = book.versions
  tests : ∀ id test, book.tests.find id = some test → next.tests.find id = some test
  rows : ∀ id row, book.schedules.find id = some row →
    ∃ row', next.schedules.find id = some row' ∧ (row' = row ∨
      row.state = .due ∧ ∃ test, NewTest book next test ∧
        test.row.covenantVersionId = row.covenantVersionId ∧ test.row.asOfDate = row.dueDate ∧
        row' = row.settle test.id)
  noRows : ∀ id, book.schedules.find id = none → next.schedules.find id = none
  live : ∀ test, NewTest book next test → ∃ version ∈ book.versions,
    version.id = test.row.covenantVersionId ∧ version.isActive = true ∧ version.isLive = true
  resolved : ∀ test, NewTest book next test → ∀ id row, next.schedules.find id = some row →
    row.isPending test.row.covenantVersionId test.row.asOfDate = false

theorem Settled.refl (book : TestBook ν) : Settled book book where
  versions := rfl
  tests := fun _ _ found => found
  rows := fun _ row found => ⟨row, found, Or.inl rfl⟩
  noRows := fun _ none => none
  live := by
    rintro test ⟨found, absent⟩
    rw [found] at absent
    cases absent
  resolved := by
    rintro test ⟨found, absent⟩
    rw [found] at absent
    cases absent

/-- A test that was added was added in the first part or in the second. -/
theorem NewTest.split {a b c : TestBook ν} {test : StoredTest ν} (new : NewTest a c test)
    (kept : ∀ id test, b.tests.find id = some test → c.tests.find id = some test) :
    NewTest a b test ∨ NewTest b c test := by
  cases middle : b.tests.find test.id with
  | none => exact Or.inr ⟨new.1, middle⟩
  | some other =>
    have same := kept _ _ middle
    rw [new.1] at same
    cases same
    exact Or.inl ⟨middle, new.2⟩

theorem Settled.trans {a b c : TestBook ν} (first : Settled a b) (second : Settled b c) :
    Settled a c where
  versions := second.versions.trans first.versions
  tests := fun id test found => second.tests id test (first.tests id test found)
  rows := by
    intro id row found
    obtain ⟨row', found', change⟩ := first.rows id row found
    obtain ⟨row'', found'', change'⟩ := second.rows id row' found'
    refine ⟨row'', found'', ?_⟩
    rcases change with rfl | ⟨due, test, new, version, date, rfl⟩
    · rcases change' with rfl | ⟨due, test, new, version, date, rfl⟩
      · exact Or.inl rfl
      · refine Or.inr ⟨due, test, ⟨new.1, ?_⟩, version, date, rfl⟩
        cases early : a.tests.find test.id with
        | none => rfl
        | some other =>
          have kept := first.tests _ _ early
          rw [new.2] at kept
          cases kept
    · rcases change' with rfl | ⟨due', _⟩
      · exact Or.inr ⟨due, test, ⟨second.tests _ _ new.1, new.2⟩, version, date, rfl⟩
      · cases due'
  noRows := fun id none => second.noRows id (first.noRows id none)
  live := by
    intro test new
    rcases new.split second.tests with new | new
    · exact first.live test new
    · obtain ⟨version, listed, live⟩ := second.live test new
      exact ⟨version, first.versions ▸ listed, live⟩
  resolved := by
    intro test new id row found
    rcases new.split second.tests with new | new
    · cases earlier : b.schedules.find id with
      | none =>
        rw [second.noRows id earlier] at found
        cases found
      | some row' =>
        obtain ⟨row'', found'', change⟩ := second.rows id row' earlier
        rw [found] at found''
        cases found''
        rcases change with rfl | ⟨_, other, _, _, _, rfl⟩
        · exact first.resolved test new id _ earlier
        · simp [CovenantSchedule.isPending, CovenantSchedule.settle]
    · exact second.resolved test new id row found

/-- A row that is pending is the one that is found. -/
theorem pendingSchedule_ok {book : TestBook ν} {versionId : Uuid} {date : Date}
    {linked : Option CovenantSchedule} (found : pendingSchedule book versionId date = .ok linked) :
    ∀ row, row ∈ linked ↔ row ∈ book.schedules.rows ∧ row.isPending versionId date = true := by
  intro row
  have listed : row ∈ book.schedules.rows ∧ row.isPending versionId date = true ↔
      row ∈ book.schedules.rows.filter fun schedule => schedule.isPending versionId date := by
    rw [List.mem_filter]
  rw [listed]
  unfold pendingSchedule at found
  split at found
  · next none =>
    cases found
    rw [none]
    simp
  · next only =>
    cases found
    rw [only]
    simp [eq_comm]
  · cases found

/-- A test that is persisted resolves its pending occurrence. -/
theorem settled_persistTest {book next : TestBook ν} {test : StoredTest ν}
    (persisted : persistTest book test = .ok next)
    (live : ∃ version ∈ book.versions, version.id = test.row.covenantVersionId ∧
      version.isActive = true ∧ version.isLive = true) :
    Settled book next ∧ NewTest book next test := by
  unfold persistTest at persisted
  split_ifs at persisted with fresh
  obtain ⟨linked, pending, persisted⟩ := Except.bind_eq_ok_iff.mp persisted
  cases persisted
  have isLinked := pendingSchedule_ok pending
  have tests : ∀ id, (book.tests.insert test fresh).find id =
      if id = test.id then some test else book.tests.find id := KeyedTable.find_insert fresh
  have onlyNew : ∀ other : StoredTest ν, (book.tests.insert test fresh).find other.id = some other →
      book.tests.find other.id = none → other = test := by
    intro other found absent
    rw [tests] at found
    split_ifs at found with same
    · cases found
      rfl
    · rw [absent] at found
      cases found
  have schedules : ∀ id, (linked.elim book.schedules fun schedule =>
      book.schedules.put (schedule.settle test.id)).find id =
        (book.schedules.find id).map fun row =>
          if row.isPending test.row.covenantVersionId test.row.asOfDate then row.settle test.id
          else row := by
    intro id
    have pendingOf : ∀ row, book.schedules.find id = some row →
        (row.isPending test.row.covenantVersionId test.row.asOfDate = true ↔ row ∈ linked) := by
      intro row found
      rw [isLinked]
      exact (and_iff_right (KeyedTable.find_eq_some_iff.mp found).1).symm
    cases linked with
    | none =>
      cases found : book.schedules.find id with
      | none => exact found
      | some row =>
        have notPending : ¬ row.isPending test.row.covenantVersionId test.row.asOfDate = true :=
          fun pending => Option.not_mem_none _ ((pendingOf row found).mp pending)
        rw [Option.map_some, if_neg notPending]
        exact found
    | some schedule =>
      have present : book.schedules.find (schedule.settle test.id).id = some schedule :=
        KeyedTable.find_of_mem ((isLinked schedule).mp rfl).1
      show (book.schedules.put (schedule.settle test.id)).find id = _
      rw [KeyedTable.find_put present]
      split_ifs with here
      · subst here
        rw [present, Option.map_some, if_pos ((pendingOf schedule present).mpr rfl)]
      · cases found : book.schedules.find id with
        | none => rfl
        | some row =>
          have notPending : ¬ row.isPending test.row.covenantVersionId test.row.asOfDate = true := by
            intro pending
            obtain rfl := Option.some.inj ((pendingOf row found).mp pending)
            exact here (KeyedTable.find_eq_some_iff.mp found).2.symm
          rw [Option.map_some, if_neg notPending]
  have new : NewTest book { book with
      tests := book.tests.insert test fresh
      schedules := linked.elim book.schedules fun schedule =>
        book.schedules.put (schedule.settle test.id)
      testedAtLeastOnce := test.row.covenantVersionId :: book.testedAtLeastOnce } test :=
    ⟨(tests test.id).trans (if_pos rfl), fresh⟩
  refine ⟨⟨rfl, fun id other found => ?_, fun id row found => ?_, fun id absent => ?_,
    fun other isNew => ?_, fun other isNew id row found => ?_⟩, new⟩
  · have apart : id ≠ test.id := by
      rintro rfl
      rw [fresh] at found
      cases found
    exact ((tests id).trans (if_neg apart)).trans found
  · refine ⟨_, (schedules id).trans (by rw [found, Option.map_some]), ?_⟩
    split_ifs with pending
    · obtain ⟨version, date, due⟩ := isPending_iff.mp pending
      exact Or.inr ⟨due, test, new, version.symm, date.symm, rfl⟩
    · exact Or.inl rfl
  · exact (schedules id).trans (by rw [absent, Option.map_none])
  · rw [onlyNew other isNew.1 isNew.2]
    exact live
  · rw [onlyNew other isNew.1 isNew.2]
    have found := (schedules id).symm.trans found
    obtain ⟨old, _, rfl⟩ := Option.map_eq_some_iff.mp found
    split_ifs with pending
    · simp [CovenantSchedule.isPending, CovenantSchedule.settle]
    · exact Bool.not_eq_true _ ▸ pending

/-- A version that a test loads is a live one. -/
theorem requireLive_eq_ok {version loaded : LoadedVersion} {asOf : Date}
    (required : requireLive version asOf = .ok loaded) :
    loaded = version ∧ version.isActive = true ∧ version.isLive = true := by
  unfold requireLive at required
  split_ifs at required with inactive outside
  cases required
  simp only [Bool.not_eq_true', Bool.not_eq_false, Bool.and_eq_true] at inactive
  exact ⟨rfl, inactive⟩

theorem ofCovenant_eq_ok {visible : List LoadedVersion} {asOf : Date} {loaded : LoadedVersion}
    (found : ofCovenant visible asOf = .ok loaded) :
    loaded ∈ visible ∧ loaded.isActive = true ∧ loaded.isLive = true := by
  unfold ofCovenant at found
  split at found
  · cases found
  · next first others =>
    unfold matchingVersion at found
    split at found
    · next version only =>
      obtain ⟨rfl, live⟩ := requireLive_eq_ok found
      have listed : loaded ∈ (first :: others).filter fun version =>
          version.isLive && version.isEffective asOf := by
        rw [only]
        exact List.mem_singleton_self loaded
      exact ⟨List.mem_of_mem_filter listed, live⟩
    · cases found

theorem loadVersion_eq_ok {book : TestBook ν} {call : TestCall} {loaded : LoadedVersion}
    (found : loadVersion book call = .ok loaded) :
    loaded ∈ book.versions ∧ loaded.isActive = true ∧ loaded.isLive = true := by
  unfold loadVersion at found
  cases named : call.identifier with
  | versionId id =>
    simp only [named] at found
    split at found
    · next version listed =>
      obtain ⟨rfl, live⟩ := requireLive_eq_ok found
      exact ⟨List.mem_of_mem_filter (List.mem_of_find?_eq_some listed), live⟩
    · cases found
  | uuid id =>
    simp only [named] at found
    split at found
    · next version listed =>
      obtain ⟨rfl, live⟩ := requireLive_eq_ok found
      exact ⟨List.mem_of_mem_filter (List.mem_of_find?_eq_some listed), live⟩
    · obtain ⟨listed, live⟩ := ofCovenant_eq_ok found
      exact ⟨List.mem_of_mem_filter (List.mem_of_mem_filter listed), live⟩
  | reference text =>
    simp only [named] at found
    split_ifs at found with blank
    obtain ⟨listed, live⟩ := ofCovenant_eq_ok found
    exact ⟨List.mem_of_mem_filter (List.mem_of_mem_filter listed), live⟩

/-- A test is recorded for the version it evaluates. -/
theorem testCovenant_versionId {arithmetic : Arithmetic ν} {covenant : CovenantRows}
    {computeRatio : Date → Bool → Except DomainError RatioResult} {arguments : TestArguments}
    {row : CovenantTestRow ν}
    (tested : testCovenant arithmetic covenant computeRatio arguments = .ok row) :
    row.covenantVersionId = covenant.version.id := by
  obtain ⟨period, coerced, tested⟩ := Except.bind_eq_ok_iff.mp tested
  cases dated : period.date with
  | none =>
    rw [dated] at tested
    cases tested
  | some testDate =>
    rw [dated] at tested
    obtain ⟨ratio, _, tested⟩ := Except.bind_eq_ok_iff.mp tested
    obtain ⟨exception, _, tested⟩ := Except.bind_eq_ok_iff.mp tested
    obtain ⟨waiver, _, tested⟩ := Except.bind_eq_ok_iff.mp tested
    obtain ⟨version, _, tested⟩ := Except.bind_eq_ok_iff.mp tested
    cases tested
    rfl

theorem engineTest_settled {arithmetic : Arithmetic ν} {book next : TestBook ν} {call : TestCall}
    (tested : engineTest arithmetic book call = .ok next) : Settled book next := by
  obtain ⟨version, loaded, tested⟩ := Except.bind_eq_ok_iff.mp tested
  obtain ⟨row, evaluated, tested⟩ := Except.bind_eq_ok_iff.mp tested
  obtain ⟨persisted, stored, tested⟩ := Except.bind_eq_ok_iff.mp tested
  obtain ⟨derived, _, tested⟩ := Except.bind_eq_ok_iff.mp tested
  cases tested
  obtain ⟨listed, live⟩ := loadVersion_eq_ok loaded
  exact (settled_persistTest stored
    ⟨version, listed, (testCovenant_versionId evaluated).symm, live⟩).1

theorem testOne_settled {arithmetic : Arithmetic ν} {night : Night} {book next : TestBook ν}
    {version : LoadedVersion} (tested : testOne arithmetic night book version = .ok next) :
    Settled book next := by
  unfold testOne at tested
  split_ifs at tested with already
  · cases tested
    exact Settled.refl book
  · obtain ⟨lines, _, tested⟩ := Except.bind_eq_ok_iff.mp tested
    cases lines with
    | none =>
      cases tested
      exact Settled.refl book
    | some lines =>
      simp only at tested
      split at tested
      · next made =>
        cases tested
        exact engineTest_settled made
      · cases tested
        exact Settled.refl book

theorem runTest_settled {arithmetic : Arithmetic ν} {night : Night} {book next : TestBook ν}
    (tested : runTest arithmetic book night = .ok next) : Settled book next :=
  foldlM_invariant (Settled book)
    (fun _ _ _ _ settled tested => settled.trans (testOne_settled tested)) (Settled.refl book) tested

/-- Queueing retests adds rows only. -/
theorem queueRetest_frame {book next : TestBook ν} {retests : List (Uuid × Uuid)} {asOfDate : Date}
    (queued : queueRetest book retests asOfDate = .ok next) :
    next.tests = book.tests ∧
      ∀ id row, book.schedules.find id = some row → next.schedules.find id = some row := by
  apply foldlM_invariant (fun next : TestBook ν => next.tests = book.tests ∧
    ∀ id row, book.schedules.find id = some row → next.schedules.find id = some row) _ ⟨rfl,
      fun _ _ found => found⟩ queued
  rintro middle ⟨versionId, id⟩ _ after ⟨tests, rows⟩ step
  obtain ⟨existing, _, step⟩ := Except.bind_eq_ok_iff.mp step
  cases existing with
  | some _ =>
    cases step
    exact ⟨tests, rows⟩
  | none =>
    simp only at step
    split_ifs at step with taken
    cases step
    refine ⟨tests, fun other row found => ?_⟩
    have kept := rows other row found
    show (middle.schedules.insertNew _).find other = some row
    rw [KeyedTable.find_insertNew]
    split_ifs with same
    · rw [kept]
      rfl
    · exact kept

/-- What every step keeps: a test that is new has resolved the occurrences of its own date, and an
    occurrence changes only where such a test resolves it. -/
structure Resolves (book next : TestBook ν) : Prop where
  live : ∀ test, NewTest book next test → ∃ version ∈ book.versions,
    version.id = test.row.covenantVersionId ∧ version.isActive = true ∧ version.isLive = true
  resolved : ∀ test, NewTest book next test → ∀ id row, next.schedules.find id = some row →
    row.isPending test.row.covenantVersionId test.row.asOfDate = false
  rows : ∀ id row, book.schedules.find id = some row →
    ∃ row', next.schedules.find id = some row' ∧ (row' = row ∨
      row.state = .due ∧ ∃ test, NewTest book next test ∧
        test.row.covenantVersionId = row.covenantVersionId ∧ test.row.asOfDate = row.dueDate ∧
        row' = row.settle test.id)

theorem Settled.toResolves {book next : TestBook ν} (settled : Settled book next) :
    Resolves book next := ⟨settled.live, settled.resolved, settled.rows⟩

theorem resolves_of_sameTests {book next : TestBook ν} (tests : next.tests = book.tests)
    (rows : ∀ id row, book.schedules.find id = some row → next.schedules.find id = some row) :
    Resolves book next := by
  have none : ∀ test, ¬ NewTest book next test := by
    rintro test ⟨found, absent⟩
    rw [tests, absent] at found
    cases found
  exact ⟨fun test new => absurd new (none test), fun test new => absurd new (none test),
    fun id row found => ⟨row, rows id row found, Or.inl rfl⟩⟩

theorem step_resolves (arithmetic : Arithmetic ν) (book : TestBook ν) (op : TestOp) :
    Resolves book (step arithmetic book op) := by
  unfold step
  split
  · next next performed =>
    cases op with
    | night night => exact (runTest_settled performed).toResolves
    | test call => exact (engineTest_settled performed).toResolves
    | retest retests asOfDate =>
      obtain ⟨tests, rows⟩ := queueRetest_frame performed
      exact resolves_of_sameTests tests rows
  · exact (Settled.refl book).toResolves

/-- At every step of every run, a test that is added is one of a live version and leaves no
    occurrence of that version pending for its own date: each that was pending is tested, and linked
    to a test of that version and date. An occurrence changes in no other way, so that one whose
    date passes without a test stays due. -/
theorem tests_resolve_own_date (arithmetic : Arithmetic ν) (initial : TestBook ν)
    (ops : List TestOp) (op : TestOp) :
    let book := run arithmetic initial ops
    let next := step arithmetic book op
    (∀ test, NewTest book next test →
      (∃ version ∈ book.versions, version.id = test.row.covenantVersionId ∧
        version.isActive = true ∧ version.isLive = true) ∧
      (∀ row ∈ next.schedules.rows, row.covenantVersionId = test.row.covenantVersionId →
        row.dueDate = test.row.asOfDate → row.state ≠ .due) ∧
      ∀ row ∈ book.schedules.rows, row.covenantVersionId = test.row.covenantVersionId →
        row.dueDate = test.row.asOfDate → row.state = .due →
          ∃ linked ∈ next.tests.rows, linked.row.covenantVersionId = row.covenantVersionId ∧
            linked.row.asOfDate = row.dueDate ∧ row.settle linked.id ∈ next.schedules.rows) ∧
    ∀ row ∈ book.schedules.rows, row ∈ next.schedules.rows ∨
      row.state = .due ∧ ∃ test, NewTest book next test ∧
        test.row.covenantVersionId = row.covenantVersionId ∧ test.row.asOfDate = row.dueDate ∧
        row.settle test.id ∈ next.schedules.rows := by
  intro book next
  have resolves : Resolves book next := step_resolves arithmetic book op
  have change : ∀ row ∈ book.schedules.rows, row ∈ next.schedules.rows ∨
      row.state = .due ∧ ∃ test, NewTest book next test ∧
        test.row.covenantVersionId = row.covenantVersionId ∧ test.row.asOfDate = row.dueDate ∧
        row.settle test.id ∈ next.schedules.rows := by
    intro row listed
    obtain ⟨row', found, same | ⟨due, test, new, version, date, settled⟩⟩ :=
      resolves.rows row.id row (KeyedTable.find_of_mem listed)
    · exact Or.inl (same ▸ (KeyedTable.find_eq_some_iff.mp found).1)
    · exact Or.inr ⟨due, test, new, version, date, settled ▸ (KeyedTable.find_eq_some_iff.mp found).1⟩
  have pending : ∀ test, NewTest book next test → ∀ row ∈ next.schedules.rows,
      row.covenantVersionId = test.row.covenantVersionId → row.dueDate = test.row.asOfDate →
        row.state ≠ .due := by
    intro test new row listed version date due
    have settled := resolves.resolved test new row.id row (KeyedTable.find_of_mem listed)
    rw [isPending_iff.mpr ⟨version, date, due⟩] at settled
    cases settled
  refine ⟨fun test new => ⟨resolves.live test new, pending test new, ?_⟩, change⟩
  intro row listed version date due
  rcases change row listed with same | ⟨_, linked, isNew, ofVersion, onDate, settled⟩
  · exact absurd due (pending test new row same version date)
  · exact ⟨linked, (KeyedTable.find_eq_some_iff.mp isNew.1).1, ofVersion, onDate, settled⟩

/-! ## A night that was skipped -/

theorem skipped_valid : 1 ≤ 2026 ∧ 2026 ≤ 9999 ∧ 1 ≤ 5 ∧ 5 ≤ 12 ∧ 1 ≤ 14 ∧
    14 ≤ daysInMonth 2026 5 := by decide

/-- The day before the night. -/
def skipped : Date := ⟨2026, 5, 14, skipped_valid⟩

/-- The occurrence of the day before. -/
def skippedRow : CovenantSchedule := ⟨Uuid.ofInt 21, Uuid.ofInt 7, skipped, .due, none⟩

theorem skippedRow_distinct : ([skippedRow].map CovenantSchedule.id).Nodup := List.nodup_singleton _

/-- One live version, with an occurrence on the day before. -/
def skippedBook : TestBook ℚ where
  versions := [⟨relaxedCovenant, "DSCR".toList, true, true, skipped, none⟩]
  tests := KeyedTable.empty
  schedules := ⟨[skippedRow], skippedRow_distinct⟩
  testedAtLeastOnce := []

/-- The night of the next day. -/
def laterNight : Night where
  asOfDate := midMay
  inScope := fun _ => true
  lines := fun _ => .ok (some sampleRatio)
  newId := fun _ => Uuid.ofInt 31
  deriveSma := fun _ => .ok ()

theorem step_skippedBook :
    (step Arithmetic.exact skippedBook (.night laterNight)).tests.rows.map (fun test =>
        (test.id, test.row.covenantVersionId, test.row.asOfDate)) =
          [(Uuid.ofInt 31, Uuid.ofInt 7, midMay)] ∧
      (step Arithmetic.exact skippedBook (.night laterNight)).schedules.rows = [skippedRow] := by
  decide

/-- The night of the next day tests the version, and the occurrence stays due. -/
theorem skipped_stays_due : ¬ ∀ (initial : TestBook ℚ) (ops : List TestOp) (op : TestOp),
    let book := run Arithmetic.exact initial ops
    let next := step Arithmetic.exact book op
    ∀ test, NewTest book next test → ∀ row ∈ next.schedules.rows,
      row.covenantVersionId = test.row.covenantVersionId → row.dueDate ≤ test.row.asOfDate →
        row.state ≠ .due := by
  intro claimed
  obtain ⟨tests, rows⟩ := step_skippedBook
  obtain ⟨test, only, fields⟩ := List.map_eq_singleton_iff.mp tests
  obtain ⟨_, version, date⟩ : test.id = Uuid.ofInt 31 ∧
      test.row.covenantVersionId = Uuid.ofInt 7 ∧ test.row.asOfDate = midMay := by
    simpa only [Prod.mk.injEq] using fields
  have new : NewTest skippedBook (step Arithmetic.exact skippedBook (.night laterNight)) test :=
    ⟨KeyedTable.find_of_mem (only ▸ List.mem_singleton_self test), rfl⟩
  have listed : skippedRow ∈
      (step Arithmetic.exact skippedBook (.night laterNight)).schedules.rows := by
    rw [rows]
    exact List.mem_singleton_self skippedRow
  refine claimed skippedBook [] (.night laterNight) test new skippedRow listed version.symm ?_ rfl
  rw [date]
  decide

end Nightly

end CovenantRadar
