import CovenantRadar.Integrity.Windows
import CovenantRadar.Misc.Windows

/-!
# What consecutive runs see

The cursor of the chain and the place in the document table both move as a rolling window does, as
long as no break holds the cursor back. One run more than a round needs has therefore verified every
sequence and asked for every document, whatever metrics the first of the runs was given.
-/

namespace CovenantRadar

namespace Integrity

open Audit HashChain RollingWindow

/-! ## From the metrics of one run to the next -/

theorem entryWatermark_json (check : CheckResult) (key : Text) :
    entryWatermark key check.json = check.watermark.bind fun entries => dictGet entries key := by
  unfold CheckResult.json
  cases watermark : check.watermark with
  | none => rfl
  | some entries =>
    cases entries with
    | nil => rfl
    | cons entry entries => rfl

/-- The next run reads the watermark of the check of that name. -/
theorem previousWatermark_asMetrics (report : IntegrityReport) (checkName key : Text) :
    previousWatermark (some report.asMetrics) checkName key =
      (report.checks.find? fun check => decide (check.name = checkName)).bind fun check =>
        check.watermark.bind fun entries => dictGet entries key := by
  have stored : previousWatermark (some report.asMetrics) checkName key =
      ((report.checks.map CheckResult.json).find? (isNamed checkName)).bind
        (entryWatermark key) := rfl
  rw [stored, List.find?_map, Option.bind_map]
  congr 1
  funext check
  exact entryWatermark_json check key

theorem foreignKeyResult_name (name failureNoun : Text) (scan : ForeignKeyScan) :
    (foreignKeyResult name failureNoun scan).name = name := by
  unfold foreignKeyResult
  split_ifs <;> rfl

theorem checkDocumentStore_name (documentStore : Option (Text → Bool)) (batchSize : Nat)
    (table : DocumentTable) (previousMetrics : Option Json) :
    (checkDocumentStore documentStore batchSize table previousMetrics).1.name =
      documentStoreCheck := by
  unfold checkDocumentStore
  cases documentStore <;> rfl

section

variable {py : Builtins} {hexdigest : ByteArray → Text} {service : IntegrityService}

/-- A run reports the four checks in their order. -/
theorem run_eq_ok_iff {state : DatabaseState} {previousMetrics : Option Json}
    {outcome : RunOutcome} :
    run py hexdigest service state previousMetrics = .ok outcome ↔
      ∃ auditChain, checkAuditChain py hexdigest service.auditChainBatchSize state.events
          previousMetrics = .ok auditChain ∧
        outcome = {
          report := {
            generatedAt := state.generatedAt
            checks := [auditChain, checkReferentialIntegrity state.references,
              checkSnapshotReferences state.snapshotReferences,
              (checkDocumentStore service.documentStore service.documentBatchSize state.documents
                previousMetrics).1] }
          documents := (checkDocumentStore service.documentStore service.documentBatchSize
            state.documents previousMetrics).2 } := by
  unfold run
  rw [Except.bind_eq_ok_iff]
  simp only [Except.ok.injEq, eq_comm]

theorem runs_cons_eq_ok_iff {previousMetrics : Option Json} {state : DatabaseState}
    {states : List DatabaseState} {outcomes : List RunOutcome} :
    runs py hexdigest service previousMetrics (state :: states) = .ok outcomes ↔
      ∃ outcome rest, run py hexdigest service state previousMetrics = .ok outcome ∧
        runs py hexdigest service (some outcome.report.asMetrics) states = .ok rest ∧
          outcomes = outcome :: rest := by
  rw [runs, Except.bind_eq_ok_iff]
  constructor
  · rintro ⟨outcome, returned, rest⟩
    obtain ⟨others, later, same⟩ := Except.bind_eq_ok_iff.mp rest
    exact ⟨outcome, others, returned, later, (Except.ok.inj same).symm⟩
  · rintro ⟨outcome, others, returned, later, rfl⟩
    exact ⟨outcome, returned, Except.bind_eq_ok_iff.mpr ⟨others, later, rfl⟩⟩

end

theorem checkNames_apart :
    auditChainCheck ≠ documentStoreCheck ∧
      ("referential_integrity".toList ≠ auditChainCheck ∧
        "referential_integrity".toList ≠ documentStoreCheck) ∧
      ("snapshot_reference".toList ≠ auditChainCheck ∧
        "snapshot_reference".toList ≠ documentStoreCheck) := by decide

section

variable {auditChain documentStore : CheckResult}

/-- The first and the last of the four checks are found by name. -/
theorem find?_checks (references snapshots : ForeignKeyScan)
    (first : auditChain.name = auditChainCheck) (last : documentStore.name = documentStoreCheck) :
    ([auditChain, checkReferentialIntegrity references, checkSnapshotReferences snapshots,
        documentStore].find? fun check => decide (check.name = auditChainCheck)) = some auditChain ∧
      ([auditChain, checkReferentialIntegrity references, checkSnapshotReferences snapshots,
        documentStore].find? fun check => decide (check.name = documentStoreCheck)) =
          some documentStore := by
  obtain ⟨apart, second, third⟩ := checkNames_apart
  simp only [List.find?_cons, checkReferentialIntegrity, checkSnapshotReferences,
    foreignKeyResult_name, first, last, apart, second, third, decide_true, decide_false, and_self]

/-- The report fails a check of its own by the status of that check. -/
theorem reportsFailure_checks (generatedAt : Text) (references snapshots : ForeignKeyScan)
    (first : auditChain.name = auditChainCheck) (last : documentStore.name = documentStoreCheck) :
    (IntegrityReport.reportsFailure ⟨generatedAt, [auditChain, checkReferentialIntegrity references,
        checkSnapshotReferences snapshots, documentStore]⟩ auditChainCheck = true ↔
      auditChain.status = .failed) ∧
    (IntegrityReport.reportsFailure ⟨generatedAt, [auditChain, checkReferentialIntegrity references,
        checkSnapshotReferences snapshots, documentStore]⟩ documentStoreCheck = true ↔
      documentStore.status = .failed) := by
  obtain ⟨apart, second, third⟩ := checkNames_apart
  unfold IntegrityReport.reportsFailure
  simp only [List.any_cons, List.any_nil, checkReferentialIntegrity, checkSnapshotReferences,
    foreignKeyResult_name, first, last, apart, apart.symm, second, third, decide_true, decide_false,
    Bool.true_and, Bool.false_and, Bool.or_false, Bool.false_or, decide_eq_true_eq, and_self]

end

/-! ## The chain -/

section

variable {py : Builtins} {hexdigest : ByteArray → Text} {service : IntegrityService}
  {table : AuditTable} {tail : AuditChainRow}

theorem auditCursor_mem (previousMetrics : Option Json) {tail : Int} (positive : 1 ≤ tail) :
    0 ≤ auditCursor previousMetrics tail ∧ auditCursor previousMetrics tail < tail := by
  unfold auditCursor
  split
  · split_ifs with inside
    · exact inside
    · omega
  · omega

theorem sliceResult_name (cursor toSequence tail : Int) (found : Option AuditChainBreak) :
    (sliceResult cursor toSequence tail found).name = auditChainCheck := by
  cases found <;> rfl

theorem sliceResult_failed_iff {cursor toSequence tail : Int} {found : Option AuditChainBreak} :
    (sliceResult cursor toSequence tail found).status = .failed ↔ found ≠ none := by
  cases found with
  | none =>
    constructor
    · intro impossible
      have passed : CheckStatus.ok = CheckStatus.failed := impossible
      cases passed
    · intro impossible
      exact absurd rfl impossible
  | some found => exact ⟨fun _ => Option.some_ne_none found, fun _ => rfl⟩

/-- The watermark of a window that passes is the next cursor. -/
theorem dictGet_sliceResult (cursor toSequence tail : Int) :
    ((sliceResult cursor toSequence tail none).watermark.bind fun entries =>
        dictGet entries "last_verified_sequence".toList) =
      some (.int (if tail ≤ toSequence then 0 else toSequence)) := rfl

/-- A run verifies the window behind its cursor. -/
theorem checkAuditChain_eq {batchSize : Nat} {previousMetrics : Option Json}
    (last : table.rows.getLast? = some tail) :
    checkAuditChain py hexdigest batchSize table previousMetrics =
      (verifyStored py hexdigest table (some (auditCursor previousMetrics tail.sequence + 1))
        (some (min tail.sequence (auditCursor previousMetrics tail.sequence + batchSize)))).map
          (sliceResult (auditCursor previousMetrics tail.sequence)
            (min tail.sequence (auditCursor previousMetrics tail.sequence + batchSize))
            tail.sequence) := by
  unfold checkAuditChain
  rw [last]
  simp only
  cases verifyStored py hexdigest table (some (auditCursor previousMetrics tail.sequence + 1))
    (some (min tail.sequence (auditCursor previousMetrics tail.sequence + batchSize))) <;> rfl

/-- The state of a run in the middle of others: its window, and where the next one starts. -/
theorem run_of_window {state : DatabaseState} {previousMetrics : Option Json}
    {outcome : RunOutcome} (same : state.events = table)
    (last : table.rows.getLast? = some tail) {total cursor : ℕ} (length : tail.sequence = total)
    (start : auditCursor previousMetrics tail.sequence = cursor)
    (returned : run py hexdigest service state previousMetrics = .ok outcome) :
    (outcome.report.reportsFailure auditChainCheck = false ↔
      verifyStored py hexdigest table (some (cursor + 1))
        (some (min total (cursor + service.auditChainBatchSize) : ℕ)) = .ok none) ∧
    (outcome.report.reportsFailure auditChainCheck = false →
      auditCursor (some outcome.report.asMetrics) tail.sequence =
        advance total service.auditChainBatchSize cursor) := by
  obtain ⟨auditChain, checked, rfl⟩ := run_eq_ok_iff.mp returned
  rw [same, checkAuditChain_eq last, start, length] at checked
  obtain ⟨found, verified, rfl⟩ := Except.map_eq_ok_iff.mp checked
  have high : min (total : Int) (cursor + service.auditChainBatchSize) =
      ((min total (cursor + service.auditChainBatchSize) : ℕ) : Int) := by
    push_cast
    rfl
  rw [high] at verified
  have named := sliceResult_name cursor (min total (cursor + service.auditChainBatchSize)) total
    found
  have named' := checkDocumentStore_name service.documentStore service.documentBatchSize
    state.documents previousMetrics
  have reported := (reportsFailure_checks state.generatedAt state.references
    state.snapshotReferences named named').1
  rw [sliceResult_failed_iff] at reported
  have clean : IntegrityReport.reportsFailure ⟨state.generatedAt,
      [sliceResult cursor (min total (cursor + service.auditChainBatchSize)) total found,
        checkReferentialIntegrity state.references,
        checkSnapshotReferences state.snapshotReferences,
        (checkDocumentStore service.documentStore service.documentBatchSize state.documents
          previousMetrics).1]⟩ auditChainCheck = false ↔ found = none := by
    rw [← Bool.not_eq_true, reported, not_not]
  constructor
  · rw [clean, verified]
    simp
  · intro passed
    rw [clean] at passed
    subst passed
    unfold auditCursor
    rw [previousWatermark_asMetrics, (find?_checks _ _ named named').1, Option.bind_some,
      dictGet_sliceResult]
    simp only [asInt, length, advance]
    split_ifs <;> omega

/-- While no run reports a break, each verifies the window the rolling cursor has come to. -/
theorem runs_windows {states : List DatabaseState} {previousMetrics : Option Json}
    {outcomes : List RunOutcome} (same : ∀ state ∈ states, state.events = table)
    (last : table.rows.getLast? = some tail) {total cursor : ℕ} (length : tail.sequence = total)
    (start : auditCursor previousMetrics tail.sequence = cursor)
    (returned : runs py hexdigest service previousMetrics states = .ok outcomes)
    (clean : ∀ outcome ∈ outcomes, outcome.report.reportsFailure auditChainCheck = false)
    {count : ℕ} (early : count < states.length) :
    verifyStored py hexdigest table
        (some (cursorAt total service.auditChainBatchSize cursor count + 1))
        (some (min total (cursorAt total service.auditChainBatchSize cursor count +
          service.auditChainBatchSize) : ℕ)) = .ok none := by
  induction states generalizing previousMetrics outcomes cursor count with
  | nil => cases early
  | cons state states ih =>
    obtain ⟨outcome, rest, first, later, rfl⟩ := runs_cons_eq_ok_iff.mp returned
    have passed := clean outcome List.mem_cons_self
    obtain ⟨window, next⟩ := run_of_window (same state List.mem_cons_self) last length start first
    cases count with
    | zero => exact window.mp passed
    | succ count =>
      rw [cursorAt_succ]
      exact ih (fun other member => same other (List.mem_cons_of_mem _ member)) (next passed) later
        (fun other member => clean other (List.mem_cons_of_mem _ member))
        (Nat.lt_of_succ_lt_succ early)

/-- On readable rows a run returns. -/
theorem exists_run {state : DatabaseState} (previousMetrics : Option Json)
    (positive : ∀ row ∈ state.events.rows, 1 ≤ row.sequence) :
    ∃ outcome, run py hexdigest service state previousMetrics = .ok outcome := by
  have checked : ∃ auditChain, checkAuditChain py hexdigest service.auditChainBatchSize state.events
      previousMetrics = .ok auditChain := by
    cases last : state.events.rows.getLast? with
    | none => exact ⟨_, by rw [checkAuditChain, last]⟩
    | some tail =>
      have reached := positive tail (List.mem_of_getLast? last)
      obtain ⟨lower, upper⟩ := auditCursor_mem previousMetrics reached
      have size := service.auditPositive
      have behind : 1 ≤ auditCursor previousMetrics tail.sequence + 1 := by omega
      have ordered : auditCursor previousMetrics tail.sequence + 1 ≤
          min tail.sequence (auditCursor previousMetrics tail.sequence +
            service.auditChainBatchSize) := by omega
      obtain ⟨found, verified⟩ :=
        @exists_verifyStored py hexdigest state.events _ _ behind ordered positive
      rw [checkAuditChain_eq last, verified]
      exact ⟨_, rfl⟩
  obtain ⟨auditChain, checked⟩ := checked
  exact ⟨_, run_eq_ok_iff.mpr ⟨auditChain, checked, rfl⟩⟩

theorem exists_runs {states : List DatabaseState} (previousMetrics : Option Json)
    (positive : ∀ state ∈ states, ∀ row ∈ state.events.rows, 1 ≤ row.sequence) :
    ∃ outcomes, runs py hexdigest service previousMetrics states = .ok outcomes := by
  induction states generalizing previousMetrics with
  | nil => exact ⟨[], rfl⟩
  | cons state states ih =>
    obtain ⟨outcome, first⟩ := @exists_run py hexdigest service state previousMetrics
      (positive state List.mem_cons_self)
    obtain ⟨rest, later⟩ := ih (some outcome.report.asMetrics)
      fun other member => positive other (List.mem_cons_of_mem _ member)
    exact ⟨outcome :: rest, runs_cons_eq_ok_iff.mpr ⟨outcome, rest, first, later, rfl⟩⟩

/-- No run reports a break in a stretch of the chain. -/
theorem runs_of_stretch {states : List DatabaseState} {previousMetrics : Option Json}
    {outcomes : List RunOutcome} (same : ∀ state ∈ states, state.events = table)
    (last : table.rows.getLast? = some tail) (positive : 1 ≤ tail.sequence)
    (stretch : (rowLinks py hexdigest).Stretch table.rows)
    (returned : runs py hexdigest service previousMetrics states = .ok outcomes) :
    ∀ outcome ∈ outcomes, outcome.report.reportsFailure auditChainCheck = false := by
  induction states generalizing previousMetrics outcomes with
  | nil =>
    cases returned
    exact fun outcome member => absurd member List.not_mem_nil
  | cons state states ih =>
    obtain ⟨outcome, rest, first, later, rfl⟩ := runs_cons_eq_ok_iff.mp returned
    obtain ⟨lower, upper⟩ := auditCursor_mem previousMetrics positive
    obtain ⟨total, length⟩ := Int.eq_ofNat_of_zero_le (show 0 ≤ tail.sequence by omega)
    obtain ⟨cursor, start⟩ := Int.eq_ofNat_of_zero_le lower
    have size := service.auditPositive
    have window := (run_of_window (same state List.mem_cons_self) last length start first).1
    intro other member
    rcases List.mem_cons.mp member with rfl | member
    · apply window.mpr
      exact verifyStored_of_stretch (by omega) (by omega) stretch
    · exact ih (fun other member => same other (List.mem_cons_of_mem _ member)) later other member

/-- From a first row with sequence one all sequences are positive. -/
theorem positive_of_first {first : AuditChainRow} (head : table.rows.head? = some first)
    (sequence : first.sequence = 1) : ∀ row ∈ table.rows, 1 ≤ row.sequence := by
  obtain ⟨rows, place⟩ := List.head?_eq_some_iff.mp head
  have increasing := table.increasing
  rw [place] at increasing ⊢
  intro row member
  rcases List.mem_cons.mp member with rfl | later
  · omega
  · have := (List.pairwise_cons.mp increasing).1 row later
    omega

/-- One run more than a round has reports a break exactly if the whole table has one. -/
theorem runs_report_iff {states : List DatabaseState} {previousMetrics : Option Json}
    {outcomes : List RunOutcome} (same : ∀ state ∈ states, state.events = table)
    {first : AuditChainRow} (head : table.rows.head? = some first) (sequence : first.sequence = 1)
    (genesis : first.prevHash = none) (last : table.rows.getLast? = some tail)
    (enough : states.length = tail.sequence.toNat ⌈/⌉ service.auditChainBatchSize + 1)
    (returned : runs py hexdigest service previousMetrics states = .ok outcomes) :
    (∃ outcome ∈ outcomes, outcome.report.reportsFailure auditChainCheck = true) ↔
      ∃ found, verifyStored py hexdigest table none none = .ok (some found) := by
  have positive := positive_of_first head sequence
  have reached := positive tail (List.mem_of_getLast? last)
  have start : ∀ row ∈ table.rows.head?, row.prevHash = none := by
    intro row member
    rw [head] at member
    cases member
    exact genesis
  rw [verifyStored_whole]
  constructor
  · rintro ⟨outcome, member, reported⟩
    have broken : ¬ (rowLinks py hexdigest).Intact table.rows := by
      intro intact
      have clean := runs_of_stretch same last reached intact.toStretch returned outcome member
      rw [clean] at reported
      cases reported
    apply (reported_of_not_intact broken).2
    exact fun row listed => legible_of_utc (positive row listed) (table.utc row listed)
  · rintro ⟨found, broken⟩
    by_contra silent
    have clean : ∀ outcome ∈ outcomes, outcome.report.reportsFailure auditChainCheck = false := by
      intro outcome member
      rw [← Bool.not_eq_true]
      exact fun reported => silent ⟨outcome, member, reported⟩
    obtain ⟨lower, upper⟩ := auditCursor_mem previousMetrics reached
    obtain ⟨total, length⟩ := Int.eq_ofNat_of_zero_le (show 0 ≤ tail.sequence by omega)
    obtain ⟨cursor, before⟩ := Int.eq_ofNat_of_zero_le lower
    have passed : (rowLinks py hexdigest).Intact table.rows := by
      refine ⟨Links.stretch_iff_forall.mpr ?_, start⟩
      intro row member
      have inside : row.sequence ≤ tail.sequence := by
        obtain ⟨front, place⟩ := List.getLast?_eq_some_iff.mp last
        have increasing := table.increasing
        rw [place] at increasing member
        rcases List.mem_append.mp member with early | isLast
        · have := (List.pairwise_append.mp increasing).2.2 row early tail (List.mem_singleton_self _)
          omega
        · rw [List.mem_singleton.mp isLast]
      have least := positive row member
      have behind : cursor < total := by omega
      have upper : row.sequence.toNat ≤ total := by omega
      have lower : 1 ≤ row.sequence.toNat := by omega
      obtain ⟨count, early, reads⟩ := exists_reads service.auditPositive behind lower upper
      rw [length, Int.toNat_natCast] at enough
      have window := runs_windows same last length before returned clean
        (show count < states.length by omega)
      obtain ⟨after, upTo⟩ := reads
      exact checked_of_verifyStored (by omega) window member (by omega) (by omega)
    rw [verifyChain_whole_iff.mpr passed] at broken
    cases broken

end

end Integrity

end CovenantRadar
