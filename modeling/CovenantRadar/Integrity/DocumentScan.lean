import CovenantRadar.Integrity.Rolling

/-!
# What consecutive runs ask the document store

A run asks for the documents behind its watermark, and for those from the beginning when there are
none. The place it starts from moves as a rolling window does, also past documents that are missing.
-/

namespace CovenantRadar

namespace Integrity

open Audit RollingWindow

/-! ## Places in the table -/

/-- A run with this watermark asks for the documents behind a place. -/
def StartsAt (table : DocumentTable) (batchSize : Nat) (watermark : Option Uuid) (place : ℕ) : Prop :=
  (documentsToCheck table batchSize watermark).1 = (table.rows.drop place).take batchSize

variable {table : DocumentTable} {batchSize : Nat}

/-- The documents behind a watermark are the end of the table. -/
theorem exists_drop_eq_itemsAfter (watermark : Option Uuid) :
    ∃ place ≤ table.rows.length,
      Keyset.itemsAfter (fun row : DocumentRow => row.id.int) (watermark.map Uuid.int) table.rows =
        table.rows.drop place := by
  cases watermark with
  | none => exact ⟨0, Nat.zero_le _, Keyset.itemsAfter_none _⟩
  | some last =>
    have parts := @filter_append_filter_not _ (fun row : DocumentRow => decide (row.id.int ≤ last.int))
      table.rows (table.increasing.imp fun {a b} ordered kept => by
        simp only [decide_eq_true_eq] at kept ⊢
        omega)
    refine ⟨(table.rows.filter fun row => decide (row.id.int ≤ last.int)).length,
      List.length_filter_le _ _, ?_⟩
    have behind : Keyset.itemsAfter (fun row : DocumentRow => row.id.int) (some last.int) table.rows =
        table.rows.filter fun row => !decide (row.id.int ≤ last.int) := by
      apply List.filter_congr
      intro row _
      simp only [Option.all_some, ← decide_not, not_le]
    have split := @List.drop_left _ (table.rows.filter fun row => decide (row.id.int ≤ last.int))
      (table.rows.filter fun row => !decide (row.id.int ≤ last.int))
    rw [parts] at split
    rw [Option.map_some, behind]
    exact split.symm

/-- Behind the end of the table the scan starts again. -/
theorem startsAt_of_itemsAfter (positive : 1 ≤ batchSize) {watermark : Option Uuid} {place : ℕ}
    (behind : Keyset.itemsAfter (fun row : DocumentRow => row.id.int) (watermark.map Uuid.int)
      table.rows = table.rows.drop place) :
    StartsAt table batchSize watermark (if table.rows.length ≤ place then 0 else place) := by
  unfold StartsAt documentsToCheck documentBatch
  simp only [behind]
  by_cases finished : table.rows.length ≤ place
  · rw [if_pos finished, List.drop_eq_nil_of_le finished]
    cases watermark with
    | none =>
      rw [Option.map_none, Keyset.itemsAfter_none] at behind
      have empty : table.rows = [] := behind.trans (List.drop_eq_nil_of_le finished)
      simp only [empty, List.drop_nil, List.take_nil]
      rfl
    | some last => simp
  · have left : ((table.rows.drop place).take batchSize).isEmpty = false := by
      rw [List.isEmpty_eq_false_iff, ← List.length_pos_iff, List.length_take, List.length_drop]
      omega
    rw [if_neg finished, left, Bool.false_and]
    rfl

/-- Every watermark, also one of no document, starts at some place. -/
theorem exists_startsAt (positive : 1 ≤ batchSize) (some' : table.rows ≠ []) (watermark : Option Uuid) :
    ∃ place < table.rows.length, StartsAt table batchSize watermark place := by
  obtain ⟨place, _, behind⟩ := @exists_drop_eq_itemsAfter table watermark
  refine ⟨_, ?_, startsAt_of_itemsAfter positive behind⟩
  have := List.length_pos_iff.mpr some'
  split_ifs <;> omega

/-- The watermark of a batch starts at the place behind it. -/
theorem startsAt_documentWatermark (positive : 1 ≤ batchSize) {watermark : Option Uuid} {place : ℕ}
    (inside : place < table.rows.length) :
    StartsAt table batchSize
      (documentWatermark ((table.rows.drop place).take batchSize) watermark)
      (advance table.rows.length batchSize place) := by
  -- the documents up to the end of the batch, and those behind it
  have parts : (table.rows.take (place + batchSize)) ++ table.rows.drop (place + batchSize) =
      table.rows := List.take_append_drop _ _
  have batch : ((table.rows.drop place).take batchSize).getLast? =
      (table.rows.take (place + batchSize)).getLast? := by
    have front : table.rows.take (place + batchSize) =
        table.rows.take place ++ (table.rows.drop place).take batchSize := List.take_add
    have some' : (table.rows.drop place).take batchSize ≠ [] := by
      rw [← List.length_pos_iff, List.length_take, List.length_drop]
      omega
    rw [front, List.getLast?_append_of_ne_nil _ some']
  cases last : (table.rows.take (place + batchSize)).getLast? with
  | none =>
    have := List.getLast?_eq_none_iff.mp last
    have empty : (table.rows.take (place + batchSize)).length = 0 := by rw [this]; rfl
    rw [List.length_take] at empty
    omega
  | some row =>
    have behind : Keyset.itemsAfter (fun row : DocumentRow => row.id.int) (some row.id.int)
        table.rows = table.rows.drop (place + batchSize) := by
      have sorted := table.increasing
      rw [← parts] at sorted
      have after := Keyset.itemsAfter_append sorted
      rw [last, parts] at after
      exact after
    have watermark' : documentWatermark ((table.rows.drop place).take batchSize) watermark =
        some row.id := by
      unfold documentWatermark
      rw [batch, last]
    rw [watermark', advance]
    exact startsAt_of_itemsAfter positive behind

/-! ## Runs -/

/-- The watermark a run reads from the metrics it is given. -/
def givenWatermark (previousMetrics : Option Json) : Option Uuid :=
  parseUuid (previousWatermark previousMetrics documentStoreCheck "last_document_id".toList)

theorem documentsToCheck_subset (watermark : Option Uuid) :
    (documentsToCheck table batchSize watermark).1 ⊆ table.rows := by
  have batch : ∀ after, documentBatch table batchSize after ⊆ table.rows := fun after row member =>
    List.mem_of_mem_filter (List.mem_of_mem_take member)
  unfold documentsToCheck
  dsimp only
  split
  · exact batch none
  · exact batch watermark

section

variable {py : Builtins} {hexdigest : ByteArray → Text} {service : IntegrityService}
  {streams : Text → Bool}

/-- What a run asks for, whether it reports a failure, and the watermark it leaves. -/
theorem run_documents {state : DatabaseState} {previousMetrics : Option Json}
    {outcome : RunOutcome} (configured : service.documentStore = some streams)
    (same : state.documents = table)
    (returned : run py hexdigest service state previousMetrics = .ok outcome) :
    outcome.documents =
        (documentsToCheck table service.documentBatchSize (givenWatermark previousMetrics)).1 ∧
      (outcome.report.reportsFailure documentStoreCheck = true ↔
        ∃ row ∈ outcome.documents, streams row.storageKey = false) ∧
      givenWatermark (some outcome.report.asMetrics) =
        documentWatermark outcome.documents (givenWatermark previousMetrics) := by
  obtain ⟨auditChain, checked, rfl⟩ := run_eq_ok_iff.mp returned
  have first : auditChain.name = auditChainCheck := by
    cases last : state.events.rows.getLast? with
    | none =>
      rw [checkAuditChain, last] at checked
      cases checked
      rfl
    | some tail =>
      rw [checkAuditChain_eq last] at checked
      obtain ⟨found, _, rfl⟩ := Except.map_eq_ok_iff.mp checked
      exact sliceResult_name _ _ _ found
  have named := checkDocumentStore_name service.documentStore service.documentBatchSize
    state.documents previousMetrics
  rw [configured, same] at named ⊢
  refine ⟨rfl, ?_, ?_⟩
  · rw [(reportsFailure_checks _ _ _ first named).2]
    simp only [checkDocumentStore]
    constructor
    · intro failed
      split at failed
      · cases failed
      · rename_i missing
        rw [List.isEmpty_iff, List.filter_eq_nil_iff] at missing
        push Not at missing
        obtain ⟨row, member, absent⟩ := missing
        exact ⟨row, member, by simpa using absent⟩
    · rintro ⟨row, member, absent⟩
      rw [if_neg]
      rw [List.isEmpty_iff]
      exact List.ne_nil_of_mem (List.mem_filter.mpr ⟨member, by simp [absent]⟩)
  · unfold givenWatermark
    rw [previousWatermark_asMetrics, (find?_checks _ _ first named).2, Option.bind_some]
    simp only [checkDocumentStore]
    cases documentWatermark (documentsToCheck table service.documentBatchSize
      (parseUuid (previousWatermark previousMetrics documentStoreCheck
        "last_document_id".toList))).1
      (parseUuid (previousWatermark previousMetrics documentStoreCheck
        "last_document_id".toList)) with
    | none => rfl
    | some id => exact Uuid.ofText_str id

/-- Each run asks for the documents of the window the rolling place has come to. -/
theorem runs_documents {states : List DatabaseState} {previousMetrics : Option Json}
    {outcomes : List RunOutcome} (configured : service.documentStore = some streams)
    (same : ∀ state ∈ states, state.documents = table) {place : ℕ}
    (inside : place < table.rows.length)
    (start : StartsAt table service.documentBatchSize (givenWatermark previousMetrics) place)
    (returned : runs py hexdigest service previousMetrics states = .ok outcomes) {count : ℕ}
    (early : count < states.length) :
    ∃ outcome ∈ outcomes, outcome.documents =
      (table.rows.drop (cursorAt table.rows.length service.documentBatchSize place count)).take
        service.documentBatchSize := by
  induction states generalizing previousMetrics outcomes place count with
  | nil => cases early
  | cons state states ih =>
    obtain ⟨outcome, rest, first, later, rfl⟩ := runs_cons_eq_ok_iff.mp returned
    obtain ⟨asked, _, watermark⟩ := run_documents configured (same state List.mem_cons_self) first
    have window := asked.trans start
    cases count with
    | zero => exact ⟨outcome, List.mem_cons_self, window⟩
    | succ count =>
      rw [cursorAt_succ]
      have next := @startsAt_documentWatermark table service.documentBatchSize
        service.documentPositive (givenWatermark previousMetrics) place inside
      rw [← window, ← watermark] at next
      obtain ⟨other, member, window⟩ := ih
        (fun other member => same other (List.mem_cons_of_mem _ member))
        (advance_lt (Nat.zero_lt_of_lt inside)) next later (Nat.lt_of_succ_lt_succ early)
      exact ⟨other, List.mem_cons_of_mem _ member, window⟩

theorem runs_documents_subset {states : List DatabaseState} {previousMetrics : Option Json}
    {outcomes : List RunOutcome} (configured : service.documentStore = some streams)
    (same : ∀ state ∈ states, state.documents = table)
    (returned : runs py hexdigest service previousMetrics states = .ok outcomes) :
    ∀ outcome ∈ outcomes, outcome.documents ⊆ table.rows ∧
      (outcome.report.reportsFailure documentStoreCheck = true ↔
        ∃ row ∈ outcome.documents, streams row.storageKey = false) := by
  induction states generalizing previousMetrics outcomes with
  | nil =>
    cases returned
    exact fun outcome member => absurd member List.not_mem_nil
  | cons state states ih =>
    obtain ⟨outcome, rest, first, later, rfl⟩ := runs_cons_eq_ok_iff.mp returned
    intro other member
    rcases List.mem_cons.mp member with rfl | member
    · obtain ⟨asked, failed, _⟩ := run_documents configured (same state List.mem_cons_self) first
      refine ⟨?_, failed⟩
      rw [asked]
      exact documentsToCheck_subset _
    · exact ih (fun other member => same other (List.mem_cons_of_mem _ member)) later other member

/-- A document whose number a window reads is one of its documents. -/
theorem mem_window_of_reads {place index : ℕ} (inside : index < table.rows.length)
    (reads : Reads batchSize place (index + 1)) :
    table.rows[index] ∈ (table.rows.drop place).take batchSize := by
  obtain ⟨after, upTo⟩ := reads
  apply List.mem_iff_getElem?.mpr
  refine ⟨index - place, ?_⟩
  rw [List.getElem?_take_of_lt (by omega), List.getElem?_drop,
    show place + (index - place) = index by omega, List.getElem?_eq_getElem inside]

/-- One run more than a round has asks for every document, from whatever watermark. -/
theorem runs_ask_every_document {states : List DatabaseState} {previousMetrics : Option Json}
    {outcomes : List RunOutcome} (configured : service.documentStore = some streams)
    (same : ∀ state ∈ states, state.documents = table)
    (enough : states.length = table.rows.length ⌈/⌉ service.documentBatchSize + 1)
    (returned : runs py hexdigest service previousMetrics states = .ok outcomes) :
    ∀ row ∈ table.rows, ∃ outcome ∈ outcomes, row ∈ outcome.documents := by
  intro row member
  obtain ⟨index, inside, rfl⟩ := List.mem_iff_getElem.mp member
  obtain ⟨place, before, start⟩ := exists_startsAt service.documentPositive
    (List.ne_nil_of_mem member) (givenWatermark previousMetrics)
  obtain ⟨count, early, reads⟩ := exists_reads service.documentPositive before
    (Nat.succ_pos index) inside
  obtain ⟨outcome, ran, window⟩ := runs_documents configured same before start returned
    (show count < states.length by omega)
  refine ⟨outcome, ran, ?_⟩
  rw [window]
  exact mem_window_of_reads inside reads

/-- A round that starts with the first document asks for every document. -/
theorem round_asks_every_document {states : List DatabaseState} {previousMetrics : Option Json}
    {first : RunOutcome} {rest : List RunOutcome} (configured : service.documentStore = some streams)
    (same : ∀ state ∈ states, state.documents = table)
    (enough : states.length = table.rows.length ⌈/⌉ service.documentBatchSize)
    (returned : runs py hexdigest service previousMetrics states = .ok (first :: rest))
    (starts : first.documents.head? = table.rows.head?) :
    ∀ row ∈ table.rows, ∃ outcome ∈ first :: rest, row ∈ outcome.documents := by
  intro row member
  have some' := List.ne_nil_of_mem member
  obtain ⟨place, before, start⟩ := exists_startsAt service.documentPositive some'
    (givenWatermark previousMetrics)
  -- the place of the first document is the beginning of the table
  have beginning : place = 0 := by
    cases states with
    | nil => cases returned
    | cons state states =>
      obtain ⟨outcome, others, ran, _, joined⟩ := runs_cons_eq_ok_iff.mp returned
      cases joined
      have asked := (run_documents configured (same state List.mem_cons_self) ran).1.trans start
      rw [asked, List.head?_take, if_neg (by have := service.documentPositive; omega),
        List.head?_drop, List.head?_eq_getElem?] at starts
      have distinct : (table.rows.map DocumentRow.id).Nodup := by
        rw [List.Nodup, List.pairwise_map]
        refine table.increasing.imp fun {a b} less same => ?_
        rw [same] at less
        exact absurd less (Nat.lt_irrefl _)
      exact (List.getElem?_inj before (List.Nodup.of_map _ distinct)).mp starts
  subst beginning
  obtain ⟨index, inside, rfl⟩ := List.mem_iff_getElem.mp member
  obtain ⟨count, early, reads⟩ := exists_reads_of_start service.documentPositive
    (Nat.succ_pos index) inside
  obtain ⟨outcome, ran, window⟩ := runs_documents configured same before start returned
    (show count < states.length by omega)
  refine ⟨outcome, ran, ?_⟩
  rw [window]
  exact mem_window_of_reads inside reads

end

/-- Over a fixed audit table, valid or not, whose first row is genesis with sequence one, and from
    whatever metrics, one run more than a round has reports a failure of the chain exactly if the
    verification of the whole table does. Over a fixed document table every document is asked for in
    any such runs, and in each round that starts with the first document, so a failure is reported
    exactly if bytes are missing. -/
theorem rolling_runs_complete (py : Builtins) (hexdigest : ByteArray → Text)
    (service : IntegrityService) (previousMetrics : Option Json) (states : List DatabaseState) :
    (∀ (table : AuditTable) (first tail : AuditChainRow), (∀ state ∈ states, state.events = table) →
      table.rows.head? = some first → first.sequence = 1 → first.prevHash = none →
      table.rows.getLast? = some tail →
      states.length = tail.sequence.toNat ⌈/⌉ service.auditChainBatchSize + 1 →
      ∃ outcomes, runs py hexdigest service previousMetrics states = .ok outcomes ∧
        ((∃ outcome ∈ outcomes, outcome.report.reportsFailure auditChainCheck = true) ↔
          ∃ found, verifyStored py hexdigest table none none = .ok (some found))) ∧
    (∀ (table : DocumentTable) (streams : Text → Bool), service.documentStore = some streams →
      (∀ state ∈ states, state.documents = table) →
      (∀ state ∈ states, ∀ row ∈ state.events.rows, 1 ≤ row.sequence) →
      ∃ outcomes, runs py hexdigest service previousMetrics states = .ok outcomes ∧
        (states.length = table.rows.length ⌈/⌉ service.documentBatchSize + 1 →
          (∀ row ∈ table.rows, ∃ outcome ∈ outcomes, row ∈ outcome.documents) ∧
          ((∃ outcome ∈ outcomes, outcome.report.reportsFailure documentStoreCheck = true) ↔
            ∃ row ∈ table.rows, streams row.storageKey = false)) ∧
        (states.length = table.rows.length ⌈/⌉ service.documentBatchSize →
          (∀ outcome ∈ outcomes.head?, outcome.documents.head? = table.rows.head?) →
          ∀ row ∈ table.rows, ∃ outcome ∈ outcomes, row ∈ outcome.documents)) := by
  constructor
  · intro table first tail same head sequence genesis last enough
    have positive : ∀ state ∈ states, ∀ row ∈ state.events.rows, 1 ≤ row.sequence := by
      intro state member row listed
      rw [same state member] at listed
      exact positive_of_first head sequence row listed
    obtain ⟨outcomes, returned⟩ := @exists_runs py hexdigest service states previousMetrics positive
    exact ⟨outcomes, returned, runs_report_iff same head sequence genesis last enough returned⟩
  · intro table streams configured same positive
    obtain ⟨outcomes, returned⟩ := @exists_runs py hexdigest service states previousMetrics positive
    refine ⟨outcomes, returned, ?_, ?_⟩
    · intro enough
      have asked := runs_ask_every_document configured same enough returned
      have reported := runs_documents_subset configured same returned
      refine ⟨asked, ?_, ?_⟩
      · rintro ⟨outcome, member, failed⟩
        obtain ⟨drawn, reports⟩ := reported outcome member
        obtain ⟨row, listed, absent⟩ := reports.mp failed
        exact ⟨row, drawn listed, absent⟩
      · rintro ⟨row, listed, absent⟩
        obtain ⟨outcome, member, found⟩ := asked row listed
        exact ⟨outcome, member, (reported outcome member).2.mpr ⟨row, found, absent⟩⟩
    · intro enough starts row listed
      cases outcomes with
      | nil =>
        cases states with
        | nil =>
          have := (lt_ceilDiv_iff service.documentPositive).mpr
            (show 0 * service.documentBatchSize < table.rows.length by
              rw [Nat.zero_mul]
              exact List.length_pos_of_mem listed)
          rw [← enough] at this
          cases this
        | cons state states =>
          obtain ⟨_, _, _, _, impossible⟩ := runs_cons_eq_ok_iff.mp returned
          cases impossible
      | cons first rest =>
        exact round_asks_every_document configured same enough returned (starts first rfl) row listed

/-! ## A sample run -/

theorem sampleRows_increasing :
    [firstRow sampleDigest, secondRow sampleDigest].Pairwise fun a b => a.sequence < b.sequence :=
  List.pairwise_pair.mpr (by decide : (1 : Int) < 2)

theorem sampleRows_utc :
    ∀ row ∈ [firstRow sampleDigest, secondRow sampleDigest],
      row.occurredAt.utcoffset = some 0 := by
  intro row member
  rcases List.mem_pair.mp member with rfl | rfl <;> rfl

/-- The sample chain as a table. -/
def sampleEvents : AuditTable where
  rows := [firstRow sampleDigest, secondRow sampleDigest]
  increasing := sampleRows_increasing
  utc := sampleRows_utc

def firstDocument : DocumentRow := ⟨Uuid.ofInt 1, "first".toList⟩

def secondDocument : DocumentRow := ⟨Uuid.ofInt 2, "second".toList⟩

theorem sampleDocuments_increasing :
    [firstDocument, secondDocument].Pairwise fun a b => a.id.int < b.id.int :=
  List.pairwise_pair.mpr (by decide)

/-- Two documents, of which the store has the first. -/
def sampleDocuments : DocumentTable where
  rows := [firstDocument, secondDocument]
  increasing := sampleDocuments_increasing

def sampleService : IntegrityService where
  documentStore := some fun key => decide (key = "first".toList)
  documentBatchSize := 1
  auditChainBatchSize := 1
  documentPositive := Nat.one_pos
  auditPositive := Nat.one_pos

def sampleState : DatabaseState where
  generatedAt := "2026-01-06T02:00:00+00:00".toList
  events := sampleEvents
  references := ⟨2, 1, 0, []⟩
  snapshotReferences := ⟨0, 0, 0, []⟩
  documents := sampleDocuments

/-- `rolling_runs_complete` on three runs over the sample tables, one row at a time. -/
theorem rolling_runs_complete_sample :
    ∃ outcomes, runs asciiBuiltins sampleDigest sampleService none
        [sampleState, sampleState, sampleState] = .ok outcomes ∧
      (∀ outcome ∈ outcomes, outcome.report.reportsFailure auditChainCheck = false) ∧
      (∀ row ∈ sampleDocuments.rows, ∃ outcome ∈ outcomes, row ∈ outcome.documents) ∧
      ∃ outcome ∈ outcomes, outcome.report.reportsFailure documentStoreCheck = true := by
  have fixed : ∀ state ∈ [sampleState, sampleState, sampleState], state = sampleState := by
    intro state member
    exact List.eq_of_mem_replicate (n := 3) member
  have positive : ∀ row ∈ sampleEvents.rows, 1 ≤ row.sequence := by
    intro row member
    rcases List.mem_pair.mp member with rfl | rfl
    · exact le_refl (1 : Int)
    · exact (by decide : (1 : Int) ≤ 2)
  have complete := rolling_runs_complete asciiBuiltins sampleDigest sampleService none
    [sampleState, sampleState, sampleState]
  obtain ⟨outcomes, returned, chain⟩ := complete.1 sampleEvents (firstRow sampleDigest)
    (secondRow sampleDigest) (fun state member => by rw [fixed state member]; rfl) rfl rfl rfl rfl
    (by decide)
  obtain ⟨others, again, round, -⟩ := complete.2 sampleDocuments _ rfl
    (fun state member => by rw [fixed state member]; rfl)
    (fun state member => by rw [fixed state member]; exact positive)
  cases Except.ok.inj (returned.symm.trans again)
  obtain ⟨asked, failed⟩ := round (by decide)
  refine ⟨outcomes, returned, ?_, asked, failed.mpr ⟨_, List.mem_cons_of_mem _ List.mem_cons_self,
    by decide⟩⟩
  intro outcome member
  rw [← Bool.not_eq_true]
  intro reported
  obtain ⟨found, broken⟩ := chain.mp ⟨outcome, member, reported⟩
  rw [verifyStored_whole] at broken
  cases (sampleRows_verify sampleDigest).symm.trans broken

end Integrity

end CovenantRadar
