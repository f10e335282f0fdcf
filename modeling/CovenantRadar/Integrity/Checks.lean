import CovenantRadar.Audit.Chain
import CovenantRadar.Misc.Keyset
import CovenantRadar.Python.UuidText

/-!
# The rolling integrity checks

One run verifies a bounded slice of the audit chain and asks the document store for a bounded batch of
documents, each behind the watermark the run before it left in its metrics. A run only reads: what it
finds is its report, and its report as metrics is what the next run starts from.
-/

namespace CovenantRadar

namespace Integrity

open Audit

/-! ## Stored rows -/

/-- The table `audit_event` as it is read in sequence order: sequences are unique, and instants are
    read back in UTC. The rows are otherwise anything a store can hold. -/
structure AuditTable where
  rows : List AuditChainRow
  increasing : rows.Pairwise fun a b => a.sequence < b.sequence
  utc : ∀ row ∈ rows, row.occurredAt.utcoffset = some 0

/-- What the check reads of a row of `document`. -/
structure DocumentRow where
  id : Uuid
  storageKey : Text
  deriving DecidableEq

/-- The table `document` in the order of its identifiers. -/
structure DocumentTable where
  rows : List DocumentRow
  increasing : rows.Pairwise fun a b => a.id.int < b.id.int

/-- What the scan of the foreign keys counts: rows, tables, broken references and a sample of them. -/
structure ForeignKeyScan where
  checked : Nat
  tables : Nat
  failed : Nat
  findings : List Json

/-- What one run reads: its clock, and the tables as they are then. -/
structure DatabaseState where
  generatedAt : Text
  events : AuditTable
  references : ForeignKeyScan
  snapshotReferences : ForeignKeyScan
  documents : DocumentTable

/-! ## Reports -/

/-- Source `CheckStatus`. -/
inductive CheckStatus where
  | ok
  | failed
  | notConfigured
  deriving DecidableEq, Repr

/-- The text of a status. -/
def CheckStatus.text : CheckStatus → Text
  | .ok => "ok".toList
  | .failed => "failed".toList
  | .notConfigured => "not_configured".toList

/-- Source `CheckResult`; the counts cannot be negative. -/
structure CheckResult where
  name : Text
  status : CheckStatus
  checked : Nat
  failed : Nat
  detail : Text
  findings : List Json := []
  watermark : Option (List (Text × Json)) := none

/-- Source `IntegrityReport`. -/
structure IntegrityReport where
  generatedAt : Text
  checks : List CheckResult

/-- Source `IntegrityReport.healthy`. -/
def IntegrityReport.healthy (report : IntegrityReport) : Bool :=
  report.checks.all fun check => decide (check.status ≠ .failed)

/-- The report says that a check failed. -/
def IntegrityReport.reportsFailure (report : IntegrityReport) (checkName : Text) : Bool :=
  report.checks.any fun check => decide (check.name = checkName) && decide (check.status = .failed)

/-- `dict(check.watermark) if check.watermark else None`. -/
def watermarkJson : Option (List (Text × Json)) → Json
  | none => .null
  | some [] => .null
  | some (entry :: entries) => .obj (entry :: entries)

/-- One check of `as_metrics`. -/
def CheckResult.json (check : CheckResult) : Json :=
  .obj [("name".toList, .str check.name), ("status".toList, .str check.status.text),
    ("checked".toList, .int check.checked), ("failed".toList, .int check.failed),
    ("detail".toList, .str check.detail), ("findings".toList, .arr check.findings),
    ("watermark".toList, watermarkJson check.watermark)]

/-- Source `IntegrityReport.as_metrics`. -/
def IntegrityReport.asMetrics (report : IntegrityReport) : Json :=
  .obj [("generated_at".toList, .str report.generatedAt), ("healthy".toList, .bool report.healthy),
    ("checks".toList, .arr (report.checks.map CheckResult.json))]

/-! ## Watermarks -/

/-- `isinstance(entry, Mapping) and entry.get("name") == check_name`. -/
def isNamed (checkName : Text) : Json → Bool
  | .obj entries =>
      match dictGet entries "name".toList with
      | some (.str name) => decide (name = checkName)
      | _ => false
  | _ => false

/-- `entry.get("watermark")`, and of that mapping the value of a key. -/
def entryWatermark (key : Text) : Json → Option Json
  | .obj entries =>
      match dictGet entries "watermark".toList with
      | some (.obj watermark) => dictGet watermark key
      | _ => none
  | _ => none

/-- Source `_previous_watermark`. -/
def previousWatermark (previousMetrics : Option Json) (checkName key : Text) : Option Json :=
  match previousMetrics with
  | some (.obj metrics) =>
      match dictGet metrics "checks".toList with
      | some (.arr checks) => (checks.find? (isNamed checkName)).bind (entryWatermark key)
      | _ => none
  | _ => none

/-- Source `_parse_uuid`, on a value read from metrics. -/
def parseUuid : Option Json → Option Uuid
  | some (.str text) => Uuid.ofText text
  | _ => none

/-- The value as an `int`; `True` and `False` are integers too. -/
def asInt : Option Json → Option Int
  | some (.int value) => some value
  | some (.bool value) => some (if value then 1 else 0)
  | _ => none

/-! ## The audit chain -/

section

variable (py : Builtins) (hexdigest : ByteArray → Text)

/-- Source `AuditRepository.rows`. -/
def storedRows (table : AuditTable) (fromSequence toSequence : Option Int) : List AuditChainRow :=
  table.rows.filter fun row =>
    fromSequence.all (· ≤ row.sequence) && toSequence.all (row.sequence ≤ ·)

/-- Source `AuditRepository.verify_chain`: the row before the range is read as its context. -/
def verifyStored (table : AuditTable) (fromSequence toSequence : Option Int) :
    Except AuditError (Option AuditChainBreak) := do
  validateRange fromSequence toSequence
  let rows := storedRows table fromSequence toSequence
  if rows.isEmpty then .ok none
  else
    match fromSequence with
    | none => verifyChain py hexdigest rows none none
    | some low =>
        match maxBy AuditChainRow.sequence (table.rows.filter fun row => row.sequence < low) with
        | none => verifyChain py hexdigest rows (some low) none
        | some predecessor => verifyChain py hexdigest (predecessor :: rows) (some low) none

/-- Source `AUDIT_CHAIN_CHECK`. -/
def auditChainCheck : Text := "audit_chain".toList

/-- The cursor of a run: the watermark, unless it is none of the chain. -/
def auditCursor (previousMetrics : Option Json) (tail : Int) : Int :=
  match asInt (previousWatermark previousMetrics auditChainCheck "last_verified_sequence".toList) with
  | some watermark => if 0 ≤ watermark ∧ watermark < tail then watermark else 0
  | none => 0

/-- The watermark that names a sequence. -/
def sequenceWatermark (sequence : Int) : Option (List (Text × Json)) :=
  some [("last_verified_sequence".toList, .int sequence)]

/-- The finding of a break. -/
def breakFinding (found : AuditChainBreak) : Json :=
  .obj [("sequence".toList, .int found.sequence),
    ("previous_sequence".toList, (found.previousSequence.map Json.int).getD .null),
    ("reason".toList, .str found.reason)]

/-- What is reported of the slice after a cursor: a break leaves the cursor where it is. -/
def sliceResult (cursor toSequence tail : Int) (found : Option AuditChainBreak) : CheckResult :=
  match found with
  | some found => {
      name := auditChainCheck
      status := .failed
      checked := (toSequence - cursor).toNat
      failed := 1
      detail := found.message
      findings := [breakFinding found]
      watermark := sequenceWatermark cursor }
  | none => {
      name := auditChainCheck
      status := .ok
      checked := (toSequence - cursor).toNat
      failed := 0
      detail := "Verified sequence ".toList ++ Text.ofInt (cursor + 1) ++ " through ".toList ++
        Text.ofInt toSequence ++ " of ".toList ++ Text.ofInt tail ++ ".".toList ++
        (if tail ≤ toSequence then
          " The rolling verification cycle reached the current tail and will restart from the ".toList
            ++ "beginning on the next run.".toList
        else [])
      watermark := sequenceWatermark (if tail ≤ toSequence then 0 else toSequence) }

/-- Source `IntegrityService._check_audit_chain`. -/
def checkAuditChain (batchSize : Nat) (table : AuditTable) (previousMetrics : Option Json) :
    Except AuditError CheckResult :=
  match table.rows.getLast? with
  | none => .ok {
      name := auditChainCheck
      status := .ok
      checked := 0
      failed := 0
      detail := "The audit chain has no events yet.".toList }
  | some tail => do
      let cursor := auditCursor previousMetrics tail.sequence
      let toSequence := min tail.sequence (cursor + batchSize)
      let found ← verifyStored py hexdigest table (some (cursor + 1)) (some toSequence)
      .ok (sliceResult cursor toSequence tail.sequence found)

/-! ## References -/

/-- Source `_check_foreign_keys`, after the scan. -/
def foreignKeyResult (name failureNoun : Text) (scan : ForeignKeyScan) : CheckResult :=
  if 0 < scan.failed then {
    name := name
    status := .failed
    checked := scan.checked
    failed := scan.failed
    detail := Text.ofNat scan.failed ++ " row(s) have a ".toList ++ failureNoun ++
      " pointing at a missing row.".toList
    findings := scan.findings }
  else {
    name := name
    status := .ok
    checked := scan.checked
    failed := 0
    detail := "Verified ".toList ++ Text.ofNat scan.checked ++ " row(s) across ".toList ++
      Text.ofNat scan.tables ++ " table(s); no missing references.".toList }

/-- Source `_check_referential_integrity`. -/
def checkReferentialIntegrity (scan : ForeignKeyScan) : CheckResult :=
  foreignKeyResult "referential_integrity".toList "foreign key".toList scan

/-- Source `_check_snapshot_references`. -/
def checkSnapshotReferences (scan : ForeignKeyScan) : CheckResult :=
  foreignKeyResult "snapshot_reference".toList "threshold-snapshot reference".toList scan

/-! ## The document store -/

/-- Source `DOCUMENT_STORE_CHECK`. -/
def documentStoreCheck : Text := "document_store".toList

/-- Source `_document_batch`. -/
def documentBatch (table : DocumentTable) (batchSize : Nat) (after : Option Uuid) :
    List DocumentRow :=
  (Keyset.itemsAfter (fun row => row.id.int) (after.map Uuid.int) table.rows).take batchSize

/-- The documents a run asks for, and whether the scan started again from the first one. -/
def documentsToCheck (table : DocumentTable) (batchSize : Nat) (watermark : Option Uuid) :
    List DocumentRow × Bool :=
  let rows := documentBatch table batchSize watermark
  if rows.isEmpty && watermark.isSome then (documentBatch table batchSize none, true)
  else (rows, false)

/-- Source `_MAX_FINDINGS`. -/
def maxFindings : Nat := 20

/-- The finding of a document without its bytes. -/
def missingFinding (row : DocumentRow) : Json :=
  .obj [("document_id".toList, .str row.id.str), ("storage_key".toList, .str row.storageKey)]

/-- The watermark a batch leaves: its last document, or the watermark before it. -/
def documentWatermark (rows : List DocumentRow) (watermark : Option Uuid) : Option Uuid :=
  match rows.getLast? with
  | some row => some row.id
  | none => watermark

/-- Source `IntegrityService._check_document_store`: the result, and the documents the store was asked
    for. `streams` says for which keys the store has bytes. -/
def checkDocumentStore (documentStore : Option (Text → Bool)) (batchSize : Nat)
    (table : DocumentTable) (previousMetrics : Option Json) : CheckResult × List DocumentRow :=
  match documentStore with
  | none => ({
      name := documentStoreCheck
      status := .notConfigured
      checked := 0
      failed := 0
      detail := "No document store is configured.".toList }, [])
  | some streams =>
      let watermark :=
        parseUuid (previousWatermark previousMetrics documentStoreCheck "last_document_id".toList)
      let asked := documentsToCheck table batchSize watermark
      let rows := asked.1
      let missing := rows.filter fun row => !streams row.storageKey
      ({
        name := documentStoreCheck
        status := if missing.isEmpty then .ok else .failed
        checked := rows.length
        failed := missing.length
        detail := (if missing.isEmpty then
            "Verified ".toList ++ Text.ofNat rows.length ++
              " document(s) against the document store.".toList
          else
            Text.ofNat missing.length ++ " of ".toList ++ Text.ofNat rows.length ++
              " document(s) checked are missing their stored bytes.".toList) ++
          (if asked.2 then
            " The scan cycle restarted from the beginning of the document table.".toList
          else [])
        findings := (missing.map missingFinding).take maxFindings
        watermark := (documentWatermark rows watermark).map fun id =>
          [("last_document_id".toList, .str id.str)] }, rows)

/-! ## Runs -/

/-- Source `IntegrityService`: its document store and the sizes of its batches. -/
structure IntegrityService where
  documentStore : Option (Text → Bool)
  documentBatchSize : Nat
  auditChainBatchSize : Nat
  documentPositive : 1 ≤ documentBatchSize
  auditPositive : 1 ≤ auditChainBatchSize

/-- What a run leaves: its report, and the documents it asked the store for. -/
structure RunOutcome where
  report : IntegrityReport
  documents : List DocumentRow

/-- Source `IntegrityService.run`. -/
def run (service : IntegrityService) (state : DatabaseState) (previousMetrics : Option Json) :
    Except AuditError RunOutcome := do
  let auditChain ← checkAuditChain py hexdigest service.auditChainBatchSize state.events
    previousMetrics
  let documentStore := checkDocumentStore service.documentStore service.documentBatchSize
    state.documents previousMetrics
  .ok {
    report := {
      generatedAt := state.generatedAt
      checks := [auditChain, checkReferentialIntegrity state.references,
        checkSnapshotReferences state.snapshotReferences, documentStore.1] }
    documents := documentStore.2 }

/-- Consecutive runs: each is given the metrics of the one before it. -/
def runs (service : IntegrityService) : Option Json → List DatabaseState →
    Except AuditError (List RunOutcome)
  | _, [] => .ok []
  | previousMetrics, state :: states => do
      let outcome ← run py hexdigest service state previousMetrics
      let rest ← runs service (some outcome.report.asMetrics) states
      .ok (outcome :: rest)

end

end Integrity

end CovenantRadar
