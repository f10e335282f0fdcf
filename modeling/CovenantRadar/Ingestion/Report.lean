import CovenantRadar.Ingestion.Framework
import CovenantRadar.Python.Division
import CovenantRadar.Python.Reading
import CovenantRadar.Python.UuidText

/-!
# The ingestion report

Source `services/ingestion.py`: the reconciled report of a run, the JSON it is stored as, and how
a stored report is read back.
-/

namespace CovenantRadar.Ingestion

open Taxonomy (SignalFamily)

/-- Source `SignalSourceLag`. -/
structure SignalSourceLag where
  sourceId : Uuid
  statedAsOfDate : Option Date
  lagDays : Option Int
  deriving DecidableEq

/-- A share is positive and at most one. -/
def IsShare (share : Decimal) : Prop := 0 < share.value ∧ share.value ≤ 1

instance (share : Decimal) : Decidable (IsShare share) := inferInstanceAs (Decidable (_ ∧ _))

theorem IsShare.plain {share : Decimal} (shared : IsShare share) : IsShare share.plain := by
  unfold IsShare
  rw [share.plain_value]
  exact shared

/-- Source `RejectionReasonSummary`. -/
structure RejectionReasonSummary where
  reason : Text
  count : Nat
  share : Decimal
  dominant : Bool
  explained : Text.strip reason ≠ []
  positive : 1 ≤ count
  shared : IsShare share

/-- Source `RejectionReasonSummary.__post_init__`. -/
def RejectionReasonSummary.make (reason : Text) (count : Nat) (share : Decimal)
    (dominant : Bool) : Except DomainError RejectionReasonSummary :=
  if explained : Text.strip reason ≠ [] then
    if positive : 1 ≤ count then
      if shared : IsShare share then
        .ok ⟨reason, count, share, dominant, explained, positive, shared⟩
      else .error (raised "A rejection reason summary share must be between zero and one.")
    else .error (raised "A rejection reason summary count must be positive.")
  else .error (raised "A rejection reason summary requires a reason.")

theorem RejectionReasonSummary.make_returns {reason : Text} {count : Nat} {share : Decimal}
    (dominant : Bool) (explained : Text.strip reason ≠ []) (positive : 1 ≤ count)
    (shared : IsShare share) :
    make reason count share dominant =
      .ok ⟨reason, count, share, dominant, explained, positive, shared⟩ := by
  rw [make, dif_pos explained, dif_pos positive, dif_pos shared]

/-- Source `SignalIngestionReport`. -/
structure SignalIngestionReport where
  batchId : Uuid
  sourceType : Text
  sourceReference : Option Text
  generatedAt : UtcInstant
  received : Nat
  inserted : Nat
  duplicates : Nat
  rejected : Nat
  quarantined : List QuarantinedSignal
  sourceIds : List Uuid
  familyVolumes : List (SignalFamily × Nat)
  sourceLag : List SignalSourceLag
  topRejectionReasons : List RejectionReasonSummary
  dominantReasonShare : Decimal
  typed : sourceType ≠ []
  reconciles : inserted + duplicates + rejected = received
  sampled : quarantined.length ≤ rejected
  shared : IsShare dominantReasonShare

/-- The constructor arguments of a report. -/
structure ReportArguments where
  batchId : Uuid
  sourceType : Text
  sourceReference : Option Text
  generatedAt : UtcInstant
  received : Nat
  inserted : Nat
  duplicates : Nat
  rejected : Nat
  quarantined : List QuarantinedSignal
  sourceIds : List Uuid
  familyVolumes : List (SignalFamily × Nat)
  sourceLag : List SignalSourceLag
  topRejectionReasons : List RejectionReasonSummary
  dominantReasonShare : Decimal

/-- Source `SignalIngestionReport.__post_init__`. -/
def SignalIngestionReport.make (args : ReportArguments) :
    Except DomainError SignalIngestionReport :=
  if typed : args.sourceType ≠ [] then
    if reconciles : args.inserted + args.duplicates + args.rejected = args.received then
      if sampled : args.quarantined.length ≤ args.rejected then
        if shared : IsShare args.dominantReasonShare then
          .ok { args with typed, reconciles, sampled, shared }
        else .error (raised "The dominant rejection share must be between zero and one.")
      else .error (raised "Signal ingestion report has more quarantine samples than rejects.")
    else .error (raised "Signal ingestion report counts do not reconcile with received rows.")
  else .error (raised "Signal ingestion report source_type is required.")

theorem SignalIngestionReport.make_returns {args : ReportArguments} (typed : args.sourceType ≠ [])
    (reconciles : args.inserted + args.duplicates + args.rejected = args.received)
    (sampled : args.quarantined.length ≤ args.rejected)
    (shared : IsShare args.dominantReasonShare) :
    make args = .ok { args with typed, reconciles, sampled, shared } := by
  rw [make, dif_pos typed, dif_pos reconciles, dif_pos sampled, dif_pos shared]

/-- A report holds its arguments. -/
theorem SignalIngestionReport.make_eq_ok {args : ReportArguments} {report : SignalIngestionReport}
    (made : make args = .ok report) :
    ∃ typed reconciles sampled shared, report = { args with typed, reconciles, sampled, shared } := by
  unfold make at made
  split_ifs at made with typed reconciles sampled shared
  cases made
  exact ⟨typed, reconciles, sampled, shared, rfl⟩

/-! ## The stored report -/

/-- A JSON object. -/
abbrev JsonObject := List (Text × Json)

/-- `None` or a value. -/
def nullable {α : Type} (write : α → Json) (value : Option α) : Json := value.elim .null write

/-- Source `SignalSourceLag.as_dict`. -/
def SignalSourceLag.asDict (lag : SignalSourceLag) : JsonObject :=
  [("source_id".toList, .str lag.sourceId.str),
    ("stated_as_of_date".toList, nullable (fun date => .str date.isoformat) lag.statedAsOfDate),
    ("lag_days".toList, nullable .int lag.lagDays)]

/-- Source `RejectionReasonSummary.as_dict`. -/
def RejectionReasonSummary.asDict (summary : RejectionReasonSummary) : JsonObject :=
  [("reason".toList, .str summary.reason),
    ("count".toList, .int summary.count),
    ("share".toList, .str summary.share.fixed),
    ("dominant".toList, .bool summary.dominant)]

/-- One row of the stored sample. -/
def QuarantinedSignal.asDict (signal : QuarantinedSignal) : JsonObject :=
  [("row_number".toList, .int signal.rowNumber),
    ("reason".toList, .str signal.reason),
    ("source_id".toList, nullable (fun id => .str id.str) signal.sourceId)]

/-- Source `_TOP_REJECTION_REASON_LIMIT`. -/
def topRejectionReasonLimit : Nat := 5

section

variable (report : SignalIngestionReport)

namespace SignalIngestionReport

def accepted : Nat := report.inserted + report.duplicates

def dominantReasonFlagged : Bool := report.topRejectionReasons.any (·.dominant)

/-- The rows the stored report keeps. -/
def sample : List QuarantinedSignal := report.quarantined.take topRejectionReasonLimit

/-- Source `SignalIngestionReport.as_dict`. -/
def asDict : JsonObject :=
  [("report_type".toList, .str "signal_ingestion".toList),
    ("report_version".toList, .int 1),
    ("batch_id".toList, .str report.batchId.str),
    ("source_type".toList, .str report.sourceType),
    ("source_reference".toList, nullable .str report.sourceReference),
    ("generated_at".toList, .str report.generatedAt.isoformatAuto),
    ("received".toList, .int report.received),
    ("accepted".toList, .int report.accepted),
    ("inserted".toList, .int report.inserted),
    ("duplicates".toList, .int report.duplicates),
    ("rejected".toList, .int report.rejected),
    ("quarantined".toList, .int report.rejected),
    ("reconciled".toList, .bool true),
    ("source_ids".toList, .arr (report.sourceIds.map fun id => .str id.str)),
    ("outcomes".toList, .obj [
      ("received".toList, .int report.received),
      ("accepted".toList, .int report.accepted),
      ("inserted".toList, .int report.inserted),
      ("duplicates".toList, .int report.duplicates),
      ("rejected".toList, .int report.rejected)]),
    ("family_volumes".toList, .obj (report.familyVolumes.map fun entry =>
      (entry.1.value, .int entry.2))),
    ("source_lag".toList, .arr (report.sourceLag.map fun lag => .obj lag.asDict)),
    ("top_rejection_reasons".toList, .arr (report.topRejectionReasons.map fun summary =>
      .obj summary.asDict)),
    ("dominant_reason_share".toList, .str report.dominantReasonShare.fixed),
    ("dominant_reason_flagged".toList, .bool report.dominantReasonFlagged),
    ("quarantine".toList, .obj [
      ("count".toList, .int report.rejected),
      ("sample".toList, .arr (report.sample.map fun signal => .obj signal.asDict))])]

end SignalIngestionReport

end

/-! ## Reading a stored report -/

/-- `data.get(key, default)`. -/
def fieldOr (data : JsonObject) (key : String) (default : Json) : Json :=
  (Json.lookup key.toList data).getD default

/-- `data.get(key)`. -/
def field (data : JsonObject) (key : String) : Json := fieldOr data key .null

/-- The error of a reader. -/
def misread {α : Type} (name problem : String) : Except DomainError α :=
  .error (raised s!"Persisted report field '{name}' must {problem}")

/-- Source `_report_text`. -/
def reportText (value : Json) (name : String) : Except DomainError Text :=
  match value with
  | .str text => if Text.strip text = [] then misread name "be a non-empty string." else .ok text
  | _ => misread name "be a non-empty string."

/-- Source `_report_int`. -/
def reportInt (value : Json) (name : String) : Except DomainError Nat :=
  match value with
  | .int count => if count < 0 then misread name "be a non-negative integer." else .ok count.toNat
  | _ => misread name "be a non-negative integer."

/-- Source `_report_optional_int`. -/
def reportOptionalInt (value : Json) (name : String) : Except DomainError (Option Nat) :=
  match value with
  | .null => .ok none
  | given => (reportInt given name).map some

/-- Source `_report_bool`. -/
def reportBool (value : Json) (name : String) : Except DomainError Bool :=
  match value with
  | .bool flag => .ok flag
  | _ => misread name "be boolean."

/-- Source `_report_decimal`. -/
def reportDecimal (value : Json) (name : String) : Except DomainError Decimal :=
  match value with
  | .str text => (Decimal.ofText text).elim (misread name "be a decimal.") .ok
  | .int number => .ok (Decimal.ofInt number)
  | .float literal => (Decimal.ofText literal.text).elim (misread name "be a decimal.") .ok
  | _ => misread name "be a decimal."

/-- Source `_report_uuid`. -/
def reportUuid (value : Json) (name : String) : Except DomainError Uuid :=
  match value with
  | .str text => (Uuid.ofText text).elim (misread name "contain a UUID.") .ok
  | _ => misread name "contain a UUID."

/-- `date.fromisoformat(text)` on `YYYY-MM-DD`. -/
def dateOfIso (text : Text) : Option Date :=
  (readDate text).bind fun date => if date.2 = [] then some date.1 else none

/-- Source `_report_date`. -/
def reportDate (value : Json) : Except DomainError (Option Date) :=
  let refused := .error (raised "Persisted report dates must be ISO date strings.")
  match value with
  | .null => .ok none
  | .str text => (dateOfIso text).elim refused fun date => .ok (some date)
  | _ => refused

/-- The end of `_report_datetime`. -/
def toUtc (parsed : Datetime) : Except DomainError UtcInstant :=
  match parsed.utcoffset with
  | none => .error (raised "Persisted signal report generated_at must be timezone-aware.")
  | some offset =>
    (parsed.astimezone offset).elim (.error (raised "date value out of range")) .ok

/-- Source `_report_datetime`. -/
def reportDatetime (value : Json) : Except DomainError UtcInstant :=
  let refused := .error (raised "Persisted signal report generated_at must be an ISO datetime.")
  match value with
  | .str text => (fromIsoformat text).elim refused toUtc
  | _ => refused

/-- Source `_report_list`. -/
def reportList : Json → Except DomainError (List Json)
  | .arr items => .ok items
  | _ => .error (raised "Persisted report list fields must be sequences.")

/-- One item of `_report_mapping_list`. -/
def reportObject (name : String) : Json → Except DomainError JsonObject
  | .obj entries => .ok entries
  | _ => misread name "contain objects."

/-- Source `_report_mapping_list`. -/
def reportMappingList (value : Json) (name : String) : Except DomainError (List JsonObject) := do
  let items ← reportList value
  items.mapM (reportObject name)

/-- A source lag of a stored report. -/
def SignalSourceLag.ofDict (item : JsonObject) : Except DomainError SignalSourceLag := do
  let sourceId ← reportUuid (field item "source_id") "source_lag.source_id"
  let statedAsOfDate ← reportDate (field item "stated_as_of_date")
  let lagDays ← reportOptionalInt (field item "lag_days") "source_lag.lag_days"
  .ok ⟨sourceId, statedAsOfDate, lagDays.map Int.ofNat⟩

/-- A rejection reason of a stored report. -/
def RejectionReasonSummary.ofDict (item : JsonObject) :
    Except DomainError RejectionReasonSummary := do
  let reason ← reportText (field item "reason") "top_rejection_reasons.reason"
  let count ← reportInt (field item "count") "top_rejection_reasons.count"
  let share ← reportDecimal (field item "share") "top_rejection_reasons.share"
  let dominant ← reportBool (fieldOr item "dominant" (.bool false)) "top_rejection_reasons.dominant"
  make reason count share dominant

/-- The source of a sample row: absent, null or an identifier. -/
def reportSource (value : Json) : Except DomainError (Option Uuid) :=
  match value with
  | .null => .ok none
  | given => (reportUuid given "quarantine.source_id").map some

/-- A sample row of a stored report. -/
def QuarantinedSignal.ofDict (batch : Json) (generatedAt : UtcInstant) (item : JsonObject) :
    Except DomainError QuarantinedSignal := do
  let batchId ← reportUuid batch "batch_id"
  let rowNumber ← reportInt (field item "row_number") "quarantine.row_number"
  let reason ← reportText (field item "reason") "quarantine.reason"
  let sourceId ← reportSource (field item "source_id")
  make batchId rowNumber none reason generatedAt sourceId

/-- The samples of a stored report. -/
def reportSamples (data : JsonObject) (generatedAt : UtcInstant) :
    Except DomainError (List QuarantinedSignal) :=
  match fieldOr data "quarantine" (.obj []) with
  | .obj quarantine => do
    let items ← reportMappingList (fieldOr quarantine "sample" (.arr [])) "quarantine.sample"
    items.mapM (QuarantinedSignal.ofDict (field data "batch_id") generatedAt)
  | _ => .ok []

/-- One entry of the stored family volumes, with the check of `__post_init__`. -/
def reportVolume (entry : Text × Json) : Except DomainError (SignalFamily × Nat) := do
  let name ← reportText (.str entry.1) "family_volumes.key"
  let count ← reportInt entry.2 "family_volumes.value"
  match SignalFamily.families.find? fun family => family.value = name with
  | none => .error ⟨.raised,
      "Unknown signal family in report: ".toList ++ Text.repr name ++ ".".toList, none⟩
  | some family => .ok (family, count)

/-- The object of the stored family volumes. -/
def reportVolumes : Json → Except DomainError JsonObject
  | .obj entries => .ok entries
  | _ => .error (raised "Persisted signal report family_volumes must be a mapping.")

/-- The stored source reference. -/
def reportReference (value : Json) : Except DomainError (Option Text) :=
  match value with
  | .null => .ok none
  | given => (reportText given "source_reference").map some

/-- Source `SignalIngestionReport.from_dict`. -/
def SignalIngestionReport.fromDict (data : JsonObject) :
    Except DomainError SignalIngestionReport := do
  let generatedAt ← reportDatetime (field data "generated_at")
  let identifiers ← reportList (fieldOr data "source_ids" (.arr []))
  let sourceIds ← identifiers.mapM fun value => reportUuid value "source_ids"
  let familyData ← reportVolumes (fieldOr data "family_volumes" (.obj []))
  let lags ← reportMappingList (fieldOr data "source_lag" (.arr [])) "source_lag"
  let sourceLag ← lags.mapM SignalSourceLag.ofDict
  let summaries ← reportMappingList (fieldOr data "top_rejection_reasons" (.arr []))
    "top_rejection_reasons"
  let topRejectionReasons ← summaries.mapM RejectionReasonSummary.ofDict
  let quarantined ← reportSamples data generatedAt
  let batchId ← reportUuid (field data "batch_id") "batch_id"
  let sourceType ← reportText (fieldOr data "source_type" (.str "api".toList)) "source_type"
  let sourceReference ← reportReference (field data "source_reference")
  let received ← reportInt (field data "received") "received"
  let inserted ← reportInt (field data "inserted") "inserted"
  let duplicates ← reportInt (field data "duplicates") "duplicates"
  let rejected ← reportInt (field data "rejected") "rejected"
  let familyVolumes ← familyData.mapM reportVolume
  let dominantReasonShare ← reportDecimal
    (fieldOr data "dominant_reason_share" (.str "0.50".toList)) "dominant_reason_share"
  make {
    batchId := batchId, sourceType, sourceReference, generatedAt, received, inserted, duplicates
    rejected, quarantined, sourceIds, familyVolumes, sourceLag, topRejectionReasons
    dominantReasonShare }

end CovenantRadar.Ingestion
