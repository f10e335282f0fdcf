import CovenantRadar.Covenants.Sma
import CovenantRadar.Misc.Loop

/-!
# The CRILC report

Source `reporting/crilc.py`: every borrower of the book is put into one of four
buckets, and the reported ones get a row in the published layout.
-/

namespace CovenantRadar.Crilc

open Sma

/-- Source `CRILC_AGGREGATE_EXPOSURE_THRESHOLD`: five crore. -/
def aggregateExposureThreshold : Decimal := ⟨false, 50000000, 0⟩

/-- Source `_DEFAULT_BAND_FLOOR_SEVERITY`. -/
def defaultBandFloorSeverity : Nat := SmaBand.sma2.severity

/-- Source `CrilcReportType`. -/
inductive CrilcReportType where
  | monthly
  | weeklyDefault
  deriving DecidableEq, Repr

/-! ## Layouts -/

/-- The closed set `_FIELD_TYPES`. -/
inductive FieldType where
  | string
  | decimal
  | integer
  | date
  deriving DecidableEq, Repr

/-- A value of a row. -/
inductive CrilcValue where
  | none
  | string (value : Text)
  | decimal (value : Decimal)
  | integer (value : Int)
  | date (value : Date)
  deriving DecidableEq

/-- Source `CrilcLayoutField`; the label is only displayed. -/
structure CrilcLayoutField where
  name : Text
  dataType : FieldType
  required : Bool := true
  maxLength : Option Nat := none

/-- Source `CrilcLayoutField.validate_value`. -/
def CrilcLayoutField.validateValue (field : CrilcLayoutField) : CrilcValue → Bool
  | .none => !field.required
  | .string value => field.dataType = .string && field.maxLength.all (value.length ≤ ·)
  | .decimal _ => field.dataType = .decimal
  | .integer _ => field.dataType = .integer
  | .date _ => field.dataType = .date

/-- Source `CrilcLayout`, with its checks. -/
structure CrilcLayout where
  reportType : CrilcReportType
  version : Nat
  fields : List CrilcLayoutField
  nonempty : fields ≠ []
  uniqueNames : (fields.map CrilcLayoutField.name).Nodup

private def textField (name : String) (maxLength : Nat) (required : Bool) : CrilcLayoutField :=
  ⟨name.toList, .string, required, some maxLength⟩

private def plainField (name : String) (dataType : FieldType) : CrilcLayoutField :=
  ⟨name.toList, dataType, true, none⟩

/-- The published layout `layouts/crilc/crilc_monthly.v1.json`. -/
def monthlyLayout : CrilcLayout where
  reportType := .monthly
  version := 1
  fields := [plainField "as_of_date" .date, textField "borrower_reference" 20 true,
    textField "legal_name" 300 true, textField "industry_code" 20 true,
    textField "constitution" 50 false, plainField "aggregate_exposure_amount" .decimal,
    textField "currency" 3 true, plainField "facility_count" .integer,
    plainField "outstanding_amount" .decimal, textField "sma_band" 10 true,
    plainField "days_past_due" .integer, plainField "overdue_amount" .decimal]
  nonempty := List.cons_ne_nil _ _
  uniqueNames := by decide

/-- The published layout `layouts/crilc/crilc_weekly_default.v1.json`. -/
def weeklyDefaultLayout : CrilcLayout where
  reportType := .weeklyDefault
  version := 1
  fields := [plainField "as_of_date" .date, textField "borrower_reference" 20 true,
    textField "legal_name" 300 true, textField "industry_code" 20 true,
    plainField "aggregate_exposure_amount" .decimal, textField "currency" 3 true,
    plainField "outstanding_amount" .decimal, textField "sma_band" 10 true,
    plainField "days_past_due" .integer, plainField "overdue_amount" .decimal]
  nonempty := List.cons_ne_nil _ _
  uniqueNames := by decide

/-- `load_crilc_layout(report_type)`: the latest shipped version. -/
def CrilcReportType.layout : CrilcReportType → CrilcLayout
  | .monthly => monthlyLayout
  | .weeklyDefault => weeklyDefaultLayout

/-- A row: its fields by name. -/
abbrev CrilcRow := List (Text × CrilcValue)

/-- `row[name]`, where present. -/
def CrilcRow.get (row : CrilcRow) (name : Text) : Option CrilcValue :=
  (row.find? (fun entry => entry.1 = name)).map Prod.snd

/-- Source `CrilcLayout.validate_row`. -/
def CrilcLayout.validateRow (layout : CrilcLayout) (row : CrilcRow) : List Text :=
  let expected := layout.fields.map CrilcLayoutField.name
  let actual := row.map Prod.fst
  let misplaced := actual.filter (· ∉ expected) ++ expected.filter (· ∉ actual)
  let shape := layout.fields.filter fun field =>
    (row.get field.name).any fun value => !field.validateValue value
  ((misplaced ++ shape.map CrilcLayoutField.name).dedup).insertionSort (· ≤ ·)

/-! ## Facts -/

/-- Source `CrilcFacilityFacts`, with its checks. -/
structure CrilcFacilityFacts where
  facilityId : Uuid
  reference : Text
  sanctionedLimit : Decimal
  currency : Text
  outstanding : Option Decimal
  effectiveFrom : Date
  effectiveTo : Option Date
  limitSign : sanctionedLimit.lt ⟨false, 0, 0⟩ = false
  currencyCode : currency.length = 3 ∧ currency.all Char.isUpper = true
  outstandingSign : ∀ amount ∈ outstanding, amount.lt ⟨false, 0, 0⟩ = false
  period : ∀ day ∈ effectiveTo, effectiveFrom < day

/-- Source `CrilcFacilityFacts.is_effective_on`. -/
def CrilcFacilityFacts.isEffectiveOn (facility : CrilcFacilityFacts) (asOfDate : Date) : Bool :=
  facility.effectiveFrom ≤ asOfDate && facility.effectiveTo.all (asOfDate < ·)

/-- Source `CrilcBorrowerFacts`. -/
structure CrilcBorrowerFacts where
  borrowerId : Uuid
  reference : Text
  legalName : Text
  industryCode : Option Text
  constitution : Option Text
  facilities : List CrilcFacilityFacts

/-- Source `CrilcBorrowerFacts.effective_facilities`. -/
def CrilcBorrowerFacts.effectiveFacilities (borrower : CrilcBorrowerFacts) (asOfDate : Date) :
    List CrilcFacilityFacts :=
  borrower.facilities.filter fun facility => facility.isEffectiveOn asOfDate

/-- Source `CrilcException`. -/
structure CrilcException where
  borrowerReference : Text
  missingFields : List Text
  reason : Text
  deriving DecidableEq

/-- The bucket of a borrower, with its row or exception. -/
inductive CrilcOutcome where
  | belowThreshold
  | notInDefault
  | exception (held : CrilcException)
  | included (row : CrilcRow)
  deriving DecidableEq

/-- Source `_overdue_amount`. -/
def overdueAmount (worst : Option FacilitySmaDerivation) (conduct : ConductMap) : Option Decimal :=
  match worst with
  | none => some ⟨false, 0, 0⟩
  | some facility => (conduct.get facility.facilityId).bind FacilityConduct.overdueAmount

private def optional {α : Type} (wrap : α → CrilcValue) (value : Option α) : CrilcValue :=
  value.elim .none wrap

/-- Source `_candidate_row`. -/
def candidateRow (borrower : CrilcBorrowerFacts) (effective : List CrilcFacilityFacts)
    (aggregateExposure : Decimal) (derivation : BorrowerSmaDerivation) (bandKnown : Bool)
    (conduct : ConductMap) (asOfDate : Date) : CrilcRow :=
  let currencies := (effective.map CrilcFacilityFacts.currency).dedup
  let currency := if currencies.length = 1 then currencies.head? else none
  let outstandings := effective.map CrilcFacilityFacts.outstanding
  let outstanding :=
    if outstandings ≠ [] ∧ outstandings.all Option.isSome then
      some (Decimal.sum (outstandings.filterMap id))
    else none
  let worst := if bandKnown then derivation.worstFacility else none
  let daysPastDue : Option Int :=
    if bandKnown then
      match worst with
      | some facility => facility.daysPastDue.map Int.ofNat
      | none => some 0
    else none
  let overdue := if bandKnown then overdueAmount worst conduct else none
  let band := if bandKnown then some derivation.band.value else none
  [("as_of_date".toList, .date asOfDate),
    ("borrower_reference".toList, .string borrower.reference),
    ("legal_name".toList, .string borrower.legalName),
    ("industry_code".toList, optional .string borrower.industryCode),
    ("constitution".toList, optional .string borrower.constitution),
    ("aggregate_exposure_amount".toList, .decimal aggregateExposure),
    ("currency".toList, optional .string currency),
    ("facility_count".toList, .integer effective.length),
    ("outstanding_amount".toList, optional .decimal outstanding),
    ("sma_band".toList, optional .string band),
    ("days_past_due".toList, optional .integer daysPastDue),
    ("overdue_amount".toList, optional .decimal overdue)]

/-- A candidate row reads the derivation's band and worst facility, and the mapping only
    for that facility's overdue amount. -/
theorem candidateRow_congr {borrower : CrilcBorrowerFacts} {effective : List CrilcFacilityFacts}
    {exposure : Decimal} {d d' : BorrowerSmaDerivation} {conduct conduct' : ConductMap}
    {asOfDate : Date} (bandKnown : Bool) (band : d.band = d'.band)
    (worst : d.worstFacility = d'.worstFacility)
    (overdue : overdueAmount d.worstFacility conduct = overdueAmount d.worstFacility conduct') :
    candidateRow borrower effective exposure d bandKnown conduct asOfDate =
      candidateRow borrower effective exposure d' bandKnown conduct' asOfDate := by
  rw [worst] at overdue
  unfold candidateRow
  cases bandKnown
  · rfl
  · simp only [if_true, band, worst, overdue]

/-- `{name: candidate[name] for name in layout.field_names}`. -/
def projectRow (layout : CrilcLayout) (candidate : CrilcRow) : Except PyError CrilcRow :=
  layout.fields.mapM fun field =>
    match candidate.get field.name with
    | some value => .ok (field.name, value)
    | none => .error (.keyError (String.ofList field.name))

/-- The end of the loop body of `build_crilc_report`: a row, or an exception naming the
    required fields that are missing. -/
def rowOrException (layout : CrilcLayout) (borrower : CrilcBorrowerFacts)
    (reason : Option Text) (candidate : CrilcRow) : Except PyError CrilcOutcome := do
  let row ← projectRow layout candidate
  let missing := (layout.fields.filter fun field =>
      field.required && decide (row.get field.name = some .none)).map CrilcLayoutField.name
  if missing ≠ [] then
    .ok (.exception ⟨borrower.reference, missing.insertionSort (· ≤ ·),
      reason.getD "Required field(s) are missing for the published layout.".toList⟩)
  else
    .ok (.included row)

/-- The loop body of `build_crilc_report`: the bucket of one borrower. -/
def classify (reportType : CrilcReportType) (asOfDate : Date) (layout : CrilcLayout)
    (conduct : ConductMap) (threshold : Decimal) (borrower : CrilcBorrowerFacts) :
    Except PyError CrilcOutcome :=
  let effective := borrower.effectiveFacilities asOfDate
  let aggregateExposure := Decimal.sum (effective.map CrilcFacilityFacts.sanctionedLimit)
  if aggregateExposure.lt threshold then
    .ok .belowThreshold
  else do
    let derivation ← deriveBorrowerSma conduct asOfDate (some borrower.borrowerId)
      (effective.map CrilcFacilityFacts.facilityId)
    let bandKnown := derivation.reason.isNone
    let inDefault := bandKnown && decide (defaultBandFloorSeverity ≤ derivation.band.severity)
    if reportType = .weeklyDefault ∧ bandKnown ∧ ¬ inDefault then
      .ok .notInDefault
    else
      rowOrException layout borrower derivation.reason
        (candidateRow borrower effective aggregateExposure derivation bandKnown conduct asOfDate)

/-! ## The report -/

end CovenantRadar.Crilc
