import CovenantRadar.Covenants.Sma
import CovenantRadar.Python.Reading

/-!
# Conduct as callers give it

Source `domain/covenants/sma.py`: the rows of a borrower's facilities, given as a sequence or as a
mapping by facility, and the band rolled up from them. Identifiers are trimmed on the way in. A
sequence collects the rows of a facility; a mapping assigns them, so that of two keys that differ
in white space alone only the later one is read.
-/

namespace CovenantRadar.Sma

/-! ## What is given -/

/-- Source `ConductIdentifier`. -/
inductive Identifier where
  | text (value : Text)
  | uuid (id : Uuid)
  deriving DecidableEq

namespace Identifier

/-- `repr(identifier)`. -/
def repr : Identifier → Text
  | text value => Text.repr value
  | uuid id => "UUID('".toList ++ id.str ++ "')".toList

/-- The identifier without the white space around it. -/
def trimmed : Identifier → Identifier
  | text value => text (Text.strip value)
  | uuid id => uuid id

end Identifier

/-- Source `_validated_identifier`. -/
def validatedIdentifier (name : String) : Option Identifier → Except PyError Identifier
  | some (.text value) =>
    if Text.strip value = [] then
      .error (.typeError (name ++ " must be a non-empty string or UUID."))
    else .ok (.text (Text.strip value))
  | some (.uuid id) => .ok (.uuid id)
  | none => .error (.typeError (name ++ " must be a non-empty string or UUID."))

/-- An identifier that may be absent. -/
def validatedOptional (name : String) : Option Identifier → Except PyError (Option Identifier)
  | none => .ok none
  | some given => (validatedIdentifier name (some given)).map some

/-- The fields of a conduct row the derivation reads. -/
structure ConductRow where
  facilityId : Option Identifier
  asOfDate : Option Date
  daysPastDue : Option Int
  sourceId : Option Identifier
  deriving DecidableEq

/-- A key of a mapping by date. -/
inductive DateKey where
  | date (date : Date)
  | text (text : Text)
  deriving DecidableEq

/-- What a mapping by date holds for a date. -/
inductive DatedValue where
  | missing
  | row (row : ConductRow)
  | rows (rows : List ConductRow)

/-- What a mapping by facility holds for a facility. -/
inductive ConductValue where
  | missing
  | row (row : ConductRow)
  | rows (rows : List ConductRow)
  | byDate (entries : List (DateKey × DatedValue))

/-- A mapping by facility. -/
structure ConductMapping where
  entries : List (Identifier × ConductValue)
  distinct : (entries.map Prod.fst).Nodup

/-- The `conduct` argument. -/
inductive Conduct where
  | absent
  | record (row : ConductRow)
  | mapping (mapping : ConductMapping)
  | sequence (rows : List ConductRow)

/-! ## Normalisation -/

/-- Source `_as_rows`. -/
def asRows : DatedValue → List ConductRow
  | .missing => []
  | .row row => [row]
  | .rows rows => rows

/-- Source `_is_date_key`. -/
def isDateKey : DateKey → Bool
  | .date _ => true
  | .text text => (isoDate text).isSome

/-- What `_field` reads of a mapping without the fields of a row. -/
def blankRow : ConductRow := ⟨none, none, none, none⟩

/-- Source `_rows_for_mapping_value`. -/
def rowsForMappingValue (asOfDate : Date) : ConductValue → List ConductRow
  | .missing => []
  | .row row => [row]
  | .rows rows => rows
  | .byDate entries =>
    match dictGet entries (.date asOfDate) with
    | some dated => asRows dated
    | none =>
      match dictGet entries (.text asOfDate.isoformat) with
      | some dated => asRows dated
      | none =>
        if entries ≠ [] ∧ entries.all (fun entry => isDateKey entry.1) = true then []
        else [blankRow]

/-- Source `_validate_rows`, on one row. -/
def validateRow (facilityId : Identifier) (row : ConductRow) : Except PyError Unit :=
  match row.facilityId with
  | none => .ok ()
  | some given => do
    let validated ← validatedIdentifier "conduct.facility_id" (some given)
    if validated ≠ facilityId then
      .error (.valueError ("Conduct facility_id " ++ String.ofList validated.repr ++
        " does not match " ++ String.ofList facilityId.repr ++ "."))
    else .ok ()

/-- A `dict` from facility to its rows. -/
abbrev Records := List (Identifier × List ConductRow)

/-- The body of the loop of `_normalise_conduct` over a mapping. -/
def addEntry (asOfDate : Date) (result : Records) (entry : Identifier × ConductValue) :
    Except PyError Records := do
  let facilityId ← validatedIdentifier "facility_id" (some entry.1)
  let rows := rowsForMappingValue asOfDate entry.2
  rows.forM (validateRow facilityId)
  .ok (dictSet result facilityId rows)

/-- The body of the loop of `_normalise_conduct` over a sequence. -/
def addRow (asOfDate : Date) (result : Records) (row : ConductRow) : Except PyError Records := do
  let facilityId ← validatedIdentifier "conduct.facility_id" row.facilityId
  validateRow facilityId row
  let existing := (dictGet result facilityId).getD []
  if existing.any (fun item => item.asOfDate.isSome && item.asOfDate = row.asOfDate &&
      item.asOfDate = some asOfDate) then
    .error (.valueError ("More than one conduct row exists for facility " ++
      String.ofList facilityId.repr ++ " on " ++ String.ofList asOfDate.isoformat ++ "."))
  else .ok (appendToKey facilityId row result)

/-- Source `_normalise_conduct`. -/
def normaliseConduct (asOfDate : Date) : Conduct → Except PyError Records
  | .absent => .ok []
  | .record row => do
    let facilityId ← validatedIdentifier "conduct.facility_id" row.facilityId
    .ok [(facilityId, [row])]
  | .mapping mapping => mapping.entries.foldlM (addEntry asOfDate) []
  | .sequence rows => rows.foldlM (addRow asOfDate) []

/-! ## Derivation -/

/-- Source `FacilitySmaDerivation`, under any identifier. -/
structure FacilityDerivation where
  facilityId : Identifier
  asOfDate : Date
  band : SmaBand
  daysPastDue : Option Nat
  reason : Option Text
  sourceId : Option Identifier

/-- Source `BorrowerSmaDerivation`, under any identifier. -/
structure BorrowerDerivation where
  borrowerId : Option Identifier
  asOfDate : Date
  band : SmaBand
  facilities : List FacilityDerivation
  reason : Option Text

/-- Source `_select_conduct`. -/
def selectRow (rows : List ConductRow) (asOfDate : Date) : Except PyError (Option ConductRow) :=
  let matching := rows.filter fun row => row.asOfDate = some asOfDate
  let undated := rows.filter fun row => row.asOfDate = none
  if 1 < matching.length + undated.length then
    .error (.valueError ("More than one conduct row exists on " ++
      String.ofList asOfDate.isoformat ++ "."))
  else .ok (matching.head?.or undated.head?)

/-- Source `_source_id`. -/
def sourceOf (row : ConductRow) : Except PyError (Option Identifier) :=
  validatedOptional "conduct.source_id" row.sourceId

/-- The derivation of a facility without conduct. -/
def missingDerivation (asOfDate : Date) (facilityId : Identifier) : FacilityDerivation :=
  ⟨facilityId, asOfDate, .none, none, some missingConductReason, none⟩

/-- Source `derive_facility_sma`, on any row. -/
def deriveFacility (conduct : Option ConductRow) (facilityId : Identifier) (asOfDate : Date) :
    Except PyError FacilityDerivation := do
  let validated ← validatedIdentifier "facility_id" (some facilityId)
  match conduct with
  | none => .ok (missingDerivation asOfDate validated)
  | some row =>
    if row.asOfDate.isSome ∧ row.asOfDate ≠ some asOfDate then do
      let source ← sourceOf row
      .ok ⟨validated, asOfDate, .none, none, some missingConductReason, source⟩
    else
      match row.daysPastDue with
      | none => do
        let source ← sourceOf row
        .ok ⟨validated, asOfDate, .none, none, some missingDaysReason, source⟩
      | some (.negSucc _) => .error (.valueError "days_past_due must not be negative.")
      | some (.ofNat days) => do
        let source ← sourceOf row
        .ok ⟨validated, asOfDate, smaBand days, some days, none, source⟩

/-- The derivation of a facility from its rows. -/
def ownDerivation (asOfDate : Date) (entry : Identifier × List ConductRow) :
    Except PyError FacilityDerivation := do
  let selected ← selectRow entry.2 asOfDate
  deriveFacility selected entry.1 asOfDate

/-- Source `_unique_identifiers`, on any identifiers. -/
def uniqueGiven : List Identifier → List Identifier → Except PyError (List Identifier)
  | result, [] => .ok result
  | result, value :: values => do
    let validated ← validatedIdentifier "facility_id" (some value)
    if validated ∈ result then
      .error (.valueError ("facility_id " ++ String.ofList validated.repr ++
        " was supplied more than once."))
    else uniqueGiven (result ++ [validated]) values

/-- Source `_aggregate_missing_reason`, on the reasons. -/
def aggregateReasons (reasons : List (Option Text)) : Option Text :=
  if reasons.isEmpty ∨ none ∈ reasons then none
  else
    let first := reasons.head?.join
    if reasons.all (fun reason => reason = first) then first
    else some "facility conduct is incomplete for the requested date".toList

/-- The loop that adds the facilities of the records to the expected ones. -/
def addNew (expected : List Identifier) (records : Records) : List Identifier :=
  records.foldl (fun ids entry => if entry.1 ∈ ids then ids else ids ++ [entry.1]) expected

/-- The end of `derive_borrower_sma`, under any identifiers. -/
def rollUpAll (borrowerId : Option Identifier) (asOfDate : Date)
    (items : List FacilityDerivation) : BorrowerDerivation :=
  match maxBy SmaBand.severity (items.map FacilityDerivation.band) with
  | none => ⟨borrowerId, asOfDate, .none, [], some missingConductReason⟩
  | some worst =>
    ⟨borrowerId, asOfDate, worst, items, aggregateReasons (items.map FacilityDerivation.reason)⟩

/-- Source `derive_borrower_sma`, on any conduct. -/
def deriveBorrower (conduct : Conduct) (asOfDate : Date) (borrowerId : Option Identifier)
    (facilityIds : List Identifier) : Except PyError BorrowerDerivation := do
  let borrower ← validatedOptional "borrower_id" borrowerId
  let expected ← uniqueGiven [] facilityIds
  let records ← normaliseConduct asOfDate conduct
  let items ← (addNew expected records).mapM fun facilityId =>
    ownDerivation asOfDate (facilityId, (dictGet records facilityId).getD [])
  .ok (rollUpAll borrower asOfDate items)

end CovenantRadar.Sma
