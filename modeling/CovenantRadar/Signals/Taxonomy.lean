import CovenantRadar.Python.Value

/-!
# Signal taxonomy

Source `domain/signals/taxonomy.py`: the closed tables of signal families, the
canonical form of a payload, the content hash of the natural key, and the
validated `SignalEvent`.
-/

namespace CovenantRadar.Taxonomy

open Json (setKey intsPrintable)

/-- Source `SignalTaxonomyError`, with the field path every raise names. -/
structure SignalTaxonomyError where
  message : Text
  field : Text
  deriving DecidableEq, Repr

/-- The standard-library readers of text that the checks call: `uuid.UUID(text)`,
    `date.fromisoformat(text)`, `Decimal(text)` (`some none` for a value that is
    not finite) and `repr`. No result below depends on what they return. -/
structure Builtins where
  uuidOfText : Text → Option Uuid
  dateOfText : Text → Option Date
  decimalOfText : Text → Option (Option Decimal)
  repr : PyValue → Text

/-! ## The closed vocabulary -/

/-- Source `SignalFamily`. -/
inductive SignalFamily where
  | accountActivity
  | payment
  | utilisation
  | treasury
  | concentration
  | industry
  | news
  deriving DecidableEq, Repr

namespace SignalFamily

def value : SignalFamily → Text
  | accountActivity => "account_activity".toList
  | payment => "payment".toList
  | utilisation => "utilisation".toList
  | treasury => "treasury".toList
  | concentration => "concentration".toList
  | industry => "industry".toList
  | news => "news".toList

/-- Source `FAMILIES`. -/
def families : List SignalFamily :=
  [accountActivity, payment, utilisation, treasury, concentration, industry, news]

/-- Source `FAMILY_EVENT_TYPES`. -/
def eventType : SignalFamily → Text
  | accountActivity => "account_activity_change".toList
  | payment => "payment_delay".toList
  | utilisation => "facility_utilisation".toList
  | treasury => "treasury_outflow".toList
  | concentration => "concentration_exposure".toList
  | industry => "industry_indicator".toList
  | news => "news_event".toList

/-- Source `FAMILY_UNITS`. -/
def unit : SignalFamily → Text
  | accountActivity => "%".toList
  | payment => "days".toList
  | utilisation => "%".toList
  | treasury => "ratio".toList
  | concentration => "%".toList
  | industry => "score".toList
  | news => "score".toList

/-- Source `_FAMILY_VALUE_FIELDS`. -/
def valueField : SignalFamily → Text
  | accountActivity => "activity_change_pct".toList
  | payment => "days_past_due".toList
  | utilisation => "utilisation_pct".toList
  | treasury => "cash_outflow_ratio".toList
  | concentration => "top_group_exposure_pct".toList
  | industry => "industry_stress_score".toList
  | news => "news_risk_score".toList

end SignalFamily

/-- Source `SignalTypeDefinition`. -/
structure SignalTypeDefinition where
  family : SignalFamily
  eventType : Text
  unit : Text
  requiredPayloadFields : List Text
  valueField : Text
  deriving DecidableEq, Repr

/-- Source `_EVENT_DEFINITIONS`, with `REQUIRED_PAYLOAD_FIELDS`. -/
def SignalFamily.definition (family : SignalFamily) : SignalTypeDefinition where
  family := family
  eventType := family.eventType
  unit := family.unit
  requiredPayloadFields := [family.valueField, "is_adverse".toList]
  valueField := family.valueField

/-- Source `definition_for`. -/
def definitionFor (py : Builtins) (family eventType : PyValue) :
    Except SignalTaxonomyError SignalTypeDefinition :=
  let unknown := SignalTaxonomyError.mk
    ("Unknown signal family ".toList ++ py.repr family ++ ".".toList)
    "signal_event.family".toList
  match family with
  | .str name =>
    match SignalFamily.families.find? (fun candidate => candidate.value = name) with
    | none => .error unknown
    | some known =>
      let mismatch := SignalTaxonomyError.mk
        ("Signal family ".toList ++ py.repr family ++ " requires event type ".toList ++
          py.repr (.str known.eventType) ++ "; received ".toList ++ py.repr eventType ++
          ".".toList)
        "signal_event.event_type".toList
      match eventType with
      | .none => .ok known.definition
      | .str given => if given = known.eventType then .ok known.definition else .error mismatch
      | _ => .error mismatch
  | _ => .error unknown

/-- `definition_for` only hands out the table's own definitions. -/
theorem definitionFor_eq {py : Builtins} {family eventType : PyValue}
    {definition : SignalTypeDefinition}
    (found : definitionFor py family eventType = .ok definition) :
    definition = definition.family.definition := by
  unfold definitionFor at found
  split at found
  · split at found
    · cases found
    · split at found
      · cases found
        rfl
      · split_ifs at found
        cases found
        rfl
      · cases found
  · cases found

/-! ## Canonical values -/

/-- Source `_MAX_PAYLOAD_KEYS`. -/
def maxPayloadKeys : Nat := 100
/-- Source `_MAX_PAYLOAD_DEPTH`. -/
def maxPayloadDepth : Nat := 10
/-- Source `_MAX_CANONICAL_PAYLOAD_BYTES`. -/
def maxCanonicalPayloadBytes : Nat := 256000
/-- Source `_MAX_TEXT_LENGTH`. -/
def maxTextLength : Nat := 100000

/-- The error of a payload check. -/
def payloadError (message : String) : SignalTaxonomyError :=
  ⟨message.toList, "signal_event.payload".toList⟩

/-- The key check of `_canonical_value`. -/
def canonicalKey : PyValue → Except SignalTaxonomyError Text
  | .str key =>
    if Text.strip key = [] then
      .error (payloadError "Signal payload keys must be non-empty strings.")
    else if key.any Text.isControl then
      .error (payloadError "Signal payload keys cannot contain control characters.")
    else
      .ok key
  | _ => .error (payloadError "Signal payload keys must be non-empty strings.")

mutual
/-- Source `_canonical_value` (`taxonomy.py:160-217`). -/
def canonicalValue : PyValue → Nat → Except SignalTaxonomyError Json
  | value, depth =>
    if maxPayloadDepth < depth then
      .error (payloadError "Signal payload nesting is too deep.")
    else match value with
      | .none => .ok .null
      | .bool b => .ok (.bool b)
      | .int i => .ok (.int i)
      | .str s =>
        if maxTextLength < s.length then
          .error (payloadError "Signal payload text values are too long.")
        else .ok (.str s)
      | .float f => .ok (.float f)
      | .specialFloat => .error (payloadError "Signal payload floats must be finite.")
      | .decimal d => .ok (.str d.fixed)
      | .specialDecimal => .error (payloadError "Signal payload decimals must be finite.")
      | .uuid u => .ok (.str u.str)
      | .date d => .ok (.str d.isoformat)
      | .mapping items =>
        if maxPayloadKeys < items.length then
          .error (payloadError "Signal payload cannot contain more than 100 keys.")
        else do
          let result ← canonicalEntries items (depth + 1) []
          .ok (.obj (result.insertionSort (fun a b => a.1 ≤ b.1)))
      | .sequence items =>
        if maxPayloadKeys < items.length then
          .error (payloadError "Signal payload arrays cannot contain more than 100 values.")
        else do
          let result ← canonicalItems items (depth + 1)
          .ok (.arr result)
      | unsupported =>
        .error ⟨"Signal payload contains unsupported value type ".toList ++
          unsupported.typeName ++ ".".toList, "signal_event.payload".toList⟩
/-- The array branch, one value at a time. -/
def canonicalItems : List PyValue → Nat → Except SignalTaxonomyError (List Json)
  | [], _ => .ok []
  | item :: items, depth => do
    let head ← canonicalValue item depth
    let tail ← canonicalItems items depth
    .ok (head :: tail)
/-- The mapping branch: the loop that fills `result`. -/
def canonicalEntries : List (PyValue × PyValue) → Nat → List (Text × Json) →
    Except SignalTaxonomyError (List (Text × Json))
  | [], _, result => .ok result
  | (key, nested) :: items, depth, result => do
    let name ← canonicalKey key
    let value ← canonicalValue nested depth
    canonicalEntries items depth (setKey result name value)
end

/-- Source `canonical_json`. -/
def canonicalJson (value : PyValue) : Except SignalTaxonomyError Text := do
  let canonical ← canonicalValue value 0
  if intsPrintable canonical = false then
    .error (payloadError "Signal natural key cannot be represented as canonical JSON.")
  else
    let encoded := Json.dumps canonical
    if maxCanonicalPayloadBytes < encoded.encode.size then
      .error (payloadError "Signal payload is too large.")
    else
      .ok encoded

/-- The mapping `compute_content_hash` builds. -/
def naturalKeyMapping (borrowerId : Uuid) (facilityId : Option Uuid) (eventDate : Date)
    (family eventType : Text) (magnitude : Decimal) (unit : Text)
    (payload : List (Text × Json)) : PyValue :=
  .mapping [
    (.str "borrower_id".toList, .uuid borrowerId),
    (.str "facility_id".toList, facilityId.elim .none .uuid),
    (.str "event_date".toList, .date eventDate),
    (.str "family".toList, .str family),
    (.str "event_type".toList, .str eventType),
    (.str "magnitude".toList, .decimal magnitude),
    (.str "unit".toList, .str unit),
    (.str "payload".toList, .mapping (PyValue.ofJsonEntries payload))]

/-- Source `compute_content_hash`: `hexdigest` is SHA-256 in hexadecimal. -/
def computeContentHash (hexdigest : ByteArray → Text) (borrowerId : Uuid)
    (facilityId : Option Uuid) (eventDate : Date) (family eventType : Text)
    (magnitude : Decimal) (unit : Text) (payload : List (Text × Json)) :
    Except SignalTaxonomyError Text := do
  let encoded ← canonicalJson
    (naturalKeyMapping borrowerId facilityId eventDate family eventType magnitude unit payload)
  .ok (hexdigest encoded.encode)

/-! ## The validated event -/

/-- The finite check at the end of `_decimal`. -/
private def finite (field : Text) : Option Decimal → Except SignalTaxonomyError Decimal
  | some d => .ok d
  | none => .error ⟨field ++ " must be finite.".toList, field⟩

/-- Source `_decimal`. -/
def decimal (py : Builtins) (value : PyValue) (field : Text) :
    Except SignalTaxonomyError Decimal :=
  match value with
  | .bool _ | .float _ | .specialFloat =>
    .error ⟨field ++ " must be an exact decimal value.".toList, field⟩
  | .decimal d => .ok d
  | .specialDecimal => finite field none
  | .int i => .ok (Decimal.ofInt i)
  | .str t =>
    match py.decimalOfText t with
    | some parsed => finite field parsed
    | none => .error ⟨field ++ " must be a valid decimal value.".toList, field⟩
  | _ => .error ⟨field ++ " must be a decimal value.".toList, field⟩

/-- Source `_uuid` for a field that is not nullable. -/
def uuid (py : Builtins) (value : PyValue) (field : Text) : Except SignalTaxonomyError Uuid :=
  let refused : Except SignalTaxonomyError Uuid :=
    .error ⟨field ++ " must be a UUID.".toList, field⟩
  match value with
  | .uuid u => .ok u
  | .str t => (py.uuidOfText t).elim refused .ok
  | _ => refused

/-- Source `_uuid` with `nullable=True`. -/
def nullableUuid (py : Builtins) (value : PyValue) (field : Text) :
    Except SignalTaxonomyError (Option Uuid) :=
  match value with
  | .none => .ok none
  | given => (uuid py given field).map some

/-- Source `_event_date`. -/
def eventDate (py : Builtins) (value : PyValue) : Except SignalTaxonomyError Date :=
  let field := "signal_event.event_date".toList
  match value with
  | .datetime => .error ⟨"event_date must be a calendar date, not a datetime.".toList, field⟩
  | .date d => .ok d
  | .str t =>
    (py.dateOfText t).elim (.error ⟨"event_date must be an ISO calendar date.".toList, field⟩) .ok
  | _ => .error ⟨"event_date must be a calendar date.".toList, field⟩

/-- The checks `_payload` makes on the canonical mapping. -/
def checkPayload (py : Builtins) (definition : SignalTypeDefinition)
    (canonical : List (Text × Json)) : Except SignalTaxonomyError Unit := do
  let missing := definition.requiredPayloadFields.filter
    (fun field => (Json.lookup field canonical).isNone)
  match missing with
  | first :: _ =>
    .error ⟨"payload is missing required field(s): ".toList ++
      List.intercalate ", ".toList missing ++ ".".toList,
      "signal_event.payload.".toList ++ first⟩
  | [] =>
    match Json.lookup "is_adverse".toList canonical with
    | some (.bool _) =>
      let value := (Json.lookup definition.valueField canonical).getD .null
      if definition.family = .payment then
        match value with
        | .int days =>
          if days < 0 then
            .error ⟨"payload.days_past_due must be a non-negative integer.".toList,
              "signal_event.payload.days_past_due".toList⟩
          else .ok ()
        | _ =>
          .error ⟨"payload.days_past_due must be a non-negative integer.".toList,
            "signal_event.payload.days_past_due".toList⟩
      else
        (decimal py (PyValue.ofJson value)
          ("signal_event.payload.".toList ++ definition.valueField)).map (fun _ => ())
    | _ => .error ⟨"payload.is_adverse must be a boolean.".toList,
        "signal_event.payload.is_adverse".toList⟩

/-- `_canonical_value` of a mapping is a mapping: its entries. -/
def canonicalMapping (value : PyValue) : Except SignalTaxonomyError (List (Text × Json)) :=
  match value with
  | .mapping items => do
    match ← canonicalValue (.mapping items) 0 with
    | .obj entries => .ok entries
    | _ => .ok []
  | _ => .error (payloadError "payload must be an object.")

end CovenantRadar.Taxonomy
