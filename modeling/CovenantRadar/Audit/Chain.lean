import CovenantRadar.Python.Datetime
import CovenantRadar.Python.Value
import CovenantRadar.Misc.Loop
import CovenantRadar.Misc.Select

/-!
# The audit chain

Source `audit/chain.py`: the normalised payload, the digest of one audit row, and
`verify_chain`.
-/

namespace CovenantRadar.Audit

/-- A value handed to the audit trail as payload content. -/
inductive AuditValue where
  | none
  | bool (value : Bool)
  | int (value : Int)
  | float (value : FloatLiteral)
  /-- `nan`, `inf` or `-inf`. -/
  | specialFloat
  | str (value : Text)
  | mapping (items : List (AuditValue × AuditValue))
  /-- A `list`, or a `tuple`. -/
  | sequence (isTuple : Bool) (items : List AuditValue)
  /-- Source `PersonalReference`. -/
  | personalReference (reference : AuditValue)
  /-- Source `PersonalValue`. -/
  | personalValue
  | other (typeName : Text)

namespace AuditValue

/-- `type(value).__name__`. -/
def typeName : AuditValue → Text
  | .none => "NoneType".toList
  | .bool _ => "bool".toList
  | .int _ => "int".toList
  | .float _ | .specialFloat => "float".toList
  | .str _ => "str".toList
  | .mapping _ => "dict".toList
  | .sequence isTuple _ => if isTuple then "tuple".toList else "list".toList
  | .personalReference _ => "PersonalReference".toList
  | .personalValue => "PersonalValue".toList
  | .other name => name

mutual
/-- A normalised payload value as the Python object it is. -/
def ofJson : Json → AuditValue
  | .null => .none
  | .bool value => .bool value
  | .int value => .int value
  | .float value => .float value
  | .str value => .str value
  | .arr items => .sequence false (ofJsonItems items)
  | .obj entries => .mapping (ofJsonEntries entries)
def ofJsonItems : List Json → List AuditValue
  | [] => []
  | x :: xs => ofJson x :: ofJsonItems xs
def ofJsonEntries : List (Text × Json) → List (AuditValue × AuditValue)
  | [] => []
  | (key, value) :: entries => (.str key, ofJson value) :: ofJsonEntries entries
end

end AuditValue

/-- The exceptions of the audit module. `PersonalDataRefused` is a `ValueError`. -/
inductive AuditError where
  | typeError (message : Text)
  | valueError (message : Text)
  | personalDataRefused (message : Text)
  | overflowError (message : Text)
  deriving DecidableEq, Repr

/-- The parts of Python that rest on the Unicode tables: `unicodedata.normalize("NFC", text)`,
    `str.casefold` and `repr`. -/
structure Builtins where
  nfc : Text → Text
  casefold : Text → Text
  repr : AuditValue → Text

/-! ## Payloads -/

/-- Source `_PERSONAL_FIELD_NAMES`. -/
def personalFieldNames : List Text :=
  ["aadhaar", "address", "cin", "contact_email", "contact_name", "contact", "date_of_birth",
    "director_name", "email", "email_address", "first_name", "guarantor_name", "last_name",
    "mobile", "mobile_number", "passport", "pan", "person_name", "person", "personal",
    "personal_data", "personal_value", "phone", "phone_number", "promoter_name",
    "signatory_name", "staff_name", "tax_id"].map String.toList

section

variable (py : Builtins)

/-- Source `_is_personal_field`. -/
def isPersonalField (key : Text) : Bool :=
  personalFieldNames.contains ((py.casefold key).map fun c => if c = '-' then '_' else c)

/-- Source `_reference`. -/
def reference (value : AuditValue) (path : Text) : Except AuditError Text :=
  let refused : Except AuditError Text := .error (.personalDataRefused
    ("Audit payload field ".toList ++ py.repr (.str path) ++
      " requires a non-empty reference.".toList))
  match value with
  | .str text => if Text.strip text = [] then refused else .ok (py.nfc (Text.strip text))
  | _ => refused

/-- Source `_is_reference_object`. -/
def isReferenceObject : AuditValue → Bool
  | .mapping items => !items.isEmpty && items.all fun item =>
      match item.1 with
      | .str key => decide (key = "reference".toList)
      | _ => false
  | _ => false

/-- Source `_reference_object`, on a value `_is_reference_object` has accepted. -/
def referenceObject (value : AuditValue) (path : Text) : Except AuditError Json :=
  match value with
  | .mapping items => do
    let found := (items.head?.map Prod.snd).getD .none
    let text ← reference py found path
    .ok (.obj [("reference".toList, .str text)])
  | _ => .error (.personalDataRefused
      ("Audit payload field ".toList ++ py.repr (.str path) ++
        " requires a reference object.".toList))

/-- The non-string key error of `_normalise_value`. -/
def nonStringKey (path : Text) (key : AuditValue) : AuditError :=
  .typeError ("Audit payload field ".toList ++ py.repr (.str path) ++ " has a non-string key ".toList
    ++ py.repr key ++ "; JSON object keys must be text.".toList)

/-- The refusal of a personal-class value that is no reference. -/
def directPersonal (path : Text) : AuditError :=
  .personalDataRefused ("Audit payload field ".toList ++ py.repr (.str path) ++
    " contains a direct personal-class value; pass a reference instead.".toList)

mutual
/-- Source `_normalise_value`. -/
def normaliseValue : AuditValue → Text → Except AuditError Json
  | .personalValue, path =>
    .error (.personalDataRefused ("Audit payload field ".toList ++ py.repr (.str path) ++
      " contains personal-class data; pass a reference instead.".toList))
  | .personalReference target, path => do
    let text ← reference py target path
    .ok (.obj [("reference".toList, .str text)])
  | .mapping items, path => do
    let result ← normaliseEntries items path []
    .ok (.obj result)
  | .sequence _ items, path => do
    let result ← normaliseItems items path 0
    .ok (.arr result)
  | .none, _ => .ok .null
  | .bool value, _ => .ok (.bool value)
  | .int value, _ => .ok (.int value)
  | .str value, _ => .ok (.str (py.nfc value))
  | .float value, _ => .ok (.float value)
  | .specialFloat, path =>
    .error (.typeError ("Audit payload field ".toList ++ py.repr (.str path) ++
      " is not JSON-serialisable: non-finite float.".toList))
  | .other name, path =>
    .error (.typeError ("Audit payload field ".toList ++ py.repr (.str path) ++
      " is not JSON-serialisable: ".toList ++ name ++ ".".toList))
/-- The mapping branch: the loop that fills `result`. -/
def normaliseEntries : List (AuditValue × AuditValue) → Text → List (Text × Json) →
    Except AuditError (List (Text × Json))
  | [], _, result => .ok result
  | (.str key, child) :: items, path, result => do
    let childPath := path ++ '.' :: key
    if isPersonalField py key then
      if isReferenceObject child then
        let value ← referenceObject py child childPath
        normaliseEntries items path (Json.setKey result key value)
      else
        .error (directPersonal py childPath)
    else
      let value ← normaliseValue child childPath
      normaliseEntries items path (Json.setKey result key value)
  | (key, _) :: _, path, _ => .error (nonStringKey py path key)
/-- The array branch: each value under its index. -/
def normaliseItems : List AuditValue → Text → Nat → Except AuditError (List Json)
  | [], _, _ => .ok []
  | item :: items, path, index => do
    let head ← normaliseValue item (path ++ '[' :: (Text.ofNat index ++ "]".toList))
    let tail ← normaliseItems items path (index + 1)
    .ok (head :: tail)
end

/-- Source `normalise_payload`: the entries of the normalised mapping. -/
def normalisePayload (payload : AuditValue) : Except AuditError (List (Text × Json)) :=
  match payload with
  | .mapping items => normaliseEntries py items "payload".toList []
  | given => .error (.typeError ("Audit payload must be a mapping; field ".toList ++
      py.repr (.str "payload".toList) ++ " received ".toList ++ given.typeName ++ ".".toList))

/-- The error of writing an `int` of more than `maxIntDigits` digits. -/
def intTooLong : AuditError :=
  .valueError ("Exceeds the limit (4300 digits) for integer string conversion; ".toList ++
    "use sys.set_int_max_str_digits() to increase the limit".toList)

/-- Source `canonical_payload`: the normalised payload that is written as JSON. -/
def canonicalPayload (payload : AuditValue) : Except AuditError Json := do
  let value ← normalisePayload py payload
  if Json.intsPrintable (.obj value) then .ok (.obj value)
  else .error intTooLong

/-! ## The digest of a row -/

/-- An actor or a subject: text, or a UUID. -/
inductive Reference where
  | text (value : Text)
  | uuid (value : Uuid)
  deriving DecidableEq

/-- Source `_text_token`. -/
def textToken : Reference → Text
  | .text value => py.nfc value
  | .uuid value => py.nfc value.str

/-- Source `_actor_token`. -/
def actorToken : Option Reference → Text
  | none => []
  | some actor => textToken py actor

/-- Source `_utc_timestamp`, up to the text: the instant that is written. -/
def utcTimestamp (value : Datetime) : Except AuditError UtcInstant :=
  match value.utcoffset with
  | none => .error (.valueError "Audit occurred_at must be a timezone-aware datetime.".toList)
  | some offset =>
    match value.astimezone offset with
    | some instant => .ok instant
    | none => .error (.overflowError "date value out of range".toList)

/-- The error of a sequence that is not a positive integer. -/
def sequenceError (subject : Text) (sequence : Int) : AuditError :=
  .valueError (subject ++ " must be a positive integer, got ".toList ++ Text.ofInt sequence ++
    ".".toList)

/-- What one digest covers: the eight parts `compute_event_hash` joins, normalised. -/
structure Chained where
  sequence : Int
  instant : UtcInstant
  actor : Text
  eventType : Text
  subjectType : Text
  subject : Text
  payload : Json
  prevHash : Option Text

/-- Source `_HASH_SEPARATOR`. -/
def hashSeparator : Char := Char.ofNat 0x1F

/-- The tuple `compute_event_hash` joins. -/
def Chained.parts (c : Chained) : List Text :=
  [Text.ofInt c.sequence, c.instant.isoformat, c.actor, c.eventType, c.subjectType, c.subject,
    Json.dumps c.payload, c.prevHash.getD "<null>".toList]

/-- The joined text whose UTF-8 bytes are hashed. -/
def Chained.material (c : Chained) : Text := [hashSeparator].intercalate c.parts

/-- The checks and normalisations of `compute_event_hash`, before the join. -/
def chained (sequence : Int) (occurredAt : Datetime) (actor : Option Reference)
    (eventType subjectType : Text) (subjectId : Reference) (payload : AuditValue)
    (prevHash : Option Text) : Except AuditError Chained := do
  if sequence < 1 then
    .error (sequenceError "Audit sequence".toList sequence)
  else
    let instant ← utcTimestamp occurredAt
    let canonical ← canonicalPayload py payload
    if maxIntDigits < (Text.ofInt sequence).length then
      .error intTooLong
    else
      .ok {
        sequence, instant, actor := actorToken py actor
        eventType := textToken py (.text eventType)
        subjectType := textToken py (.text subjectType)
        subject := textToken py subjectId
        payload := canonical, prevHash }

/-- Source `compute_event_hash`: `hexdigest` is SHA-256 in hexadecimal. -/
def computeEventHash (hexdigest : ByteArray → Text) (sequence : Int) (occurredAt : Datetime)
    (actor : Option Reference) (eventType subjectType : Text) (subjectId : Reference)
    (payload : AuditValue) (prevHash : Option Text) : Except AuditError Text := do
  let c ← chained py sequence occurredAt actor eventType subjectType subjectId payload prevHash
  .ok (hexdigest c.material.encode)

/-! ## Rows and breaks -/

/-- Source `AuditChainRow`: what `verify_chain` reads of a stored row. -/
structure AuditChainRow where
  sequence : Int
  occurredAt : Datetime
  actorId : Option Uuid
  actorLabel : Option Text
  eventType : Text
  subjectType : Text
  subjectId : Uuid
  payload : AuditValue
  prevHash : Option Text
  hash : Text

/-- `row.actor_id if row.actor_id is not None else row.actor_label`. -/
def chosenActor (actorId : Option Uuid) (actorLabel : Option Text) : Option Reference :=
  match actorId with
  | some id => some (.uuid id)
  | none => actorLabel.map .text

/-- What the digest of a stored row covers. -/
def AuditChainRow.chained (row : AuditChainRow) : Except AuditError Chained :=
  Audit.chained py row.sequence row.occurredAt (chosenActor row.actorId row.actorLabel)
    row.eventType row.subjectType (.uuid row.subjectId) row.payload row.prevHash

/-- Source `AuditChainBreak`. -/
structure AuditChainBreak where
  sequence : Int
  previousSequence : Option Int
  reason : Text
  expectedPrevHash : Option Text
  actualPrevHash : Option Text
  expectedHash : Option Text
  actualHash : Option Text
  deriving DecidableEq, Repr

/-- Source `AuditChainBreak.message`. -/
def AuditChainBreak.message (found : AuditChainBreak) : Text :=
  "Audit chain break at sequence ".toList ++ Text.ofInt found.sequence ++ " after ".toList ++
    (match found.previousSequence with
      | none => "no previous row".toList
      | some sequence => "sequence ".toList ++ Text.ofInt sequence) ++
    ": ".toList ++ found.reason ++ ".".toList

/-- Source `_row_sequence`. -/
def rowSequence (row : AuditChainRow) : Except AuditError Int :=
  if row.sequence < 1 then .error (sequenceError "Audit row sequence".toList row.sequence)
  else .ok row.sequence

/-- The break `verify_chain` reports at a row: both rows, and what was compared. -/
def rowBreak (previous : Option AuditChainRow) (row : AuditChainRow) (reason : Text)
    (expectedHash : Option Text) : AuditChainBreak where
  sequence := row.sequence
  previousSequence := previous.map AuditChainRow.sequence
  reason := reason
  expectedPrevHash := previous.map AuditChainRow.hash
  actualPrevHash := row.prevHash
  expectedHash := expectedHash
  actualHash := some row.hash

/-- The link checks of `verify_chain`; `genesis` is `from_sequence is None`. -/
def linkBreak (genesis : Bool) (previous : Option AuditChainRow) (row : AuditChainRow) :
    Option AuditChainBreak :=
  match previous with
  | none =>
    if genesis = true ∧ row.prevHash ≠ none then
      some (rowBreak none row "the first row has a previous hash".toList none)
    else none
  | some before =>
    if row.sequence ≤ before.sequence then
      some (rowBreak (some before) row "sequence is not strictly increasing".toList none)
    else if row.prevHash ≠ some before.hash then
      some (rowBreak (some before) row
        "previous hash does not match the preceding row".toList none)
    else none

/-- The text of an exception `verify_chain` catches around the digest. -/
def caughtText : AuditError → Option Text
  | .typeError message => some message
  | .valueError message => some message
  | .personalDataRefused message => some message
  | .overflowError _ => none

/-- The digest check of `verify_chain`. -/
def digestBreak (hexdigest : ByteArray → Text) (previous : Option AuditChainRow)
    (row : AuditChainRow) : Except AuditError (Option AuditChainBreak) :=
  match computeEventHash py hexdigest row.sequence row.occurredAt
      (chosenActor row.actorId row.actorLabel) row.eventType row.subjectType
      (.uuid row.subjectId) row.payload row.prevHash with
  | .error error =>
    match caughtText error with
    | some text => .ok (some (rowBreak previous row
        ("row content is not hashable (".toList ++ text ++ ")".toList) none))
    | none => .error error
  | .ok expected =>
    if row.hash ≠ expected then
      .ok (some (rowBreak previous row "stored hash does not cover the stored row content".toList
        (some expected)))
    else .ok none

/-- The loop of `verify_chain` over the selected rows. -/
def verifyRows (hexdigest : ByteArray → Text) (genesis : Bool) :
    Option AuditChainRow → List AuditChainRow → Except AuditError (Option AuditChainBreak)
  | _, [] => .ok none
  | previous, row :: rows => do
    let _ ← rowSequence row
    match linkBreak genesis previous row with
    | some found => .ok (some found)
    | none =>
      match ← digestBreak py hexdigest previous row with
      | some found => .ok (some found)
      | none => verifyRows hexdigest genesis (some row) rows

/-- Source `_validate_range`. -/
def validateRange (fromSequence toSequence : Option Int) : Except AuditError Unit :=
  let positive (name : Text) : AuditError :=
    .valueError (name ++ " must be a positive integer or None.".toList)
  if fromSequence.any (· < 1) then .error (positive "from_sequence".toList)
  else if toSequence.any (· < 1) then .error (positive "to_sequence".toList)
  else
    match fromSequence, toSequence with
    | some low, some high =>
      if high < low then
        .error (.valueError "from_sequence cannot be greater than to_sequence.".toList)
      else .ok ()
    | _, _ => .ok ()

/-- The rows `verify_chain` checks: with a lower bound, the row before it as context. -/
def selectRows (rows : List AuditChainRow) (fromSequence toSequence : Option Int) :
    List AuditChainRow :=
  match fromSequence with
  | none => rows.filter fun row => toSequence.all (row.sequence ≤ ·)
  | some low =>
    let preceding := rows.filter fun row => row.sequence < low
    let inRange := rows.filter fun row => low ≤ row.sequence && toSequence.all (row.sequence ≤ ·)
    (maxBy AuditChainRow.sequence preceding).toList ++ inRange

/-- Source `verify_chain` (`chain.py:216-319`). -/
def verifyChain (hexdigest : ByteArray → Text) (rows : List AuditChainRow)
    (fromSequence toSequence : Option Int) : Except AuditError (Option AuditChainBreak) := do
  validateRange fromSequence toSequence
  verifyRows py hexdigest fromSequence.isNone none (selectRows rows fromSequence toSequence)

end

end CovenantRadar.Audit
