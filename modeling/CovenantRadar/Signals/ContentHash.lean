import CovenantRadar.Python.Digest
import CovenantRadar.Signals.CanonicalPayload

/-!
# Content hash and natural key

Source `SignalEvent` (`taxonomy.py:349-473`): what `__post_init__` accepts, and the two identities of
an accepted event compared: the digest of the canonical JSON of the natural key
(`compute_content_hash`), and the tuple `natural_key`, which Python compares with `==`.
-/

namespace CovenantRadar.Taxonomy

/-! ## The validated signal event -/

/-- Source `SignalEvent`: an accepted event. The last three fields are what
    `__post_init__` has checked; event type and unit are those of the family. -/
structure SignalEvent (py : Builtins) (hexdigest : ByteArray → Text) where
  borrowerId : Uuid
  facilityId : Option Uuid
  eventDate : Date
  family : SignalFamily
  magnitude : Decimal
  payload : List (Text × Json)
  sourceId : Option Uuid
  isLate : Bool
  contentHash : Text
  ordered : Json.Ordered (.obj payload)
  checked : checkPayload py family.definition payload = .ok ()
  hashed : computeContentHash hexdigest borrowerId facilityId eventDate family.value
    family.eventType magnitude family.unit payload = .ok contentHash

/-- The arguments of `SignalEvent(...)`, before any check. -/
structure SignalEventArguments where
  borrowerId : PyValue
  facilityId : PyValue := .none
  eventDate : PyValue
  family : PyValue
  eventType : PyValue
  magnitude : PyValue
  unit : PyValue
  payload : PyValue
  sourceId : PyValue := .none
  isLate : PyValue := .bool false
  contentHash : PyValue := .none

/-- The unit check of `__post_init__`. -/
def checkUnit (py : Builtins) (definition : SignalTypeDefinition) (unit : PyValue) :
    Except SignalTaxonomyError Unit :=
  let refused : SignalTaxonomyError :=
    ⟨"Signal family ".toList ++ py.repr (.str definition.family.value) ++ " requires unit ".toList
      ++ py.repr (.str definition.unit) ++ ".".toList, "signal_event.unit".toList⟩
  match unit with
  | .str given => if given = definition.unit then .ok () else .error refused
  | _ => .error refused

/-- The `is_late` check of `__post_init__`. -/
def checkIsLate : PyValue → Except SignalTaxonomyError Bool
  | .bool late => .ok late
  | _ => .error ⟨"is_late must be a boolean.".toList, "signal_event.is_late".toList⟩

/-- The `content_hash` check of `__post_init__`: absent, or the expected one. -/
def checkContentHash (expected : Text) : PyValue → Except SignalTaxonomyError Unit
  | .none => .ok ()
  | .str given =>
    if given = expected then .ok ()
    else .error ⟨"content_hash does not match the signal natural key.".toList,
      "signal_event.content_hash".toList⟩
  | _ => .error ⟨"content_hash does not match the signal natural key.".toList,
      "signal_event.content_hash".toList⟩

section

variable (py : Builtins) (hexdigest : ByteArray → Text)

/-- The end of `__post_init__`: payload, content hash, and the event itself. -/
def SignalEvent.finish (borrowerId : Uuid) (facilityId : Option Uuid) (eventDate : Date)
    (definition : SignalTypeDefinition) (known : definition = definition.family.definition)
    (magnitude : Decimal) (sourceId : Option Uuid) (isLate : Bool) (payload contentHash : PyValue) :
    Except SignalTaxonomyError (SignalEvent py hexdigest) :=
  match canonical : canonicalMapping payload with
  | .error error => .error error
  | .ok entries =>
    match checked : checkPayload py definition entries with
    | .error error => .error error
    | .ok () =>
      match hashed : computeContentHash hexdigest borrowerId facilityId eventDate
          definition.family.value definition.eventType magnitude definition.unit entries with
      | .error error => .error error
      | .ok expected => do
        checkContentHash expected contentHash
        .ok {
          borrowerId, facilityId, eventDate, family := definition.family, magnitude,
          payload := entries, sourceId, isLate, contentHash := expected
          ordered := canonicalMapping_ordered canonical
          checked := known ▸ checked
          hashed := by
            rw [known] at hashed
            exact hashed }

/-- Source `SignalEvent.__post_init__`. -/
def SignalEvent.make (args : SignalEventArguments) :
    Except SignalTaxonomyError (SignalEvent py hexdigest) := do
  let borrowerId ← uuid py args.borrowerId "signal_event.borrower_id".toList
  let facilityId ← nullableUuid py args.facilityId "signal_event.facility_id".toList
  let date ← Taxonomy.eventDate py args.eventDate
  match found : definitionFor py args.family args.eventType with
  | .error error => .error error
  | .ok definition => do
    let magnitude ← decimal py args.magnitude "signal_event.magnitude".toList
    checkUnit py definition args.unit
    let sourceId ← nullableUuid py args.sourceId "signal_event.source_id".toList
    let isLate ← checkIsLate args.isLate
    SignalEvent.finish py hexdigest borrowerId facilityId date definition
      (definitionFor_eq found) magnitude sourceId isLate args.payload args.contentHash

end

open Json

/-! ## What is hashed -/

/-- The canonical form of the mapping `compute_content_hash` builds. -/
def naturalKeyJson (borrowerId : Uuid) (facilityId : Option Uuid) (eventDate : Date)
    (family eventType : Text) (magnitude : Decimal) (unit : Text)
    (payload : List (Text × Json)) : Json :=
  .obj [
    ("borrower_id".toList, .str borrowerId.str),
    ("event_date".toList, .str eventDate.isoformat),
    ("event_type".toList, .str eventType),
    ("facility_id".toList, facilityId.elim .null (fun facility => .str facility.str)),
    ("family".toList, .str family),
    ("magnitude".toList, .str magnitude.fixed),
    ("payload".toList, .obj payload),
    ("unit".toList, .str unit)]

private theorem canonicalValue_facility (facilityId : Option Uuid) :
    canonicalValue (facilityId.elim .none .uuid) 1 =
      .ok (facilityId.elim .null (fun facility => .str facility.str)) := by
  cases facilityId <;> rfl

private theorem canonicalValue_short {t : Text} {j : Json}
    (returned : canonicalValue (.str t) 1 = .ok j) : j = .str t := by
  simp only [canonicalValue] at returned
  split_ifs at returned
  exact (Except.ok.inj returned).symm

theorem canonicalValue_naturalKeyMapping {borrowerId : Uuid} {facilityId : Option Uuid}
    {eventDate : Date} {family eventType : Text} {magnitude : Decimal} {unit : Text}
    {payload : List (Text × Json)} {j : Json} (ordered : Ordered (.obj payload))
    (returned : canonicalValue (naturalKeyMapping borrowerId facilityId eventDate family eventType
      magnitude unit payload) 0 = .ok j) :
    j = naturalKeyJson borrowerId facilityId eventDate family eventType magnitude unit payload ∧
      canonicalValue (.mapping (PyValue.ofJsonEntries payload)) 1 = .ok (.obj payload) := by
  obtain ⟨-, -, entries, loop, rfl⟩ := canonicalValue_mapping returned
  obtain ⟨n1, v1, k1, c1, loop⟩ := canonicalEntries_cons loop
  obtain ⟨n2, v2, k2, c2, loop⟩ := canonicalEntries_cons loop
  obtain ⟨n3, v3, k3, c3, loop⟩ := canonicalEntries_cons loop
  obtain ⟨n4, v4, k4, c4, loop⟩ := canonicalEntries_cons loop
  obtain ⟨n5, v5, k5, c5, loop⟩ := canonicalEntries_cons loop
  obtain ⟨n6, v6, k6, c6, loop⟩ := canonicalEntries_cons loop
  obtain ⟨n7, v7, k7, c7, loop⟩ := canonicalEntries_cons loop
  obtain ⟨n8, v8, k8, c8, loop⟩ := canonicalEntries_cons loop
  cases k1; cases k2; cases k3; cases k4; cases k5; cases k6; cases k7; cases k8
  cases c1
  rw [canonicalValue_facility] at c2
  cases c2
  cases c3
  cases canonicalValue_short c4
  cases canonicalValue_short c5
  cases c6
  cases canonicalValue_short c7
  cases canonicalValue_ofJson ordered c8
  cases loop
  exact ⟨rfl, c8⟩

section

variable {py : Builtins} {hexdigest : ByteArray → Text}

/-- Source `natural_key`: the tuple of the identifying fields. -/
structure NaturalKey where
  borrowerId : Uuid
  facilityId : Option Uuid
  eventDate : Date
  family : Text
  eventType : Text
  magnitude : Decimal
  unit : Text
  payload : List (Text × Json)

/-- Python's `==` on two natural keys: item by item, each by its own class. -/
def NaturalKey.eq (a b : NaturalKey) : Bool :=
  a.borrowerId == b.borrowerId && a.facilityId == b.facilityId && a.eventDate == b.eventDate &&
    a.family == b.family && a.eventType == b.eventType && a.magnitude.numEq b.magnitude &&
    a.unit == b.unit && pyEq (.obj a.payload) (.obj b.payload)

end

/-! ## One quarter, written twice -/

/-- A canonical value of at most 64000 characters is within the size limit. -/
theorem canonicalJson_of_short {value : PyValue} {canonical : Json}
    (accepted : canonicalValue value 0 = .ok canonical) (printable : intsPrintable canonical = true)
    (short : (dumps canonical).length ≤ 64000) : canonicalJson value = .ok (dumps canonical) := by
  have size := Text.size_encode_le (dumps canonical)
  have fits : ¬ maxCanonicalPayloadBytes < (dumps canonical).encode.size := by
    unfold maxCanonicalPayloadBytes
    omega
  simp [canonicalJson, accepted, bind, Except.bind, printable, fits]

/-- Builtins that read no text: the events below are built from typed values. -/
def typedBuiltins : Builtins := ⟨fun _ => none, fun _ => none, fun _ => none, fun _ => []⟩

/-- A payload: twelve days past due, and adverse. -/
def quarterPayload : List (Text × Json) :=
  [("days_past_due".toList, .int 12), ("is_adverse".toList, .bool true)]

private theorem quarterDay_valid :
    1 ≤ 2026 ∧ 2026 ≤ 9999 ∧ 1 ≤ 1 ∧ 1 ≤ 12 ∧ 1 ≤ 5 ∧ 5 ≤ daysInMonth 2026 1 := by decide

/-- The day of the payment events below. -/
def quarterDay : Date := ⟨2026, 1, 5, quarterDay_valid⟩

/-- The mapping hashed for a payment event of that magnitude, without a facility. -/
def quarterMapping (magnitude : Decimal) : PyValue :=
  naturalKeyMapping (Uuid.ofInt 1) none quarterDay SignalFamily.payment.value
    SignalFamily.payment.eventType magnitude SignalFamily.payment.unit quarterPayload

/-- The same in canonical form. -/
def quarterJson (magnitude : Decimal) : Json :=
  naturalKeyJson (Uuid.ofInt 1) none quarterDay SignalFamily.payment.value
    SignalFamily.payment.eventType magnitude SignalFamily.payment.unit quarterPayload

/-- SHA-256, on the two texts hashed below. -/
def quarterDigest : ByteArray → Text :=
  knownDigest [
    (dumps (quarterJson ⟨false, 25, -2⟩),
      "0650cb465950d4917c2732925a312bc3".toList ++ "e225f780fa693a0c12140eab032ac6d5".toList),
    (dumps (quarterJson ⟨false, 250, -3⟩),
      "c35bf3d6a945c6b5987bdea759ab0592".toList ++ "1c6ab0ab34f773bec355784ef1a16aec".toList)]

private theorem quarterPayload_ordered : Ordered (.obj quarterPayload) := by
  refine ⟨?_, trivial, trivial, trivial⟩
  have keys : ["days_past_due".toList, "is_adverse".toList].Pairwise (· < ·) := by decide
  exact List.pairwise_map.mp keys

/-- The payment event of that magnitude, where its natural key can be encoded. -/
def quarterEvent (magnitude : Decimal)
    (accepted : (canonicalValue (quarterMapping magnitude) 0).map intsPrintable = .ok true)
    (short : (dumps (quarterJson magnitude)).length ≤ 64000) :
    SignalEvent typedBuiltins quarterDigest where
  borrowerId := Uuid.ofInt 1
  facilityId := none
  eventDate := quarterDay
  family := .payment
  magnitude := magnitude
  payload := quarterPayload
  sourceId := none
  isLate := false
  contentHash := quarterDigest (dumps (quarterJson magnitude)).encode
  ordered := quarterPayload_ordered
  checked := by rfl
  hashed := by
    cases canonical : canonicalValue (quarterMapping magnitude) 0 with
    | error error => simp [canonical, Except.map] at accepted
    | ok value =>
      have same := (canonicalValue_naturalKeyMapping quarterPayload_ordered canonical).1
      rw [canonical, Except.map, Except.ok.injEq] at accepted
      have encoded := canonicalJson_of_short canonical accepted (by rw [same]; exact short)
      rw [same] at encoded
      exact Except.bind_eq_ok_iff.mpr ⟨_, encoded, rfl⟩

theorem quarter_accepted :
    (canonicalValue (quarterMapping ⟨false, 25, -2⟩) 0).map intsPrintable = .ok true ∧
      (dumps (quarterJson ⟨false, 25, -2⟩)).length ≤ 64000 := by decide +kernel

end CovenantRadar.Taxonomy
