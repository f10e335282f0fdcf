import CovenantRadar.Notifications.Runs
import CovenantRadar.Python.Reading

/-!
# Webhooks

Source `notifications/webhook.py`: the adapter refuses a payload it may not disclose, and posts a body
with an event id, the digest of what identifies the message. The signature and the reading of a
response are the transport's.
-/

namespace CovenantRadar

namespace Notifications

/-! ## Payloads -/

/-- The classes of source `_PERSONAL_FIELD_PATTERN`. -/
def personalClasses : List String :=
  ["aadhaar", "account_number", "address", "bank_account", "contact_name", "customer_name",
    "date_of_birth", "director", "director_name", "dob", "email", "first_name", "full_name",
    "last_name", "middle_name", "mobile", "national_id", "passport", "pan", "personal",
    "personal_phone", "phone", "person", "person_name", "promoter", "promoter_name", "signatory",
    "signatory_name", "tax_id", "telephone", "username"]

/-- `re.IGNORECASE`: the small letter a character matches. -/
def foldCase (c : Char) : Char :=
  if c.toNat = 0x130 ∨ c.toNat = 0x131 then 'i'
  else if c.toNat = 0x17f then 's'
  else if c.toNat = 0x212a then 'k'
  else c.toLower

/-- A character that bounds a class. -/
def boundsClass (c : Char) : Bool := c = '_' || c = '-' || c = '.'

/-- Whether a text starts with a class and a bound or the end after it. -/
def startsWithClass (text : Text) : Bool :=
  personalClasses.any fun name =>
    decide ((text.take name.toList.length).map foldCase = name.toList) &&
      (text.drop name.toList.length).head?.all boundsClass

/-- Whether a text holds a bound and a class after it. -/
def holdsClass : Text → Bool
  | [] => false
  | c :: rest => boundsClass c && startsWithClass rest || holdsClass rest

/-- Source `_PERSONAL_FIELD_PATTERN.search`. -/
def isPersonalField (key : Text) : Bool := startsWithClass key || holdsClass key

/-- Source `_safe_mapping`, on the name of a field. -/
def nameRefusal (path key : Text) : Option Text :=
  if key = [] ∨ 100 < key.length then some (path ++ " contains an invalid field name".toList)
  else if key.any fun c => decide (c.toNat < 32 ∨ c.toNat = 127) then
    some (path ++ '.' :: (key ++ " contains a control character".toList))
  else if isPersonalField key then
    some (path ++ '.' :: (key ++ " is a personal-class field".toList))
  else none

/-- Source `_MAX_PAYLOAD_BYTES`. -/
def maxPayloadBytes : Nat := 1048576

mutual
/-- Source `_safe_value`: why a value is refused. -/
def valueRefusal (path : Text) : Json → Option Text
  | .str text => if maxPayloadBytes < text.length then some (path ++ " is too long".toList) else none
  | .arr items => itemsRefusal path 0 items
  | .obj entries => mappingRefusal path entries
  | _ => none
def itemsRefusal (path : Text) (index : Nat) : List Json → Option Text
  | [] => none
  | item :: items =>
      (valueRefusal (path ++ '[' :: (Text.ofNat index ++ [']'])) item).or
        (itemsRefusal path (index + 1) items)
/-- Source `_safe_mapping`. -/
def mappingRefusal (path : Text) : List (Text × Json) → Option Text
  | [] => none
  | (key, item) :: entries =>
      (nameRefusal path key).or
        ((valueRefusal (path ++ '.' :: key) item).or (mappingRefusal path entries))
end

/-- A value somewhere in another. -/
inductive Within : Json → Json → Prop
  | here {value : Json} : Within value value
  | item {part item : Json} {items : List Json} (listed : item ∈ items) (within : Within part item) :
      Within part (.arr items)
  | field {part item : Json} {key : Text} {entries : List (Text × Json)}
      (listed : (key, item) ∈ entries) (within : Within part item) : Within part (.obj entries)

theorem itemsRefusal_none {path : Text} {index : Nat} {items : List Json}
    (passed : itemsRefusal path index items = none) :
    ∀ item ∈ items, ∃ path, valueRefusal path item = none := by
  induction items generalizing index with
  | nil => exact fun _ listed => absurd listed List.not_mem_nil
  | cons item items ih =>
    rw [itemsRefusal, Option.or_eq_none_iff] at passed
    exact List.forall_mem_cons.mpr ⟨⟨_, passed.1⟩, ih passed.2⟩

theorem mappingRefusal_none {path : Text} {entries : List (Text × Json)}
    (passed : mappingRefusal path entries = none) : ∀ entry ∈ entries,
      isPersonalField entry.1 = false ∧ ∃ path, valueRefusal path entry.2 = none := by
  induction entries with
  | nil => exact fun _ listed => absurd listed List.not_mem_nil
  | cons entry entries ih =>
    rw [mappingRefusal, Option.or_eq_none_iff, Option.or_eq_none_iff] at passed
    obtain ⟨name, value, rest⟩ := passed
    refine List.forall_mem_cons.mpr ⟨⟨?_, _, value⟩, ih rest⟩
    unfold nameRefusal at name
    split_ifs at name with _ _ personal
    exact Bool.eq_false_of_not_eq_true personal

/-- What a value that passes holds passes. -/
theorem Within.passed {part whole : Json} (within : Within part whole) {path : Text}
    (passed : valueRefusal path whole = none) : ∃ path, valueRefusal path part = none := by
  induction within generalizing path with
  | here => exact ⟨path, passed⟩
  | item listed _ ih =>
    rw [valueRefusal] at passed
    obtain ⟨_, passed⟩ := itemsRefusal_none passed _ listed
    exact ih passed
  | field listed _ ih =>
    rw [valueRefusal] at passed
    obtain ⟨_, _, passed⟩ := mappingRefusal_none passed _ listed
    exact ih passed

/-- Source `_canonical_json`. -/
def canonicalJson (value : Json) : ByteArray := (Json.dumps value).encode

/-- Source `validate_webhook_payload`: why a payload is refused. -/
def payloadRefusal (payload : JsonMapping) : Option Text :=
  match mappingRefusal "payload".toList payload.entries with
  | some reason => some reason
  | none =>
      if maxPayloadBytes < (canonicalJson payload.json).size then
        some "webhook payload exceeds the 1 MiB limit".toList
      else none

/-! ## Messages -/

/-- The subject of a message, as it is written. -/
def subjectJson : Option (Text × Uuid) → Json
  | none => .null
  | some (type, id) => .obj [("id".toList, .str id.str), ("type".toList, .str type)]

/-- What identifies a message. -/
def OutboundMessage.identity (message : OutboundMessage) : Json :=
  .obj [("data".toList, message.payload.json),
    ("recipient_id".toList, .str message.recipientId.str),
    ("subject".toList, subjectJson message.reference),
    ("subject_text".toList, .str message.subject),
    ("type".toList, .str message.template)]

/-- The event id of a message. -/
def OutboundMessage.eventId (hexdigest : ByteArray → Text) (message : OutboundMessage) : Text :=
  hexdigest (canonicalJson message.identity)

/-- What is posted for a message. -/
def OutboundMessage.event (hexdigest : ByteArray → Text) (message : OutboundMessage) : Json :=
  .obj [("data".toList, message.payload.json),
    ("event_id".toList, .str (message.eventId hexdigest)),
    ("occurred_at".toList, message.scheduledFor.elim .null fun instant => .str instant.isoformatAuto),
    ("subject".toList, subjectJson message.reference),
    ("type".toList, .str message.template),
    ("version".toList, .int 1)]

/-- Source `_envelope`: the body and the event id, or why there is none. -/
def envelope (hexdigest : ByteArray → Text) (message : OutboundMessage) :
    Except Text (ByteArray × Text) :=
  if maxPayloadBytes < (canonicalJson (message.event hexdigest)).size then
    .error "webhook envelope exceeds the 1 MiB limit".toList
  else .ok (canonicalJson (message.event hexdigest), message.eventId hexdigest)

/-! ## Sending -/

/-- Source `WebhookEndpoint`. -/
structure WebhookEndpoint where
  url : Text
  enabled : Bool

/-- Source `WebhookNotifier`: what `capability` reads, and the transport. -/
structure WebhookNotifier where
  enabled : Bool
  hasSecret : Bool
  endpoints : Option (Uuid → Option WebhookEndpoint)
  transport : WebhookEndpoint → ByteArray → Text → DeliveryResult

/-- Source `WebhookNotifier.capability`: the endpoints, or why nothing is sent. -/
def WebhookNotifier.capability (notifier : WebhookNotifier) :
    Except Text (Uuid → Option WebhookEndpoint) :=
  if !notifier.enabled then .error "Webhook delivery is disabled.".toList
  else if !notifier.hasSecret then .error
    "Webhook signing secret is not configured; set notifications.webhook_signing_secret.".toList
  else match notifier.endpoints with
    | none => .error "No webhook endpoint resolver is configured.".toList
    | some endpoints => .ok endpoints

/-- Source `_safe_error`. -/
def safeError (text : Text) : Text :=
  let oneLine : Text := text.map fun c => if c = '\r' ∨ c = '\n' then ' ' else c
  if oneLine.strip.take 2000 = [] then "webhook delivery failed".toList
  else oneLine.strip.take 2000

/-- A payload that is refused. -/
def refusedPayload (reason : Text) : Text := "webhook payload refused: ".toList ++ safeError reason

/-- Source `WebhookNotifier.send`, up to the request: where it goes, its body and its event id. -/
def WebhookNotifier.request (notifier : WebhookNotifier) (hexdigest : ByteArray → Text)
    (message : OutboundMessage) : Except Text (WebhookEndpoint × ByteArray × Text) := do
  let endpoints ← notifier.capability
  match (endpoints message.recipientId).filter WebhookEndpoint.enabled with
  | none => .error "webhook endpoint was removed or is disabled".toList
  | some endpoint =>
      match payloadRefusal message.payload with
      | some reason => .error (refusedPayload reason)
      | none => do
          let (body, eventId) ← (envelope hexdigest message).mapError refusedPayload
          return (endpoint, body, eventId)

/-- Source `WebhookNotifier.send`. -/
def WebhookNotifier.send (notifier : WebhookNotifier) (hexdigest : ByteArray → Text)
    (message : OutboundMessage) : Except Text DeliveryResult :=
  if message.channel ≠ .webhook then
    .error "WebhookNotifier can send only webhook-channel messages.".toList
  else match notifier.request hexdigest message with
    | .error reason => .ok (.deadLettered reason)
    | .ok (endpoint, body, eventId) => .ok (notifier.transport endpoint body eventId)

/-- The event id a message is posted with, if it is posted. -/
def WebhookNotifier.posted (notifier : WebhookNotifier) (hexdigest : ByteArray → Text)
    (message : OutboundMessage) : Option Text :=
  if message.channel ≠ .webhook then none
  else (notifier.request hexdigest message).toOption.map fun request => request.2.2

end Notifications

end CovenantRadar
