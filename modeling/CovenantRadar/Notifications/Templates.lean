import CovenantRadar.Core.DomainErrors
import CovenantRadar.Misc.JsonMapping
import CovenantRadar.Misc.Loop

/-!
# Notification templates

Source `notifications/model.py`: a template declares its slots, and rendering refuses a value that is
unknown, missing or of another type. A payload is what the notification table holds, a mapping of
JSON values; the two texts of a template are held as they are parsed.
-/

namespace CovenantRadar

namespace Notifications

/-! ## Names -/

/-- Source `_bounded_text`. -/
def boundedText (value : Text) (field : String) (maximum : Nat) : Except DomainError Text :=
  let normalized := value.strip
  if normalized = [] ∨ maximum < normalized.length then
    .error ⟨.validationError, field.toList ++ " must be non-blank text of at most ".toList ++
      Text.ofNat maximum ++ " characters.".toList, some field.toList⟩
  else if normalized.any fun c => decide (c.toNat < 32) && !(['\n', '\r', '\t'] : List Char).contains c then
    .error ⟨.validationError, field.toList ++ " contains a control character.".toList,
      some field.toList⟩
  else .ok normalized

/-- Whether a character may start a name. -/
def startsName (c : Char) : Bool := decide ('a' ≤ c ∧ c ≤ 'z') || decide ('0' ≤ c ∧ c ≤ '9')

/-- Source `_NAME_PATTERN`. -/
def isName (text : Text) : Bool :=
  text.head?.any startsName && decide (text.length ≤ 100) &&
    text.all fun c => startsName c || (['_', '.', '-'] : List Char).contains c

/-- Source `_bounded_name`. -/
def boundedName (value : Text) (field : String) (maximum : Nat) : Except DomainError Text := do
  let normalized ← boundedText value field maximum
  if isName normalized.lower then .ok normalized.lower
  else .error ⟨.validationError, field.toList ++ " has an invalid format.".toList,
    some field.toList⟩

/-! ## Values -/

/-- The types of a slot. -/
inductive SlotType where
  | str
  | int
  | float
  | bool
  | dict
  | list
  | other (name : Text)

/-- Source `_matches`, for one type. -/
def SlotType.matches : SlotType → Json → Bool
  | .str, .str _ => true
  | .int, .int _ => true
  | .float, .float _ => true
  | .bool, .bool _ => true
  | .dict, .obj _ => true
  | .list, .arr _ => true
  | _, _ => false

/-- `type.__name__`. -/
def SlotType.name : SlotType → Text
  | .str => "str".toList
  | .int => "int".toList
  | .float => "float".toList
  | .bool => "bool".toList
  | .dict => "dict".toList
  | .list => "list".toList
  | .other name => name

mutual
/-- `json.dumps(value, ensure_ascii=False)`, with a blank after each comma and colon. -/
def spaced : Json → Text
  | .arr [] => "[]".toList
  | .arr (x :: xs) => '[' :: (spaced x ++ spacedItems xs)
  | .obj [] => ['\x7b', '\x7d']
  | .obj ((key, value) :: entries) =>
      '\x7b' :: (Json.quote key ++ ": ".toList ++ (spaced value ++ spacedEntries entries))
  | .null => "null".toList
  | .bool true => "true".toList
  | .bool false => "false".toList
  | .int i => Text.ofInt i
  | .float f => f.text
  | .str s => Json.quote s
def spacedItems : List Json → Text
  | [] => [']']
  | x :: xs => ", ".toList ++ (spaced x ++ spacedItems xs)
def spacedEntries : List (Text × Json) → Text
  | [] => ['\x7d']
  | (key, value) :: entries =>
      ", ".toList ++ (Json.quote key ++ ": ".toList ++ (spaced value ++ spacedEntries entries))
end

/-- Source `_display`. -/
def display : Json → Text
  | .null => "None".toList
  | .bool true => "True".toList
  | .bool false => "False".toList
  | .int i => Text.ofInt i
  | .float f => f.text
  | .str s => s
  | .arr items => spaced (Json.sortKeys (.arr items))
  | .obj entries => spaced (Json.sortKeys (.obj entries))

/-! ## Templates -/

/-- Source `TemplateSlot`. -/
structure TemplateSlot where
  name : Text
  expectedType : List SlotType
  required : Bool

/-- A parsed part of a template text. -/
inductive Piece where
  | literal (text : Text)
  | slot (name : Text)

/-- Source `NotificationTemplate`. -/
structure NotificationTemplate where
  name : Text
  subjectTemplate : List Piece
  bodyTemplate : List Piece
  slots : List TemplateSlot
  nonSuppressible : Bool

/-- Source `TemplateRegistry`. -/
structure TemplateRegistry where
  templates : List NotificationTemplate
  distinct : (templates.map NotificationTemplate.name).Nodup

/-- Source `TemplateRegistry.get`. -/
def TemplateRegistry.get (registry : TemplateRegistry) (name : Text) :
    Except DomainError NotificationTemplate := do
  let normalized ← boundedName name "template" 100
  match registry.templates.find? fun template => template.name = normalized with
  | some template => .ok template
  | none => .error ⟨.validationError, "Unknown notification template ".toList ++
      Text.repr normalized ++ ".".toList, some "template".toList⟩

/-- Source `_type_label`. -/
def typeLabel (types : List SlotType) : Text := " or ".toList.intercalate (types.map SlotType.name)

/-- Source `NotificationTemplate.render`, the value of one slot. -/
def slotValue (template : NotificationTemplate) (payload : JsonMapping) (slot : TemplateSlot) :
    Except DomainError (Text × Text) :=
  match payload.get slot.name with
  | none =>
      if slot.required then
        .error ⟨.validationError, "Notification template ".toList ++ Text.repr template.name ++
          " has an unfilled slot ".toList ++ Text.repr slot.name ++ ".".toList, some slot.name⟩
      else .ok (slot.name, [])
  | some value =>
      if slot.expectedType.any (·.matches value) then .ok (slot.name, display value)
      else .error ⟨.validationError, "Notification slot ".toList ++ Text.repr slot.name ++
        " must be ".toList ++ typeLabel slot.expectedType ++ ".".toList, some slot.name⟩

/-- Source `_StringFormatter.format`, one part. -/
def renderPiece (values : List (Text × Text)) : Piece → Except DomainError Text
  | .literal text => .ok text
  | .slot name =>
      match dictGet values name with
      | some text => .ok text
      | none => .error ⟨.validationError, "Notification slot ".toList ++ Text.repr name ++
          " is not available.".toList, some name⟩

/-- Source `_render_string`. -/
def renderString (pieces : List Piece) (values : List (Text × Text)) : Except DomainError Text := do
  let parts ← pieces.mapM (renderPiece values)
  return Text.strip parts.flatten

/-- Source `RenderedNotification`. -/
structure RenderedNotification where
  template : Text
  subject : Text
  body : Text
  payload : JsonMapping

/-- The refusals of two rendered texts. -/
def checkRendered (subject body : Text) : Except DomainError Unit :=
  if 500 < subject.length then
    .error (.validationError "Rendered notification subject is too long." "subject")
  else if 100000 < body.length then
    .error (.validationError "Rendered notification body is too long." "body")
  else if body.strip = [] then
    .error (.validationError "Rendered notification body is empty." "body")
  else .ok ()

/-- The names in a payload that a template does not declare, in order. -/
def unknownSlots (template : NotificationTemplate) (payload : JsonMapping) : List Text :=
  sortedSet ((payload.entries.map Prod.fst).filter fun name =>
    !(template.slots.map TemplateSlot.name).contains name)

/-- Source `NotificationTemplate.render`, the two texts. -/
def renderTexts (template : NotificationTemplate) (payload : JsonMapping) :
    Except DomainError (Text × Text) :=
  match unknownSlots template payload with
  | unknown :: _ => .error ⟨.validationError,
      "Notification payload contains undeclared slot ".toList ++ Text.repr unknown ++ ".".toList,
      some "payload".toList⟩
  | [] => do
      let values ← template.slots.mapM (slotValue template payload)
      let subject ← renderString template.subjectTemplate values
      let body ← renderString template.bodyTemplate values
      checkRendered subject body
      return (subject, body)

/-- Source `NotificationTemplate.render`. -/
def NotificationTemplate.render (template : NotificationTemplate) (payload : JsonMapping) :
    Except DomainError RenderedNotification := do
  let (subject, body) ← renderTexts template payload
  return ⟨template.name, subject, body, payload⟩

end Notifications

end CovenantRadar
