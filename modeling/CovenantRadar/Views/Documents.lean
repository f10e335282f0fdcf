import CovenantRadar.Misc.JsonMapping
import CovenantRadar.Queue.Filters

/-!
# View documents

Source `db/repositories/view.py`: the JSON document a saved view keeps its filters, its recipients
and its default flag in, how it is written, and how either of its two schemas is read.
-/

namespace CovenantRadar

namespace Views

open Queue (QueueFilters TrimmedText)

/-! ## Errors -/

/-- What a view operation raises. -/
inductive ViewError where
  | domain (error : DomainError)
  | python (error : PyError)
  deriving DecidableEq

/-- `ValidationError(message, field=field)`. -/
def invalid (message : String) (field : Text) : ViewError :=
  .domain ⟨.validationError, message.toList, some field⟩

/-- What `_decode_document` raises; `_record` answers all of it alike. -/
inductive DocumentError where
  | tooLarge
  | read (error : JsonMapping.ReadError)
  | legacyFilters
  | schema
  | view (error : ViewError)
  deriving DecidableEq

/-! ## Texts and recipients -/

/-- Source `MAX_VIEW_NAME`. -/
def maxViewName : Nat := 100

/-- Source `MAX_VIEW_DESCRIPTION`. -/
def maxViewDescription : Nat := 500

/-- Source `MAX_VIEW_FILTER_BYTES`. -/
def maxViewFilterBytes : Nat := 64 * 1024

/-- A character `_text` lets pass. -/
def isPrintable (c : Char) : Bool := decide (32 ≤ c.toNat) && decide (c.toNat ≠ 127)

/-- A trimmed text without control characters. -/
structure CleanText (maximum : Nat) extends TrimmedText maximum where
  printable : text.all isPrintable = true

theorem CleanText.ext {maximum : Nat} {a b : CleanText maximum} (text : a.text = b.text) :
    a = b := by
  obtain ⟨a, _⟩ := a
  obtain ⟨b, _⟩ := b
  obtain rfl : a = b := TrimmedText.ext text
  rfl

theorem strip_visible {value : Text} {maximum : Nat}
    (within : value.strip ≠ [] ∧ value.strip.length ≤ maximum) : value.strip ≠ [] := within.1

theorem strip_bounded {value : Text} {maximum : Nat}
    (within : value.strip ≠ [] ∧ value.strip.length ≤ maximum) : value.strip.length ≤ maximum :=
  within.2

/-- Source `_text`, on a text. -/
def cleanText (field : String) (maximum : Nat) (value : Text) :
    Except ViewError (CleanText maximum) :=
  if within : value.strip ≠ [] ∧ value.strip.length ≤ maximum then
    if printable : value.strip.all isPrintable = true then
      .ok ⟨⟨value.strip, Text.strip_strip value, strip_visible within, strip_bounded within⟩,
        printable⟩
    else .error (invalid s!"{field} contains an invalid control character." field.toList)
  else .error (invalid
    s!"{field} must be non-empty text of at most {maximum} characters." field.toList)

/-- Source `_text`, on a JSON value. -/
def cleanValue (field : String) (maximum : Nat) : Option Json → Except ViewError (CleanText maximum)
  | some (.str text) => cleanText field maximum text
  | _ => .error (invalid s!"{field} must be non-empty text of at most {maximum} characters."
      field.toList)

/-- `sorted(set(ids))` of identifiers, which compare as integers. -/
def sortedIds (ids : List Uuid) : List Uuid := ids.dedup.insertionSort fun a b => a.int ≤ b.int

theorem sortedIds_idem (ids : List Uuid) : sortedIds (sortedIds ids) = sortedIds ids := by
  have distinct : (sortedIds ids).Nodup :=
    (List.perm_insertionSort _ _).nodup_iff.mpr ids.nodup_dedup
  have total : Std.Total (fun a b : Uuid => a.int ≤ b.int) := ⟨fun a b => le_total a.int b.int⟩
  have transitive : IsTrans Uuid (fun a b => a.int ≤ b.int) := ⟨fun _ _ _ => le_trans⟩
  have sorted : (sortedIds ids).Pairwise fun a b => a.int ≤ b.int := List.pairwise_insertionSort _ _
  rw [sortedIds, distinct.dedup, sorted.insertionSort_eq]

/-- The users a view is shared with, each once and in order. -/
@[ext] structure UserIds where
  ids : List Uuid
  sorted : sortedIds ids = ids
  bounded : ids.length ≤ 100

/-- Source `_user_ids`, on identifiers. -/
def userIds (ids : List Uuid) : Except ViewError UserIds :=
  if bounded : (sortedIds ids).length ≤ 100 then .ok ⟨sortedIds ids, sortedIds_idem ids, bounded⟩
  else .error (invalid "A view can be shared with at most 100 users." "user_ids".toList)

theorem noUsers_bounded : ([] : List Uuid).length ≤ 100 := Nat.zero_le 100

/-- No users. -/
def UserIds.none : UserIds := ⟨[], rfl, noUsers_bounded⟩

theorem userIds_ids (users : UserIds) : userIds users.ids = .ok users := by
  unfold userIds
  have bounded : (sortedIds users.ids).length ≤ 100 := by
    rw [users.sorted]
    exact users.bounded
  rw [dif_pos bounded]
  exact congrArg Except.ok (UserIds.ext users.sorted)

/-- Source `_uuid`, on an item of a JSON value. -/
def itemUuid (field : String) (item : Json) : Except ViewError Uuid :=
  let refused := invalid s!"{field} must be a valid UUID." field.toList
  let read (text : Text) := (Uuid.ofText text).elim (.error refused) .ok
  match item with
  | .str text => read text
  | .int number => read (Text.ofInt number)
  | _ => .error refused

/-- What iterating over a JSON value yields, where it is not a text. -/
def itemsOf : Option Json → Option (List Json)
  | some (.arr items) => some items
  | some (.obj entries) => some (entries.map fun entry => .str entry.1)
  | _ => none

/-- Source `_user_ids`, on a JSON value. -/
def userIdsOf (value : Option Json) : Except ViewError UserIds :=
  match itemsOf value with
  | some items => do
      let ids ← items.mapM (itemUuid "user_id")
      userIds ids
  | none => .error (invalid "shared_user_ids must be an iterable of UUIDs." "user_ids".toList)

theorem sortedSet_idem {α : Type} [LinearOrder α] (xs : List α) :
    sortedSet (sortedSet xs) = sortedSet xs := by
  have sorted := sortedSet_pairwise xs
  have distinct : (sortedSet xs).Nodup := sorted.imp ne_of_lt
  rw [sortedSet, distinct.dedup, (sorted.imp le_of_lt).insertionSort_eq]

/-- The roles a view is shared with, each once and in order. -/
@[ext] structure RoleCodes where
  codes : List Text
  clean : ∀ code ∈ codes, ∃ clean : CleanText 50, clean.text = code
  sorted : sortedSet codes = codes
  bounded : codes.length ≤ 20

theorem noRoles_clean : ∀ code ∈ ([] : List Text), ∃ clean : CleanText 50, clean.text = code :=
  fun _ listed => absurd listed List.not_mem_nil

theorem noRoles_bounded : ([] : List Text).length ≤ 20 := Nat.zero_le 20

/-- No roles. -/
def RoleCodes.none : RoleCodes := ⟨[], noRoles_clean, rfl, noRoles_bounded⟩

theorem clean_of_mem_sortedSet {parsed : List (CleanText 50)} :
    ∀ code ∈ sortedSet (parsed.map fun code => code.text), ∃ clean : CleanText 50, clean.text = code := by
  intro code listed
  obtain ⟨clean, _, same⟩ := List.mem_map.mp (mem_sortedSet.mp listed)
  exact ⟨clean, same⟩

/-- Source `_role_codes`, on texts. -/
def roleCodes (values : List Text) : Except ViewError RoleCodes := do
  let parsed ← values.mapM (cleanText "role_code" 50)
  if bounded : (sortedSet (parsed.map fun code => code.text)).length ≤ 20 then
    .ok ⟨sortedSet (parsed.map fun code => code.text), clean_of_mem_sortedSet, sortedSet_idem _,
      bounded⟩
  else .error (invalid "A view can be shared with at most 20 roles." "role_codes".toList)

/-- The text of an item, or the refusal of one that is none. -/
def itemText (item : Json) : Except ViewError Text :=
  match item with
  | .str text => .ok text
  | _ => .error (invalid "role_code must be non-empty text of at most 50 characters."
      "role_code".toList)

/-- Source `_role_codes`, on a JSON value. -/
def roleCodesOf (value : Option Json) : Except ViewError RoleCodes :=
  match itemsOf value with
  | some items => do
      let values ← items.mapM itemText
      roleCodes values
  | none => .error (invalid "shared_role_codes must be an iterable of strings."
      "role_codes".toList)

/-- Source `_strict_bool`. -/
def strictBool (field : String) : Option Json → Except ViewError Bool
  | some (.bool value) => .ok value
  | _ => .error (.python (.valueError s!"{field} must be a boolean"))

/-! ## Filters -/

/-- Source `_VIEW_KINDS`. -/
inductive ViewKind where
  | queueKind
  | caseKind
  | searchKind
  deriving DecidableEq

/-- The text of a kind. -/
def ViewKind.value : ViewKind → Text
  | queueKind => "queue".toList
  | caseKind => "case".toList
  | searchKind => "search".toList

/-- Source `_VIEW_KINDS`, listed. -/
def viewKinds : List ViewKind := [.queueKind, .caseKind, .searchKind]

/-- Source `_kind`, on a text. -/
def kindOf (value : Text) : Except ViewError ViewKind :=
  match viewKinds.find? fun kind => kind.value == value with
  | some kind => .ok kind
  | none => .error (invalid "kind must be one of case, queue, search." "kind".toList)

/-- Source `_kind`, on a JSON value. -/
def kindValue : Option Json → Except ViewError ViewKind
  | some (.str text) => kindOf text
  | _ => .error (invalid "kind must be one of case, queue, search." "kind".toList)

/-- The filters a caller gives, or a document holds. -/
inductive FilterInput where
  | mapping (mapping : JsonMapping)
  | filters (filters : QueueFilters)
  /-- A value with none of the attributes a filter is read from. -/
  | other

mutual
/-- Source `_json_value`: a JSON value is returned as it is, or refused. -/
def checkValue (field : Text) (depth : Nat) : Json → Except ViewError Unit
  | .str text =>
      if 3 < depth then .error (invalid "Filter nesting is too deep." field)
      else if 200 < text.length then .error (invalid "Filter text is too long." field)
      else .ok ()
  | .arr items =>
      if 3 < depth then .error (invalid "Filter nesting is too deep." field)
      else if 100 < items.length then .error (invalid "Filter lists are too long." field)
      else checkItems field (depth + 1) items
  | .obj entries =>
      if 3 < depth then .error (invalid "Filter nesting is too deep." field)
      else checkEntries field (depth + 1) entries
  | .null => if 3 < depth then .error (invalid "Filter nesting is too deep." field) else .ok ()
  | .bool _ => if 3 < depth then .error (invalid "Filter nesting is too deep." field) else .ok ()
  | .int _ => if 3 < depth then .error (invalid "Filter nesting is too deep." field) else .ok ()
  | .float _ => if 3 < depth then .error (invalid "Filter nesting is too deep." field) else .ok ()
def checkItems (field : Text) (depth : Nat) : List Json → Except ViewError Unit
  | [] => .ok ()
  | item :: items => do
      checkValue field depth item
      checkItems field depth items
def checkEntries (field : Text) (depth : Nat) : List (Text × Json) → Except ViewError Unit
  | [] => .ok ()
  | (key, value) :: entries => do
      checkValue (field ++ '.' :: key) depth value
      checkEntries field depth entries
end

/-- The states a case view can filter on. -/
def viewStates : List Text :=
  ["open", "in_progress", "monitoring", "escalated", "closed"].map String.toList

/-- The state of a case view: a value no set can hold is not compared. -/
def checkState : Option Json → Except ViewError Unit
  | none => .ok ()
  | some (.str text) =>
      if viewStates.contains text then .ok ()
      else .error (invalid "case state is not supported." "filters.state".toList)
  | some (.arr _) => .error (.python (.typeError "unhashable type: 'list'"))
  | some (.obj _) => .error (.python (.typeError "unhashable type: 'dict'"))
  | some _ => .error (invalid "case state is not supported." "filters.state".toList)

/-- The query of a search view. -/
def checkQuery : Option Json → Except ViewError Unit
  | none => .ok ()
  | some (.str text) =>
      if text.length ≤ 200 then .ok ()
      else .error (invalid "search query must be at most 200 characters." "filters.query".toList)
  | some _ =>
      .error (invalid "search query must be at most 200 characters." "filters.query".toList)

/-- Whether a value is a text. -/
def isText : Json → Bool
  | .str _ => true
  | _ => false

/-- The entity types of a search view. -/
def checkEntityTypes : Option Json → Except ViewError Unit
  | none => .ok ()
  | some (.arr items) =>
      if items.length ≤ 10 ∧ items.all isText = true then .ok ()
      else .error (invalid "search entity_types must be a list of at most 10 strings."
        "filters.entity_types".toList)
  | some _ => .error (invalid "search entity_types must be a list of at most 10 strings."
      "filters.entity_types".toList)

/-- The keys of the filters of a case or search view. -/
def allowedFilters : ViewKind → List Text
  | .caseKind =>
      ["state", "assignee_id", "borrower_id", "portfolio_id", "case_id"].map String.toList
  | .searchKind => ["query", "entity_types"].map String.toList
  | .queueKind => []

/-- `Unknown {kind} filter field ...`, for the first key a kind does not know. -/
def checkKeys (kind : ViewKind) (entries : List (Text × Json)) : Except ViewError Unit :=
  let unknown := (entries.map Prod.fst).filter fun key => !(allowedFilters kind).contains key
  match (unknown.insertionSort (· ≤ ·)).head? with
  | none => .ok ()
  | some first =>
      let name := String.ofList (Text.repr first)
      let kindName := String.ofList kind.value
      .error (invalid s!"Unknown {kindName} filter field {name}." "filters".toList)

/-- What `_normalise_filters` asks of the mapping of a case or search view. -/
def checkMapping (kind : ViewKind) (mapping : JsonMapping) : Except ViewError Unit := do
  checkKeys kind mapping.entries
  checkEntries "filters".toList 0 mapping.entries
  match kind with
  | .caseKind => checkState (mapping.get "state".toList)
  | .searchKind => do
      checkQuery (mapping.get "query".toList)
      checkEntityTypes (mapping.get "entity_types".toList)
  | .queueKind => .ok ()

/-- Source `QueueFilters.from_value`. -/
def queueFilters : FilterInput → Except PyError QueueFilters
  | .mapping mapping => QueueFilters.fromValue mapping.entries
  | .filters filters => .ok filters
  | .other => .ok QueueFilters.none

theorem readsBack_textOrNull (text : Option Text) :
    Json.ReadsBack (QueueFilters.textOrNull text) := by
  cases text <;> trivial

theorem distinctKeys_textOrNull (text : Option Text) :
    Json.distinctKeys (QueueFilters.textOrNull text) = true := by
  cases text <;> rfl

theorem readsBack_toDict (filters : QueueFilters) : Json.ReadsBack (.obj filters.toDict) := by
  apply Json.readsBackEntries_iff.mpr
  intro entry listed
  simp only [QueueFilters.toDict, List.mem_cons, List.not_mem_nil, or_false] at listed
  rcases listed with rfl | rfl | rfl | rfl | rfl | rfl | rfl <;> exact readsBack_textOrNull _

theorem distinctKeys_toDict (filters : QueueFilters) :
    Json.distinctKeys (.obj filters.toDict) = true := by
  have keys : filters.toDict.map Prod.fst = ["band".toList, "portfolio".toList, "industry".toList,
    "assignee".toList, "sma_band".toList, "case_state".toList, "signal_family".toList] := rfl
  rw [Json.distinctKeys, Bool.and_eq_true, decide_eq_true_eq, Json.distinctKeysEntries_iff, keys]
  refine ⟨by decide, fun entry listed => ?_⟩
  simp only [QueueFilters.toDict, List.mem_cons, List.not_mem_nil, or_false] at listed
  rcases listed with rfl | rfl | rfl | rfl | rfl | rfl | rfl <;> exact distinctKeys_textOrNull _

/-- The text of an exception of the standard library. -/
def errorText : PyError → String
  | .valueError message => message
  | .typeError message => message
  | .overflowError message => message
  | .keyError key => key
  | .arithmeticError message => message

/-- The mapping queue filters are stored as. -/
def dictOf (filters : QueueFilters) : JsonMapping :=
  ⟨filters.toDict, readsBack_toDict filters, distinctKeys_toDict filters⟩

/-- The filters a view of a kind can have. -/
inductive Accepted : ViewKind → JsonMapping → Prop
  | queue {mapping : JsonMapping} (filters : QueueFilters)
      (read : QueueFilters.fromValue mapping.entries = .ok filters) : Accepted .queueKind mapping
  | other {kind : ViewKind} {mapping : JsonMapping} (notQueue : kind ≠ .queueKind)
      (checked : checkMapping kind mapping = .ok ()) : Accepted kind mapping

/-- Filters a view of a kind can have. -/
structure ViewFilters (kind : ViewKind) where
  mapping : JsonMapping
  accepted : Accepted kind mapping

/-- Queue filters, as they are stored. -/
def ViewFilters.ofQueue (filters : QueueFilters) : ViewFilters .queueKind :=
  ⟨dictOf filters, .queue filters (Queue.fromValue_toDict filters)⟩

/-- Source `_normalise_filters`, for a queue view. -/
def normaliseQueue (filters : FilterInput) : Except ViewError (ViewFilters .queueKind) :=
  match queueFilters filters with
  | .ok read => .ok (.ofQueue read)
  | .error error =>
      let message := errorText error
      .error (invalid s!"Invalid queue filters: {message}" "filters".toList)

/-- Source `_normalise_filters`, for a view of another kind. -/
def normaliseOther (filters : FilterInput) (kind : ViewKind) (notQueue : kind ≠ .queueKind) :
    Except ViewError (ViewFilters kind) :=
  match filters with
  | .mapping mapping =>
      match checked : checkMapping kind mapping with
      | .ok () => .ok ⟨mapping, .other notQueue checked⟩
      | .error error => .error error
  | _ => .error (invalid "Filters must be an object." "filters".toList)

theorem caseKind_ne_queueKind : ViewKind.caseKind ≠ ViewKind.queueKind := by decide

theorem searchKind_ne_queueKind : ViewKind.searchKind ≠ ViewKind.queueKind := by decide

/-- Source `_normalise_filters`. -/
def normaliseFilters (filters : FilterInput) : ∀ kind, Except ViewError (ViewFilters kind)
  | .queueKind => normaliseQueue filters
  | .caseKind => normaliseOther filters .caseKind caseKind_ne_queueKind
  | .searchKind => normaliseOther filters .searchKind searchKind_ne_queueKind

/-! ## Documents -/

/-- What a document says, as `_decode_document` returns it. -/
structure ViewDocument where
  name : CleanText maxViewName
  kind : ViewKind
  filters : ViewFilters kind
  sharedUserIds : UserIds
  sharedRoleCodes : RoleCodes
  shareAll : Bool
  isDefault : Bool

/-- A list of texts as a JSON value. -/
def texts (values : List Text) : Json := .arr (values.map Json.str)

/-- Source `_encode_document`, the document before it is written. -/
def ViewDocument.entries (document : ViewDocument) : List (Text × Json) :=
  [("schema_version".toList, .int 1),
    ("name".toList, .str document.name.text),
    ("kind".toList, .str document.kind.value),
    ("filters".toList, document.filters.mapping.json),
    ("shared_user_ids".toList, texts (document.sharedUserIds.ids.map Uuid.str)),
    ("shared_role_codes".toList, texts document.sharedRoleCodes.codes),
    ("share_all".toList, .bool document.shareAll),
    ("is_default".toList, .bool document.isDefault)]

/-- The keys of a document. -/
def documentKeys : List Text :=
  ["schema_version", "name", "kind", "filters", "shared_user_ids", "shared_role_codes", "share_all",
    "is_default"].map String.toList

/-- The keys of the older documents. -/
def legacyKeys : List Text := ["name", "filters"].map String.toList

theorem readsBackItems_texts (values : List Text) :
    Json.ReadsBackItems (values.map Json.str) := by
  induction values with
  | nil => trivial
  | cons value values ih => exact ⟨trivial, ih⟩

theorem distinctKeysItems_texts (values : List Text) :
    Json.distinctKeysItems (values.map Json.str) = true := by
  induction values with
  | nil => rfl
  | cons value values ih =>
    rw [List.map_cons, Json.distinctKeysItems, ih]
    rfl

theorem sortKeysItems_texts (values : List Text) :
    Json.sortKeysItems (values.map Json.str) = values.map Json.str := by
  induction values with
  | nil => rfl
  | cons value values ih =>
    rw [List.map_cons, Json.sortKeysItems, ih]
    rfl

theorem readsBack_entries (document : ViewDocument) : Json.ReadsBack (.obj document.entries) :=
  ⟨trivial, trivial, trivial, document.filters.mapping.readsBack, readsBackItems_texts _,
    readsBackItems_texts _, trivial, trivial, trivial⟩

theorem distinctKeys_entries (document : ViewDocument) :
    Json.distinctKeys (.obj document.entries) = true := by
  have keys : document.entries.map Prod.fst = documentKeys := rfl
  rw [Json.distinctKeys, Bool.and_eq_true, decide_eq_true_eq, Json.distinctKeysEntries_iff, keys]
  refine ⟨by decide, fun entry listed => ?_⟩
  simp only [ViewDocument.entries, List.mem_cons, List.not_mem_nil, or_false] at listed
  rcases listed with rfl | rfl | rfl | rfl | rfl | rfl | rfl | rfl
  · rfl
  · rfl
  · rfl
  · exact document.filters.mapping.distinct
  · exact distinctKeysItems_texts _
  · exact distinctKeysItems_texts _
  · rfl
  · rfl

/-- A document as a mapping. -/
def ViewDocument.mapping (document : ViewDocument) : JsonMapping :=
  ⟨document.entries, readsBack_entries document, distinctKeys_entries document⟩

/-- Source `_encode_document`. -/
def encodeDocument (document : ViewDocument) : Except ViewError Text :=
  let encoded := document.mapping.json.dumps
  if encoded.encode.size ≤ maxViewFilterBytes then .ok encoded
  else .error (invalid "View filters are too large." "filters".toList)

/-- `decoded["schema_version"] == 1`, where a boolean or a float can be one as well. -/
def isVersionOne : Option Json → Bool
  | some (.int version) => version == 1
  | some (.bool version) => version
  | some (.float version) => version.text == "1.0".toList
  | _ => false

/-- A filter value of a decoded document. -/
def filterInput (decoded : JsonMapping) : FilterInput :=
  (decoded.getMapping "filters".toList).elim .other .mapping

/-- Source `_decode_document`, on the original schema. -/
def decodeLegacy (decoded : JsonMapping) : Except DocumentError ViewDocument := do
  let name ← (cleanValue "name" maxViewName (decoded.get "name".toList)).mapError .view
  match decoded.getMapping "filters".toList with
  | none => .error .legacyFilters
  | some filters =>
      match read : QueueFilters.fromValue filters.entries with
      | .error error => .error (.view (.python error))
      | .ok _ => .ok ⟨name, .queueKind, ⟨filters, .queue _ read⟩, UserIds.none, RoleCodes.none,
          true, false⟩

/-- Source `_decode_document`, on the present schema. -/
def decodeCurrent (decoded : JsonMapping) : Except ViewError ViewDocument := do
  let name ← cleanValue "name" maxViewName (decoded.get "name".toList)
  let kind ← kindValue (decoded.get "kind".toList)
  let filters ← normaliseFilters (filterInput decoded) kind
  let users ← userIdsOf (decoded.get "shared_user_ids".toList)
  let roles ← roleCodesOf (decoded.get "shared_role_codes".toList)
  let shareAll ← strictBool "share_all" (decoded.get "share_all".toList)
  let isDefault ← strictBool "is_default" (decoded.get "is_default".toList)
  return ⟨name, kind, filters, users, roles, shareAll, isDefault⟩

/-- Source `_decode_document`, on either schema. -/
def decodeMapping (decoded : JsonMapping) : Except DocumentError ViewDocument :=
  if decoded.hasKeys legacyKeys then decodeLegacy decoded
  else if decoded.hasKeys documentKeys && isVersionOne (decoded.get "schema_version".toList) then
    (decodeCurrent decoded).mapError .view
  else .error .schema

/-- Source `_decode_document`. -/
def decodeDocument (value : Text) : Except DocumentError ViewDocument :=
  if maxViewFilterBytes < value.encode.size then .error .tooLarge
  else (JsonMapping.ofText value).mapError .read >>= decodeMapping

end Views

end CovenantRadar
