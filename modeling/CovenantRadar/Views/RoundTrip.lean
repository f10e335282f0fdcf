import CovenantRadar.Views.Documents

/-!
# Documents are read back

A document that `_encode_document` writes is one `_decode_document` reads, with the same name, kind,
recipients and flags, and with filters that mean the same. The keys come back in order, and nothing
the reader asks of filters depends on the order of their keys.
-/

namespace CovenantRadar

namespace Views

open Queue (QueueFilters TrimmedText)

/-! ## The order of the keys does not matter -/

/-- The last entry of a key is its only one. -/
theorem getLast?_filter_key (mapping : JsonMapping) (key : Text) :
    ((mapping.entries.filter fun entry => entry.1 == key).getLast?).map Prod.snd =
      mapping.get key := by
  apply Option.ext
  intro value
  rw [JsonMapping.get_eq_some_iff]
  constructor
  · intro last
    obtain ⟨entry, isLast, rfl⟩ := Option.map_eq_some_iff.mp last
    obtain ⟨listed, same⟩ := List.mem_filter.mp (List.mem_of_getLast? isLast)
    rw [← eq_of_beq same]
    exact listed
  · intro listed
    have kept : (key, value) ∈ mapping.entries.filter fun entry => entry.1 == key :=
      List.mem_filter.mpr ⟨listed, beq_self_eq_true _⟩
    have isLast := List.getLast?_eq_some_getLast (List.ne_nil_of_mem kept)
    generalize List.getLast _ _ = last at isLast
    obtain ⟨listed', same⟩ := List.mem_filter.mp (List.mem_of_getLast? isLast)
    have found := JsonMapping.get_eq_some_iff.mpr listed
    have found' : mapping.get key = some last.2 := by
      rw [JsonMapping.get_eq_some_iff, ← eq_of_beq same]
      exact listed'
    rw [isLast, Option.map_some, ← found', found]

theorem get_eq (mapping : JsonMapping) (key : String) :
    Queue.get mapping.entries key = (mapping.get key.toList).bind Queue.present := by
  unfold Queue.get
  rw [← getLast?_filter_key]
  cases (mapping.entries.filter fun entry => entry.1 == key.toList).getLast? <;> rfl

theorem present_sortKeys (value : Json) :
    Queue.present value.sortKeys = (Queue.present value).map Json.sortKeys := by
  cases value <;> rfl

theorem get_sortKeys (mapping : JsonMapping) (key : String) :
    Queue.get mapping.sortKeys.entries key =
      (Queue.get mapping.entries key).map Json.sortKeys := by
  rw [get_eq, get_eq, JsonMapping.get_sortKeys]
  cases mapping.get key.toList with
  | none => rfl
  | some value => exact present_sortKeys value

theorem boundedText_sortKeys (field : String) (maximum : Nat) (value : Json) :
    Queue.boundedText field maximum value.sortKeys = Queue.boundedText field maximum value := by
  cases value <;> rfl

theorem uuidValue_sortKeys (field : String) (value : Json) :
    Queue.uuidValue field value.sortKeys = Queue.uuidValue field value := by
  cases value <;> rfl

theorem optional_sortKeys {α : Type} {normalizer : Json → Except PyError α}
    (same : ∀ value : Json, normalizer value.sortKeys = normalizer value) (value : Option Json) :
    Queue.optional normalizer (value.map Json.sortKeys) = Queue.optional normalizer value := by
  cases value with
  | none => rfl
  | some value => simp [Queue.optional, same]

theorem coalesceAlias_sortKeys {α : Type} [DecidableEq α] {field : String}
    {normalizer : Json → Except PyError α}
    (same : ∀ value : Json, normalizer value.sortKeys = normalizer value)
    (primary alias' : Option Json) :
    Queue.coalesceAlias field normalizer (primary.map Json.sortKeys) (alias'.map Json.sortKeys) =
      Queue.coalesceAlias field normalizer primary alias' := by
  cases primary <;> cases alias' <;> simp [Queue.coalesceAlias, Queue.optional, same]

/-- The first unknown key in order does not depend on the order the keys stand in. -/
theorem unknown_sortKeys (mapping : JsonMapping) (unknown : Text → Bool) :
    ((mapping.sortKeys.entries.map Prod.fst).filter unknown).insertionSort (· ≤ ·) =
      ((mapping.entries.map Prod.fst).filter unknown).insertionSort (· ≤ ·) := by
  have perm := mapping.perm_keys_sortKeys.filter unknown
  exact @insertionSort_key_perm Text Text _ id _ _ (fun _ _ _ _ same => same) perm

theorem fromValue_sortKeys (mapping : JsonMapping) :
    QueueFilters.fromValue mapping.sortKeys.entries = QueueFilters.fromValue mapping.entries := by
  have choice {α : Type} (field : String) (choices : List α) (valueOf : α → Text) (value : Json) :
      Queue.choice field choices valueOf value.sortKeys =
        Queue.choice field choices valueOf value := by
    unfold Queue.choice
    rw [boundedText_sortKeys]
  have sma (value : Json) : Queue.smaChoice value.sortKeys = Queue.smaChoice value := by
    unfold Queue.smaChoice
    rw [boundedText_sortKeys]
  have portfolio (value : Json) :
      Queue.portfolioValue value.sortKeys = Queue.portfolioValue value := by
    unfold Queue.portfolioValue
    rw [boundedText_sortKeys]
  unfold QueueFilters.fromValue
  simp only [unknown_sortKeys, get_sortKeys, optional_sortKeys (choice _ _ _),
    coalesceAlias_sortKeys portfolio, coalesceAlias_sortKeys (boundedText_sortKeys _ _),
    coalesceAlias_sortKeys (uuidValue_sortKeys _), optional_sortKeys sma,
    coalesceAlias_sortKeys (choice _ _ _)]

theorem checkEntries_ok_iff {field : Text} {depth : Nat} {entries : List (Text × Json)} :
    checkEntries field depth entries = .ok () ↔
      ∀ entry ∈ entries, checkValue (field ++ '.' :: entry.1) depth entry.2 = .ok () := by
  induction entries with
  | nil => simp [checkEntries]
  | cons entry entries ih =>
    obtain ⟨key, value⟩ := entry
    simp only [checkEntries, List.forall_mem_cons, ← ih]
    cases checkValue (field ++ '.' :: key) depth value <;> simp [bind, Except.bind]

theorem length_sortKeysItems (items : List Json) :
    (Json.sortKeysItems items).length = items.length := by
  induction items with
  | nil => rfl
  | cons item items ih => simp [Json.sortKeysItems, ih]

mutual
/-- A value that passes does so with its keys in order. -/
theorem checkValue_sortKeys : ∀ {field : Text} {depth : Nat} {value : Json},
    checkValue field depth value = .ok () → checkValue field depth value.sortKeys = .ok ()
  | _, _, .null, checked => checked
  | _, _, .bool _, checked => checked
  | _, _, .int _, checked => checked
  | _, _, .float _, checked => checked
  | _, _, .str _, checked => checked
  | field, depth, .arr items, checked => by
    rw [checkValue] at checked
    split_ifs at checked with deep long
    rw [Json.sortKeys, checkValue, if_neg deep, length_sortKeysItems, if_neg long]
    exact checkItems_sortKeys checked
  | field, depth, .obj entries, checked => by
    rw [checkValue] at checked
    split_ifs at checked with deep
    rw [Json.sortKeys, checkValue, if_neg deep, checkEntries_ok_iff]
    intro entry listed
    exact checkEntries_ok_iff.mp (checkEntries_sortKeys checked) entry
      ((List.mem_insertionSort _).mp listed)
theorem checkItems_sortKeys : ∀ {field : Text} {depth : Nat} {items : List Json},
    checkItems field depth items = .ok () →
    checkItems field depth (Json.sortKeysItems items) = .ok ()
  | _, _, [], _ => rfl
  | field, depth, item :: items, checked => by
    rw [checkItems] at checked
    obtain ⟨⟨⟩, first, others⟩ := Except.bind_eq_ok_iff.mp checked
    rw [Json.sortKeysItems, checkItems, checkValue_sortKeys first]
    exact checkItems_sortKeys others
theorem checkEntries_sortKeys : ∀ {field : Text} {depth : Nat} {entries : List (Text × Json)},
    checkEntries field depth entries = .ok () →
    checkEntries field depth (Json.sortKeysEntries entries) = .ok ()
  | _, _, [], _ => rfl
  | field, depth, (key, value) :: entries, checked => by
    rw [checkEntries] at checked
    obtain ⟨⟨⟩, first, others⟩ := Except.bind_eq_ok_iff.mp checked
    rw [Json.sortKeysEntries, checkEntries, checkValue_sortKeys first]
    exact checkEntries_sortKeys others
end

theorem checkState_sortKeys (value : Option Json) :
    checkState (value.map Json.sortKeys) = checkState value := by
  cases value with
  | none => rfl
  | some value => cases value <;> rfl

theorem checkQuery_sortKeys (value : Option Json) :
    checkQuery (value.map Json.sortKeys) = checkQuery value := by
  cases value with
  | none => rfl
  | some value => cases value <;> rfl

theorem all_isText_sortKeys (items : List Json) :
    (Json.sortKeysItems items).all isText = items.all isText := by
  induction items with
  | nil => rfl
  | cons item items ih =>
    rw [Json.sortKeysItems, List.all_cons, List.all_cons, ih]
    cases item <;> rfl

theorem checkEntityTypes_sortKeys (value : Option Json) :
    checkEntityTypes (value.map Json.sortKeys) = checkEntityTypes value := by
  cases value with
  | none => rfl
  | some value =>
    cases value with
    | arr items =>
      rw [Option.map_some, Json.sortKeys, checkEntityTypes, checkEntityTypes, length_sortKeysItems,
        all_isText_sortKeys]
    | _ => rfl

theorem checkMapping_sortKeys {kind : ViewKind} {mapping : JsonMapping}
    (checked : checkMapping kind mapping = .ok ()) : checkMapping kind mapping.sortKeys = .ok () := by
  unfold checkMapping at checked ⊢
  obtain ⟨⟨⟩, keys, checked⟩ := Except.bind_eq_ok_iff.mp checked
  obtain ⟨⟨⟩, entries, checked⟩ := Except.bind_eq_ok_iff.mp checked
  have keys' : checkKeys kind mapping.sortKeys.entries = .ok () := by
    unfold checkKeys at keys ⊢
    simp only [unknown_sortKeys]
    exact keys
  have entries' : checkEntries "filters".toList 0 mapping.sortKeys.entries = .ok () := by
    have inside := checkEntries_ok_iff.mp (checkEntries_sortKeys entries)
    rw [checkEntries_ok_iff]
    intro entry listed
    exact inside entry ((List.mem_insertionSort _).mp listed)
  rw [keys', entries']
  simp only [JsonMapping.get_sortKeys, checkState_sortKeys, checkQuery_sortKeys,
    checkEntityTypes_sortKeys]
  exact checked

/-! ## The parts of a document -/

theorem cleanText_text (field : String) {maximum : Nat} (text : CleanText maximum) :
    cleanText field maximum text.text = .ok text := by
  have within : text.text.strip ≠ [] ∧ text.text.strip.length ≤ maximum := by
    rw [text.trimmed]
    exact ⟨text.visible, text.bounded⟩
  have printable : text.text.strip.all isPrintable = true := by
    rw [text.trimmed]
    exact text.printable
  unfold cleanText
  rw [dif_pos within, dif_pos printable]
  exact congrArg Except.ok (CleanText.ext text.trimmed)

theorem kindOf_value (kind : ViewKind) : kindOf kind.value = .ok kind := by
  cases kind <;> decide

theorem userIdsOf_texts (users : UserIds) :
    userIdsOf (some (texts (users.ids.map Uuid.str))) = .ok users := by
  have read : ((users.ids.map Uuid.str).map Json.str).mapM (itemUuid "user_id") =
      .ok users.ids := by
    rw [mapM_eq_ok_iff, List.map_map, List.forall₂_map_left_iff, List.forall₂_same]
    intro id _
    simp [itemUuid, Uuid.ofText_str]
  unfold userIdsOf texts
  simp only [itemsOf, read]
  exact userIds_ids users

theorem roleCodes_codes (roles : RoleCodes) : roleCodes roles.codes = .ok roles := by
  have read : ∃ parsed, roles.codes.mapM (cleanText "role_code" 50) = .ok parsed ∧
      parsed.map (fun code => code.text) = roles.codes := by
    have clean := roles.clean
    generalize roles.codes = codes at clean
    induction codes with
    | nil => exact ⟨[], rfl, rfl⟩
    | cons code codes ih =>
      obtain ⟨parsed, reads, same⟩ := ih fun other listed => clean other (List.mem_cons_of_mem _ listed)
      obtain ⟨text, rfl⟩ := clean code List.mem_cons_self
      refine ⟨text :: parsed, ?_, by rw [List.map_cons, same]⟩
      rw [List.mapM_cons, cleanText_text, reads]
      rfl
  obtain ⟨parsed, reads, same⟩ := read
  unfold roleCodes
  rw [reads]
  have bounded : (sortedSet (parsed.map fun code => code.text)).length ≤ 20 := by
    rw [same, roles.sorted]
    exact roles.bounded
  refine (dif_pos bounded).trans (congrArg Except.ok (RoleCodes.ext ?_))
  exact (congrArg sortedSet same).trans roles.sorted

theorem roleCodesOf_texts (roles : RoleCodes) :
    roleCodesOf (some (texts roles.codes)) = .ok roles := by
  have read : (roles.codes.map Json.str).mapM itemText = .ok roles.codes := by
    rw [mapM_eq_ok_iff, List.forall₂_map_left_iff, List.forall₂_same]
    intro code _
    rfl
  unfold roleCodesOf texts
  simp only [itemsOf, read]
  exact roleCodes_codes roles

/-- Filters a view has are accepted again, and mean the same, once their keys are in order. -/
theorem normaliseFilters_sortKeys {kind : ViewKind} (filters : ViewFilters kind) :
    ∃ read : ViewFilters kind, normaliseFilters (.mapping filters.mapping.sortKeys) kind = .ok read ∧
      (kind = .queueKind → QueueFilters.fromValue read.mapping.entries =
        QueueFilters.fromValue filters.mapping.entries) := by
  obtain ⟨mapping, accepted⟩ := filters
  have other (kind : ViewKind) (notQueue : kind ≠ .queueKind)
      (checked : checkMapping kind mapping = .ok ()) :
      ∃ read : ViewFilters kind, normaliseOther (.mapping mapping.sortKeys) kind notQueue = .ok read := by
    have checked' := checkMapping_sortKeys checked
    refine ⟨⟨mapping.sortKeys, .other notQueue checked'⟩, ?_⟩
    unfold normaliseOther
    split
    · next heq =>
      cases heq
      split
      · rfl
      · next heq' =>
        rw [checked'] at heq'
        cases heq'
    · next notMapping => exact absurd rfl (notMapping _)
  cases kind with
  | queueKind =>
    cases accepted with
    | queue filters read =>
      refine ⟨.ofQueue filters, ?_, fun _ => ?_⟩
      · show normaliseQueue _ = _
        unfold normaliseQueue queueFilters
        simp only [fromValue_sortKeys, read]
      · exact (Queue.fromValue_toDict filters).trans read.symm
    | other notQueue _ => exact absurd rfl notQueue
  | caseKind =>
    cases accepted with
    | other notQueue checked =>
      obtain ⟨read, accepted⟩ := other .caseKind notQueue checked
      exact ⟨read, accepted, fun isQueue => absurd isQueue notQueue⟩
  | searchKind =>
    cases accepted with
    | other notQueue checked =>
      obtain ⟨read, accepted⟩ := other .searchKind notQueue checked
      exact ⟨read, accepted, fun isQueue => absurd isQueue notQueue⟩

/-! ## The round trip -/

/-- Two documents that say the same. -/
structure SameView (a b : ViewDocument) : Prop where
  name : a.name = b.name
  kind : a.kind = b.kind
  filters : a.kind = .queueKind → QueueFilters.fromValue a.filters.mapping.entries =
    QueueFilters.fromValue b.filters.mapping.entries
  users : a.sharedUserIds = b.sharedUserIds
  roles : a.sharedRoleCodes = b.sharedRoleCodes
  shareAll : a.shareAll = b.shareAll
  isDefault : a.isDefault = b.isDefault

theorem getMapping_eq_some {mapping : JsonMapping} {key : Text} {entries : List (Text × Json)}
    (found : mapping.get key = some (.obj entries)) :
    ∃ inner, mapping.getMapping key = some inner ∧ inner.entries = entries := by
  unfold JsonMapping.getMapping
  split
  · next entries' heq =>
    rw [found] at heq
    cases heq
    exact ⟨_, rfl, rfl⟩
  · next notObj =>
    exact absurd found (notObj entries)

theorem decodeCurrent_sortKeys (document : ViewDocument) :
    ∃ read, decodeCurrent document.mapping.sortKeys = .ok read ∧ SameView read document := by
  have get (key : Text) : document.mapping.sortKeys.get key =
      ((document.entries.find? fun entry => entry.1 = key).map Prod.snd).map Json.sortKeys :=
    JsonMapping.get_sortKeys document.mapping key
  have name : document.mapping.sortKeys.get "name".toList = some (.str document.name.text) := get _
  have kind : document.mapping.sortKeys.get "kind".toList = some (.str document.kind.value) := get _
  have shareAll : document.mapping.sortKeys.get "share_all".toList =
      some (.bool document.shareAll) := get _
  have isDefault : document.mapping.sortKeys.get "is_default".toList =
      some (.bool document.isDefault) := get _
  have users : document.mapping.sortKeys.get "shared_user_ids".toList =
      some (texts (document.sharedUserIds.ids.map Uuid.str)) := by
    rw [get]
    exact congrArg (fun items => some (Json.arr items))
      (sortKeysItems_texts (document.sharedUserIds.ids.map Uuid.str))
  have roles : document.mapping.sortKeys.get "shared_role_codes".toList =
      some (texts document.sharedRoleCodes.codes) := by
    rw [get]
    exact congrArg (fun items => some (Json.arr items))
      (sortKeysItems_texts document.sharedRoleCodes.codes)
  have filters : document.mapping.sortKeys.get "filters".toList =
      some (.obj document.filters.mapping.sortKeys.entries) := get _
  obtain ⟨inner, isMapping, sameEntries⟩ := getMapping_eq_some filters
  obtain ⟨read, accepted, sameFilters⟩ := normaliseFilters_sortKeys document.filters
  have sameInner : inner = document.filters.mapping.sortKeys := by
    cases inner
    cases sameEntries
    rfl
  refine ⟨⟨document.name, document.kind, read, document.sharedUserIds, document.sharedRoleCodes,
    document.shareAll, document.isDefault⟩, ?_, ⟨rfl, rfl, sameFilters, rfl, rfl, rfl, rfl⟩⟩
  unfold decodeCurrent filterInput
  rw [name, kind, users, roles, shareAll, isDefault, isMapping, sameInner]
  simp only [cleanValue, kindValue, cleanText_text, kindOf_value, userIdsOf_texts,
    roleCodesOf_texts, strictBool, Option.elim_some]
  show (normaliseFilters _ _ >>= _) = _
  rw [accepted]
  rfl

/-- A document that is written is read back. -/
theorem decodeDocument_encodeDocument {document : ViewDocument} {value : Text}
    (encoded : encodeDocument document = .ok value) :
    ∃ read, decodeDocument value = .ok read ∧ SameView read document := by
  unfold encodeDocument at encoded
  simp only at encoded
  split_ifs at encoded with fits
  cases encoded
  obtain ⟨read, decoded, same⟩ := decodeCurrent_sortKeys document
  refine ⟨read, ?_, same⟩
  have keys : document.mapping.sortKeys.hasKeys legacyKeys = false := by
    rw [JsonMapping.hasKeys_sortKeys, JsonMapping.hasKeys_eq]
    have keys : document.mapping.entries.map Prod.fst = documentKeys := rfl
    rw [keys]
    decide
  have keys' : document.mapping.sortKeys.hasKeys documentKeys = true := by
    rw [JsonMapping.hasKeys_sortKeys, JsonMapping.hasKeys_eq]
    have keys : document.mapping.entries.map Prod.fst = documentKeys := rfl
    rw [keys]
    decide
  have version : document.mapping.sortKeys.get "schema_version".toList = some (.int 1) :=
    JsonMapping.get_sortKeys document.mapping _
  unfold decodeDocument
  rw [if_neg (Nat.not_lt.mpr fits), JsonMapping.ofText_dumps]
  have read' : ((Except.ok document.mapping.sortKeys : Except JsonMapping.ReadError JsonMapping).mapError
      DocumentError.read >>= decodeMapping) = decodeMapping document.mapping.sortKeys := rfl
  rw [read']
  unfold decodeMapping
  have notLegacy : ¬ document.mapping.sortKeys.hasKeys legacyKeys = true := by
    rw [keys]
    decide
  have current : (document.mapping.sortKeys.hasKeys documentKeys &&
      isVersionOne (document.mapping.sortKeys.get "schema_version".toList)) = true := by
    rw [keys', version]
    decide
  rw [if_neg notLegacy, if_pos current, decoded]
  rfl

end Views

end CovenantRadar
