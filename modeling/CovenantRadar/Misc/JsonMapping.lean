import CovenantRadar.Misc.JsonRead
import CovenantRadar.Misc.Select

/-!
# Mappings of JSON values

A mapping holds one value for a key, all the way down, and no number that is not read back: what
`json.loads` returns when it refuses a second value for a key, and what `json.dumps` can be given.
A mapping that is written is read back with the same value for every key.
-/

namespace CovenantRadar

/-- A mapping from text to JSON values. -/
structure JsonMapping where
  entries : List (Text × Json)
  readsBack : Json.ReadsBack (.obj entries)
  distinct : Json.distinctKeys (.obj entries) = true

namespace JsonMapping

/-- The mapping as a value. -/
def json (mapping : JsonMapping) : Json := .obj mapping.entries

theorem keys_nodup (mapping : JsonMapping) : (mapping.entries.map Prod.fst).Nodup := by
  have distinct := mapping.distinct
  rw [Json.distinctKeys, Bool.and_eq_true, decide_eq_true_eq] at distinct
  exact distinct.1

/-- The value of a key. -/
def get (mapping : JsonMapping) (key : Text) : Option Json :=
  (mapping.entries.find? fun entry => entry.1 = key).map Prod.snd

/-- Whether a mapping has exactly these keys. -/
def hasKeys (mapping : JsonMapping) (keys : List Text) : Bool :=
  mapping.entries.all (fun entry => keys.contains entry.1) &&
    keys.all fun key => (mapping.entries.map Prod.fst).contains key

theorem get_eq_some_iff {mapping : JsonMapping} {key : Text} {value : Json} :
    mapping.get key = some value ↔ (key, value) ∈ mapping.entries := by
  unfold get
  simp only [Option.map_eq_some_iff, find?_key_eq_some_iff mapping.keys_nodup]
  constructor
  · rintro ⟨entry, ⟨listed, rfl⟩, rfl⟩
    exact listed
  · intro listed
    exact ⟨(key, value), ⟨listed, rfl⟩, rfl⟩

theorem readsBack_of_mem {mapping : JsonMapping} {entry : Text × Json}
    (listed : entry ∈ mapping.entries) : Json.ReadsBack entry.2 :=
  Json.readsBackEntries_iff.mp mapping.readsBack entry listed

theorem distinct_of_mem {mapping : JsonMapping} {entry : Text × Json}
    (listed : entry ∈ mapping.entries) : Json.distinctKeys entry.2 = true := by
  have distinct := mapping.distinct
  rw [Json.distinctKeys, Bool.and_eq_true] at distinct
  exact Json.distinctKeysEntries_iff.mp distinct.2 entry listed

theorem readsBack_of_get {mapping : JsonMapping} {key : Text} {value : Json}
    (found : mapping.get key = some value) : Json.ReadsBack value :=
  @readsBack_of_mem mapping (key, value) (get_eq_some_iff.mp found)

theorem distinct_of_get {mapping : JsonMapping} {key : Text} {value : Json}
    (found : mapping.get key = some value) : Json.distinctKeys value = true :=
  @distinct_of_mem mapping (key, value) (get_eq_some_iff.mp found)

/-- The value of a key, where it is a mapping. -/
def getMapping (mapping : JsonMapping) (key : Text) : Option JsonMapping :=
  match found : mapping.get key with
  | some (.obj entries) => some ⟨entries, readsBack_of_get found, distinct_of_get found⟩
  | _ => none

/-! ## The order of the keys -/

/-- The mapping with its keys, and those of its values, in order. -/
def sortKeys (mapping : JsonMapping) : JsonMapping where
  entries := (Json.sortKeysEntries mapping.entries).insertionSort fun a b => a.1 ≤ b.1
  readsBack := Json.readsBack_sortKeys mapping.readsBack
  distinct := Json.distinctKeys_sortKeys mapping.distinct

theorem json_sortKeys (mapping : JsonMapping) : mapping.sortKeys.json = mapping.json.sortKeys :=
  rfl

theorem mem_sortKeysEntries {entries : List (Text × Json)} {entry : Text × Json} :
    entry ∈ Json.sortKeysEntries entries ↔
      ∃ old ∈ entries, entry = (old.1, Json.sortKeys old.2) := by
  induction entries with
  | nil => simp [Json.sortKeysEntries]
  | cons first entries ih => simp [Json.sortKeysEntries, ih]

theorem mem_sortKeys {mapping : JsonMapping} {entry : Text × Json} :
    entry ∈ mapping.sortKeys.entries ↔
      ∃ old ∈ mapping.entries, entry = (old.1, Json.sortKeys old.2) := by
  rw [← mem_sortKeysEntries]
  exact List.mem_insertionSort _

theorem get_sortKeys (mapping : JsonMapping) (key : Text) :
    mapping.sortKeys.get key = (mapping.get key).map Json.sortKeys := by
  apply Option.ext
  intro value
  simp only [Option.map_eq_some_iff, get_eq_some_iff, mem_sortKeys]
  constructor
  · rintro ⟨⟨key', value'⟩, listed, same⟩
    cases same
    exact ⟨value', listed, rfl⟩
  · rintro ⟨value', listed, rfl⟩
    exact ⟨(key, value'), listed, rfl⟩

theorem perm_keys_sortKeys (mapping : JsonMapping) :
    (mapping.sortKeys.entries.map Prod.fst).Perm (mapping.entries.map Prod.fst) := by
  rw [← Json.keys_sortKeysEntries mapping.entries]
  exact (List.perm_insertionSort _ _).map Prod.fst

theorem hasKeys_eq (mapping : JsonMapping) (keys : List Text) :
    mapping.hasKeys keys = ((mapping.entries.map Prod.fst).all keys.contains &&
      keys.all (mapping.entries.map Prod.fst).contains) := by
  unfold hasKeys
  rw [List.all_map]
  rfl

theorem hasKeys_sortKeys (mapping : JsonMapping) (keys : List Text) :
    mapping.sortKeys.hasKeys keys = mapping.hasKeys keys := by
  have same : ∀ key, key ∈ mapping.sortKeys.entries.map Prod.fst ↔
      key ∈ mapping.entries.map Prod.fst := fun _ => mapping.perm_keys_sortKeys.mem_iff
  rw [hasKeys_eq, hasKeys_eq, Bool.eq_iff_iff]
  simp only [Bool.and_eq_true, List.all_eq_true, List.contains_iff_mem, same]

/-! ## Reading and writing -/

/-- What reading a document can be refused for. -/
inductive ReadError where
  | malformed
  | duplicateKey
  | notMapping
  deriving DecidableEq

/-- `json.loads(text, object_pairs_hook=_reject_duplicate_keys)`, of a mapping. -/
def ofText (text : Text) : Except ReadError JsonMapping :=
  match read : Json.loads text with
  | some (.obj entries) =>
      if distinct : Json.distinctKeys (.obj entries) = true then
        .ok ⟨entries, Json.readsBack_of_loads read, distinct⟩
      else .error .duplicateKey
  | some value => .error (if Json.distinctKeys value then .notMapping else .duplicateKey)
  | none => .error .malformed

/-- A mapping that is written is read back, its keys in order. -/
theorem ofText_dumps (mapping : JsonMapping) : ofText mapping.json.dumps = .ok mapping.sortKeys := by
  have read : Json.loads mapping.json.dumps = some mapping.json.sortKeys :=
    Json.loads_dumps (Json.readsBack_sortKeys mapping.readsBack)
  unfold ofText
  split
  · next entries read' =>
    have same : mapping.sortKeys.json = .obj entries := by
      rw [json_sortKeys]
      exact Option.some.inj (read.symm.trans read')
    cases same
    exact dif_pos mapping.sortKeys.distinct
  · next value notObj read' =>
    rw [read] at read'
    cases read'
    exact absurd rfl (notObj _)
  · next read' =>
    rw [read] at read'
    cases read'

end JsonMapping

end CovenantRadar
