import CovenantRadar.Approvals.Requests
import CovenantRadar.Covenants.Cure
import CovenantRadar.Misc.KeyedTable
import CovenantRadar.Misc.Tiling

/-!
# Covenants and their versions

Source `db/models/covenant.py`, `db/repositories/covenant.py` and the terms of
`domain/covenants/model.py`: the rows of the registry and what is read from them and written to
them.
-/

namespace CovenantRadar

namespace Registry

/-- Source `covenant_version.status`. -/
inductive VersionStatus where
  | draft
  | pendingApproval
  | live
  | superseded
  | retired
  deriving DecidableEq, Repr

/-- The stored text of a status. -/
def VersionStatus.value : VersionStatus → Text
  | draft => "draft".toList
  | pendingApproval => "pending_approval".toList
  | live => "live".toList
  | superseded => "superseded".toList
  | retired => "retired".toList

/-- The version waits for an approval. -/
def VersionStatus.isAwaiting : VersionStatus → Bool
  | draft => true
  | pendingApproval => true
  | live => false
  | superseded => false
  | retired => false

/-- Source `CovenantVersionTerms`: its range is not empty. -/
structure CovenantVersionTerms where
  frequency : Text
  cureDays : Option Int
  effectiveFrom : Date
  effectiveTo : Option Date
  ordered : ∀ last ∈ effectiveTo, effectiveFrom < last

/-- Source `Covenant`. -/
structure Covenant where
  id : Uuid
  reference : Text
  facilityId : Uuid
  name : Text
  covenantClass : Text
  isActive : Bool

/-- Source `CovenantVersion`. -/
structure CovenantVersion where
  id : Uuid
  covenantId : Uuid
  versionNo : Nat
  frequency : Text
  cureDays : Option Int
  effectiveFrom : Date
  effectiveTo : Option Date
  status : VersionStatus

/-- The version's effective range contains the date. -/
def CovenantVersion.InForce (version : CovenantVersion) (date : Date) : Prop :=
  Covers version.effectiveFrom version.effectiveTo date

instance (version : CovenantVersion) (date : Date) : Decidable (version.InForce date) := by
  unfold CovenantVersion.InForce
  infer_instance

/-- Source `CovenantTest`, the columns a retirement looks at. -/
structure CovenantTest where
  covenantVersionId : Uuid
  verdict : Text
  cureEndsOn : Option Date

/-- The tables `covenant` and `covenant_version`. -/
structure Tables where
  covenants : KeyedTable (fun covenant : Covenant => covenant.id)
  versions : KeyedTable (fun version : CovenantVersion => version.id)

/-- The facilities a principal sees. -/
abbrev Scope : Type := Uuid → Bool

namespace Tables

/-- `self.covenants.get(id, scope=scope)`. -/
def covenant (tables : Tables) (scope : Scope) (id : Uuid) : Option Covenant :=
  (tables.covenants.find id).filter fun covenant => scope covenant.facilityId

/-- Source `by_reference`. -/
def byReference (tables : Tables) (scope : Scope) (reference : Text) : Option Covenant :=
  tables.covenants.rows.find? fun covenant =>
    decide (covenant.reference = reference) && scope covenant.facilityId

/-- `self.versions.get(id, scope=scope)`: a version is seen through its covenant. -/
def version (tables : Tables) (scope : Scope) (id : Uuid) : Option CovenantVersion :=
  (tables.versions.find id).filter fun version => (tables.covenant scope version.covenantId).isSome

/-- The versions of a covenant, as they were added. -/
def versionsOf (tables : Tables) (covenantId : Uuid) : List CovenantVersion :=
  tables.versions.rows.filter fun version => version.covenantId = covenantId

/-- Source `for_covenant`. -/
def forCovenant (tables : Tables) (scope : Scope) (covenantId : Uuid) : List CovenantVersion :=
  if (tables.covenant scope covenantId).isSome then
    (tables.versionsOf covenantId).insertionSort fun a b => a.versionNo ≤ b.versionNo
  else []

/-- Source `live_at` of the repository. -/
def effectiveAt (tables : Tables) (scope : Scope) (facilityId : Uuid) (asOf : Date) :
    List CovenantVersion :=
  (tables.versions.rows.filter fun version =>
    decide (version.InForce asOf) && (tables.covenant scope version.covenantId).any fun covenant =>
      covenant.facilityId = facilityId).insertionSort fun a b =>
        toLex (a.covenantId.int, a.versionNo) ≤ toLex (b.covenantId.int, b.versionNo)

/-- `self.covenants.add(covenant)` and the flush: the identifier and the reference are unique. -/
def addCovenant (tables : Tables) (covenant : Covenant) : Except DomainError Tables :=
  let conflict : DomainError := .conflict
    ("Covenant reference ".toList ++ Text.repr covenant.reference ++ " already exists.".toList)
  if fresh : KeyedTable.find tables.covenants covenant.id = none then
    if tables.covenants.rows.any fun other => other.reference = covenant.reference then
      .error conflict
    else .ok { tables with covenants := tables.covenants.insert covenant fresh }
  else .error conflict

/-- `self.versions.add(version)` and the flush: the identifier is unique, and so is the number
    within the covenant. -/
def addVersion (tables : Tables) (version : CovenantVersion) (conflict : Text) :
    Except DomainError Tables :=
  if fresh : KeyedTable.find tables.versions version.id = none then
    if (tables.versionsOf version.covenantId).any fun other =>
        other.versionNo = version.versionNo then
      .error (.conflict conflict)
    else .ok { tables with versions := tables.versions.insert version fresh }
  else .error (.conflict conflict)

/-- An update of a version's row. -/
def putVersion (tables : Tables) (version : CovenantVersion) : Tables :=
  { tables with versions := tables.versions.put version }

/-- Source `close_and_supersede`. -/
def closeAndSupersede (tables : Tables) (version : CovenantVersion) (effectiveTo : Date) : Tables :=
  tables.putVersion { version with effectiveTo := some effectiveTo, status := .superseded }

/-- `version.status = _LIVE_STATUS`. -/
def activate (tables : Tables) (version : CovenantVersion) : Tables :=
  tables.putVersion { version with status := .live }

/-- `covenant.is_active = False` and `version.status = "retired"`. -/
def retire (tables : Tables) (covenant : Covenant) (version : CovenantVersion) : Tables :=
  { covenants := tables.covenants.put { covenant with isActive := false }
    versions := tables.versions.put { version with status := .retired } }

end Tables

/-! ## Updates, as the versions of a covenant see them -/

namespace Tables

variable {tables tables' : Tables}

theorem covenant_eq_some_iff {scope : Scope} {id : Uuid} {covenant : Covenant} :
    tables.covenant scope id = some covenant ↔
      tables.covenants.find id = some covenant ∧ scope covenant.facilityId = true := by
  unfold Tables.covenant
  rw [Option.filter_eq_some_iff]

theorem version_eq_some {scope : Scope} {id : Uuid} {version : CovenantVersion}
    (found : tables.version scope id = some version) :
    tables.versions.find id = some version ∧
      ∃ covenant, tables.covenant scope version.covenantId = some covenant := by
  unfold Tables.version at found
  rw [Option.filter_eq_some_iff, Option.isSome_iff_exists] at found
  exact found

theorem mem_versionsOf_iff {covenantId : Uuid} {version : CovenantVersion} :
    version ∈ tables.versionsOf covenantId ↔
      tables.versions.find version.id = some version ∧ version.covenantId = covenantId := by
  unfold versionsOf
  rw [List.mem_filter, KeyedTable.find_eq_some_iff, decide_eq_true_eq, and_assoc]
  simp

theorem addCovenant_eq_ok {covenant : Covenant} (added : tables.addCovenant covenant = .ok tables') :
    tables.covenants.find covenant.id = none ∧ tables'.versions = tables.versions ∧
      (∀ id, tables'.covenants.find id =
        if id = covenant.id then some covenant else tables.covenants.find id) ∧
      (∀ other ∈ tables.covenants.rows, other.reference ≠ covenant.reference) ∧
      tables'.covenants.rows = tables.covenants.rows ++ [covenant] := by
  unfold addCovenant at added
  simp only at added
  split_ifs at added with fresh taken
  cases added
  refine ⟨fresh, rfl, KeyedTable.find_insert fresh, ?_, rfl⟩
  intro other listed same
  exact taken (List.any_eq_true.mpr ⟨other, listed, by simpa using same⟩)

theorem addVersion_eq_ok {version : CovenantVersion} {conflict : Text}
    (added : tables.addVersion version conflict = .ok tables') :
    tables.versions.find version.id = none ∧ tables'.covenants = tables.covenants ∧
      (∀ id, tables'.versions.find id =
        if id = version.id then some version else tables.versions.find id) ∧
      ∀ covenantId, tables'.versionsOf covenantId = tables.versionsOf covenantId ++
        if version.covenantId = covenantId then [version] else [] := by
  unfold addVersion at added
  split_ifs at added with fresh taken
  cases added
  refine ⟨fresh, rfl, KeyedTable.find_insert fresh, fun covenantId => ?_⟩
  unfold versionsOf
  rw [KeyedTable.rows_insert, List.filter_append, List.filter_singleton]
  by_cases same : version.covenantId = covenantId <;> simp [same]

/-- An update in place, of a row of a covenant. -/
theorem versionsOf_putVersion {version : CovenantVersion} (covenantId : Uuid)
    (kept : ∀ old, tables.versions.find version.id = some old →
      old.covenantId = version.covenantId) :
    (tables.putVersion version).versionsOf covenantId = (tables.versionsOf covenantId).map fun old =>
      if old.id = version.id then version else old := by
  unfold versionsOf putVersion
  rw [KeyedTable.rows_put, List.filter_map]
  congr 1
  apply List.filter_congr
  intro old listed
  by_cases same : old.id = version.id
  · have equal := kept old (KeyedTable.find_eq_some_iff.mpr ⟨listed, same⟩)
    simp [same, equal]
  · simp [same]

/-- The updated row, where the list of a covenant's versions has it once. -/
theorem map_replace_append {before after : List CovenantVersion} {old version : CovenantVersion}
    (same : old.id = version.id)
    (once : ((before ++ old :: after).map (·.id)).Nodup) :
    ((before ++ old :: after).map fun row => if row.id = version.id then version else row) =
      before ++ version :: after := by
  rw [List.map_append, List.map_cons, List.nodup_append, List.nodup_cons] at once
  obtain ⟨_, ⟨unlisted, _⟩, apart⟩ := once
  have untouched : ∀ rows : List CovenantVersion, (∀ row ∈ rows, row.id ≠ version.id) →
      (rows.map fun row => if row.id = version.id then version else row) = rows := by
    intro rows others
    exact (List.map_congr_left fun row listed => if_neg (others row listed)).trans (List.map_id rows)
  rw [List.map_append, List.map_cons, if_pos same, untouched before, untouched after]
  · intro row listed equal
    apply unlisted
    rw [same, ← equal]
    exact List.mem_map_of_mem listed
  · intro row listed equal
    exact apart row.id (List.mem_map_of_mem listed) old.id List.mem_cons_self (equal.trans same.symm)

theorem nodup_versionsOf (tables : Tables) (covenantId : Uuid) :
    ((tables.versionsOf covenantId).map (·.id)).Nodup :=
  (List.filter_sublist.map _).nodup tables.versions.distinct

end Tables

end Registry

end CovenantRadar
