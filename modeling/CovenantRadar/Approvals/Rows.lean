import CovenantRadar.Approvals.Requests
import CovenantRadar.Misc.KeyedTable

/-!
# The rows of maker-checker requests

Source `services/registry.py` (`SqlAlchemyMakerCheckerRepository`): the database adapter of the
repository port.
-/

namespace CovenantRadar

namespace Approvals

variable {π : Type}

/-- The table `maker_checker_request`. -/
abbrev Rows (π : Type) : Type := KeyedTable (fun request : Request π => request.id)

namespace Rows

/-- Source `create`: the row has the columns of a new request. -/
def create (rows : Rows π) (request : Request π) : Except DomainError (Request π × Rows π) :=
  let row := { request with checkerId := none, decidedAt := none, reason := none }
  if fresh : KeyedTable.find rows row.id = none then .ok (row, rows.insert row fresh)
  else .error ⟨.raised, "IntegrityError".toList, none⟩

/-- Source `_locked_pending`. -/
def lockedPending (rows : Rows π) (id : Uuid) (expectedVersion : Nat) :
    Except DomainError (Request π) :=
  let named (rest : Text) : Text := "Maker-checker request ".toList ++ id.str ++ rest
  match rows.find id with
  | none => .error (.notFound (named " was not found.".toList))
  | some row =>
    if row.state ≠ .pending then
      .error (.conflict (named (" is already ".toList ++ row.state.value ++
        "; it is not pending.".toList)))
    else if row.version ≠ expectedVersion then
      .error (.conflict (named " has a stale version.".toList))
    else .ok row

/-- Source `decide`. -/
def decide (rows : Rows π) (id checkerId : Uuid) (state : RequestState) (decidedAt : UtcInstant)
    (reason : Option Text) (expectedVersion : Nat) : Except DomainError (Request π × Rows π) :=
  (lockedPending rows id expectedVersion).map fun row =>
    let row := row.decided checkerId state decidedAt reason
    (row, rows.put row)

/-- Source `expire`. -/
def expire (rows : Rows π) (id : Uuid) (expiredAt : UtcInstant) (expectedVersion : Nat) :
    Except DomainError (Request π × Rows π) :=
  (lockedPending rows id expectedVersion).map fun row =>
    let row := row.expired expiredAt (some "Approval window elapsed.".toList)
    (row, rows.put row)

/-- The order of the pending rows. -/
def createdKey (request : Request π) : Int ×ₗ Nat :=
  toLex (request.createdAt.ticks, request.id.int)

/-- Source `list_pending`. -/
def listPending (rows : Rows π) : List (Request π) :=
  (rows.rows.filter fun row => row.state == .pending).insertionSort fun a b =>
    createdKey a ≤ createdKey b

theorem lockedPending_eq_ok_iff {rows : Rows π} {id : Uuid} {expectedVersion : Nat}
    {row : Request π} : lockedPending rows id expectedVersion = .ok row ↔
      rows.find id = some row ∧ row.state = .pending ∧ row.version = expectedVersion := by
  unfold lockedPending
  cases rows.find id with
  | none => simp
  | some found =>
    simp only
    by_cases pending : found.state = .pending
    · by_cases version : found.version = expectedVersion
      · simp only [pending, version, ne_eq, not_true_eq_false, if_false, Except.ok.injEq,
          Option.some.injEq]
        constructor
        · rintro rfl
          exact ⟨rfl, pending, version⟩
        · exact fun same => same.1
      · simp only [pending, version, ne_eq, not_true_eq_false, not_false_eq_true, if_false, if_true,
          Option.some.injEq]
        constructor
        · intro failed
          cases failed
        · intro same
          exact absurd (by rw [same.1]; exact same.2.2) version
    · simp only [pending, ne_eq, not_false_eq_true, if_true, Option.some.injEq]
      constructor
      · intro failed
        cases failed
      · intro same
        exact absurd (by rw [same.1]; exact same.2.1) pending

/-- A write replaces the one row it locked. -/
theorem find_put_locked {rows : Rows π} {id : Uuid} {row row' : Request π}
    (found : rows.find id = some row) (same : row'.id = row.id) (other : Uuid) :
    (rows.put row').find other = if other = id then some row' else rows.find other := by
  have identified := (KeyedTable.find_eq_some_iff.mp found).2
  have present : rows.find row'.id = some row := by rw [same, identified, found]
  rw [KeyedTable.find_put present, same, identified]

end Rows

/-- The adapter keeps the contract of the port. -/
def databaseRepository (π : Type) : Repository (Rows π) π where
  getForUpdate := KeyedTable.find
  listPending := Rows.listPending
  create := Rows.create
  decide := Rows.decide
  expire := Rows.expire
  id_eq := fun found => (KeyedTable.find_eq_some_iff.mp found).2
  mem_listPending := by
    intro rows request
    unfold Rows.listPending
    rw [List.mem_insertionSort, List.mem_filter, KeyedTable.find_eq_some_iff]
    simp
  create_spec := by
    intro rows request persisted rows' submitted created
    have same : { request with checkerId := none, decidedAt := none, reason := none } = request := by
      rw [← submitted.unchecked, ← submitted.undecided, ← submitted.unexplained]
    unfold Rows.create at created
    simp only [same] at created
    split_ifs at created with fresh
    cases created
    exact ⟨fresh, rfl, fun id => KeyedTable.find_insert fresh id⟩
  create_returns := by
    intro rows request fresh
    unfold Rows.create
    exact ⟨_, _, dif_pos fresh⟩
  decide_spec := by
    intro rows id checkerId state decidedAt reason expected decided rows' written
    unfold Rows.decide at written
    cases locked : Rows.lockedPending rows id expected with
    | error error =>
      rw [locked] at written
      cases written
    | ok row =>
      rw [locked] at written
      cases written
      obtain ⟨found, pending, version⟩ := Rows.lockedPending_eq_ok_iff.mp locked
      exact ⟨row, found, pending, version, rfl, Rows.find_put_locked found rfl⟩
  decide_returns := by
    intro rows id request checkerId state decidedAt reason found pending
    have locked := Rows.lockedPending_eq_ok_iff.mpr ⟨found, pending, rfl⟩
    unfold Rows.decide
    rw [locked]
    exact ⟨_, _, rfl⟩
  expire_spec := by
    intro rows id expiredAt expected expired rows' written
    unfold Rows.expire at written
    cases locked : Rows.lockedPending rows id expected with
    | error error =>
      rw [locked] at written
      cases written
    | ok row =>
      rw [locked] at written
      cases written
      obtain ⟨found, pending, version⟩ := Rows.lockedPending_eq_ok_iff.mp locked
      exact ⟨row, found, pending, version, ⟨_, rfl⟩, Rows.find_put_locked found rfl⟩
  expire_returns := by
    intro rows id request expiredAt found pending
    have locked := Rows.lockedPending_eq_ok_iff.mpr ⟨found, pending, rfl⟩
    unfold Rows.expire
    rw [locked]
    exact ⟨_, _, rfl⟩

end Approvals

end CovenantRadar
