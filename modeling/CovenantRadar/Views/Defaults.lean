import CovenantRadar.Views.Repository
import CovenantRadar.Views.RoundTrip

/-!
# Default views

Which views are the default of their owner, and what a call does to that. The flag stands in each
document, so a user has one default only as long as every call that sets it clears the others. A
read that hands a default view of a deactivated owner to an administrator does not.
-/

namespace CovenantRadar

namespace Views

open Security (Principal)

/-! ## Defaults -/

/-- Whether the document of a view carries the default flag. -/
def isDefault (row : SavedQueueView) : Bool :=
  match decodeDocument row.filterJson with
  | .ok document => document.isDefault
  | .error _ => false

/-- A view that is the default of a user. -/
def DefaultOf (book : Book) (user id : Uuid) : Prop :=
  ∃ row, book.views.find id = some row ∧ row.ownerId = user ∧ isDefault row = true

theorem defaultOf_iff {book : Book} {user id : Uuid} :
    (book.views.find id).any (fun row => decide (row.ownerId = user) && isDefault row) = true ↔
      DefaultOf book user id := by
  unfold DefaultOf
  simp only [Option.any_eq_true, Bool.and_eq_true, decide_eq_true_eq]

instance {book : Book} {user id : Uuid} : Decidable (DefaultOf book user id) :=
  decidable_of_iff _ defaultOf_iff

/-- No user has two default views. -/
def AtMostOneDefault (book : Book) : Prop :=
  ∀ user a b, DefaultOf book user a → DefaultOf book user b → a = b

/-- Every user has the same default view in both. -/
def SameDefaults (book next : Book) : Prop :=
  ∀ user id, DefaultOf next user id ↔ DefaultOf book user id

theorem SameDefaults.refl (book : Book) : SameDefaults book book := fun _ _ => Iff.rfl

theorem SameDefaults.trans {a b c : Book} (first : SameDefaults a b) (second : SameDefaults b c) :
    SameDefaults a c := fun user id => (second user id).trans (first user id)

theorem AtMostOneDefault.of_same {book next : Book} (one : AtMostOneDefault book)
    (same : SameDefaults book next) : AtMostOneDefault next :=
  fun user a b first second => one user a b ((same user a).mp first) ((same user b).mp second)

/-- Same views, same defaults. -/
theorem SameDefaults.of_find {book next : Book}
    (same : ∀ id, next.views.find id = book.views.find id) : SameDefaults book next := by
  intro user id
  unfold DefaultOf
  rw [same]

/-! ## The flag of a row -/

theorem isDefault_of_decode {row : SavedQueueView} {document : ViewDocument}
    (decoded : decodeDocument row.filterJson = .ok document) :
    isDefault row = document.isDefault := by
  unfold isDefault
  simp only [decoded]

theorem isDefault_of_record {row : SavedQueueView} {view : ViewRecord}
    (read : record row = .ok view) : isDefault row = view.document.isDefault := by
  unfold record at read
  split at read
  · next document decoded =>
    cases read
    have flag : isDefault row = document.isDefault := isDefault_of_decode decoded
    exact flag
  · cases read

theorem isDefault_of_encode {row : SavedQueueView} {document : ViewDocument} {encoded : Text}
    (written : encodeDocument document = .ok encoded) (stored : row.filterJson = encoded) :
    isDefault row = document.isDefault := by
  obtain ⟨read, decoded, same⟩ := decodeDocument_encodeDocument written
  rw [← stored] at decoded
  exact (isDefault_of_decode decoded).trans same.isDefault

theorem find_putView {book : Book} {old row : SavedQueueView}
    (present : book.views.find row.id = some old) (id : Uuid) :
    (book.putView row).views.find id = if id = row.id then some row else book.views.find id :=
  KeyedTable.find_put present id

/-- A view written over one of the same owner and flag changes no default. -/
theorem SameDefaults.putView {book : Book} {old row : SavedQueueView}
    (present : book.views.find row.id = some old)
    (same : row.ownerId = old.ownerId ∧ isDefault row = true ↔
      row.ownerId = old.ownerId ∧ isDefault old = true)
    (owner : isDefault old = true → row.ownerId = old.ownerId)
    (flag : isDefault row = true → row.ownerId = old.ownerId) :
    SameDefaults book (book.putView row) := by
  intro user id
  unfold DefaultOf
  rw [find_putView present]
  split_ifs with here
  · subst here
    constructor
    · rintro ⟨row', heq, rfl, isDefault'⟩
      cases heq
      exact ⟨old, present, (flag isDefault').symm, (same.mp ⟨flag isDefault', isDefault'⟩).2⟩
    · rintro ⟨old', found, rfl, isDefault'⟩
      rw [present] at found
      cases found
      exact ⟨row, rfl, owner isDefault', (same.mpr ⟨owner isDefault', isDefault'⟩).2⟩
  · rfl

/-- A view written over one of the same owner, with the same flag. -/
theorem SameDefaults.rewrite {book : Book} {old row : SavedQueueView}
    (present : book.views.find row.id = some old) (owner : row.ownerId = old.ownerId)
    (flag : isDefault row = isDefault old) : SameDefaults book (book.putView row) :=
  .putView present (by rw [flag]) (fun _ => owner) fun _ => owner

/-- A view that is no default may change its owner. -/
theorem SameDefaults.move {book : Book} {old row : SavedQueueView}
    (present : book.views.find row.id = some old) (flag : isDefault row = isDefault old)
    (notDefault : isDefault old = false) : SameDefaults book (book.putView row) := by
  apply SameDefaults.putView present
  · rw [flag]
  · intro isDefault'
    rw [notDefault] at isDefault'
    cases isDefault'
  · intro isDefault'
    rw [flag, notDefault] at isDefault'
    cases isDefault'

/-! ## Deactivated owners -/

/-- What reading a view leaves: the view and all others, or the view with another owner. -/
theorem transferDeactivatedOwner_ok {book next : Book} {now : UtcInstant}
    {row row' : SavedQueueView}
    (moved : transferDeactivatedOwner book now row = .ok (next, row')) :
    (ownerDeactivated book row = false ∧ next = book ∧ row' = row) ∨
      (ownerDeactivated book row = true ∧ ∃ admin, administrator book = some admin ∧
        row' = { row with ownerId := admin.id, updatedAt := now, version := row.version + 1 } ∧
        next = book.putView row') := by
  unfold transferDeactivatedOwner at moved
  split_ifs at moved with inactive
  · split at moved
    · cases moved
    · next admin found =>
      cases moved
      exact Or.inr ⟨inactive, admin, found, rfl, rfl⟩
  · cases moved
    exact Or.inl ⟨Bool.not_eq_true _ ▸ inactive, rfl, rfl⟩

theorem administrator_active {book : Book} {admin : AppUser}
    (found : administrator book = some admin) :
    admin ∈ book.users.rows ∧ admin.isActive = true := by
  have listed := List.mem_of_mem_head? found
  rw [List.mem_insertionSort, List.mem_filter, Bool.and_eq_true] at listed
  exact ⟨listed.1, listed.2.1⟩

/-- Only a view whose owner is active is returned, as it stands. -/
theorem ownedRow_ok {book next : Book} {now : UtcInstant} {viewId : Uuid} {principal : Principal}
    {row : SavedQueueView} (owned : ownedRow book now viewId principal = .ok (next, row)) :
    next = book ∧ book.views.find viewId = some row ∧ row.ownerId = principal.id := by
  unfold ownedRow at owned
  split at owned
  · cases owned
  next old found =>
  split_ifs at owned with mine
  obtain ⟨⟨moved, row'⟩, transferred, owned⟩ := Except.bind_eq_ok_iff.mp owned
  simp only at owned
  split_ifs at owned with mine'
  cases owned
  push Not at mine mine'
  rcases transferDeactivatedOwner_ok transferred with ⟨_, rfl, rfl⟩ | ⟨inactive, admin, isAdmin, rfl, _⟩
  · exact ⟨rfl, found, mine⟩
  · -- the administrator is active, and so not the owner
    obtain ⟨listed, active⟩ := administrator_active isAdmin
    have owner := KeyedTable.find_of_mem listed
    have same : admin.id = old.ownerId := Eq.trans mine' mine.symm
    unfold ownerDeactivated at inactive
    rw [← same, owner, Option.any_some, active] at inactive
    cases inactive

/-! ## Clearing the other defaults -/

theorem clearDefault_ok {book next : Book} {now : UtcInstant} {request : Text}
    {row : SavedQueueView} (present : book.views.find row.id = some row)
    (cleared : clearDefault now request book row = .ok next) :
    next.users = book.users ∧ (∀ id, id ≠ row.id → next.views.find id = book.views.find id) ∧
      ∃ row', next.views.find row.id = some row' ∧ row'.ownerId = row.ownerId ∧
        isDefault row' = false := by
  unfold clearDefault at cleared
  obtain ⟨current, read, cleared⟩ := Except.bind_eq_ok_iff.mp cleared
  split_ifs at cleared with flagged
  · obtain ⟨encoded, written, cleared⟩ := Except.bind_eq_ok_iff.mp cleared
    obtain ⟨_, _, cleared⟩ := Except.bind_eq_ok_iff.mp cleared
    cases cleared
    let cleared : SavedQueueView := { row with
      filterJson := encoded
      updatedAt := now
      version := row.version + 1 }
    have find := fun id => @find_putView book row cleared present id
    refine ⟨rfl, fun id other => ?_, cleared, ?_, rfl, ?_⟩
    · exact (find id).trans (if_neg other)
    · exact (find row.id).trans (if_pos rfl)
    · exact @isDefault_of_encode cleared { current.document with isDefault := false } _ written rfl
  · cases cleared
    refine ⟨rfl, fun _ _ => rfl, row, present, rfl, ?_⟩
    rw [isDefault_of_record read]
    exact Bool.not_eq_true _ ▸ flagged

/-- Clearing rows leaves the others, and the cleared ones with their owners. -/
theorem foldlM_clearDefault_ok {now : UtcInstant} {request : Text} :
    ∀ {rows : List SavedQueueView} {book next : Book},
      (rows.map SavedQueueView.id).Nodup →
      (∀ row ∈ rows, book.views.find row.id = some row) →
      rows.foldlM (clearDefault now request) book = .ok next →
      next.users = book.users ∧
        (∀ id, id ∉ rows.map SavedQueueView.id → next.views.find id = book.views.find id) ∧
        ∀ row ∈ rows, ∃ row', next.views.find row.id = some row' ∧ row'.ownerId = row.ownerId ∧
          isDefault row' = false := by
  intro rows
  induction rows with
  | nil =>
    intro book next _ _ folded
    cases folded
    exact ⟨rfl, fun _ _ => rfl, fun row listed => absurd listed List.not_mem_nil⟩
  | cons row rows ih =>
    intro book next distinct present folded
    rw [List.foldlM_cons] at folded
    obtain ⟨middle, first, folded⟩ := Except.bind_eq_ok_iff.mp folded
    rw [List.map_cons, List.nodup_cons] at distinct
    obtain ⟨users, others, row', found, owner, cleared⟩ :=
      clearDefault_ok (present row List.mem_cons_self) first
    have apart : ∀ other ∈ rows, other.id ≠ row.id := fun other listed same =>
      distinct.1 (same ▸ List.mem_map_of_mem listed)
    have present' : ∀ other ∈ rows, middle.views.find other.id = some other := by
      intro other listed
      rw [others _ (apart other listed)]
      exact present other (List.mem_cons_of_mem _ listed)
    obtain ⟨users', others', cleared'⟩ := ih distinct.2 present' folded
    refine ⟨users'.trans users, fun id absent => ?_, fun other listed => ?_⟩
    · rw [List.map_cons, List.mem_cons, not_or] at absent
      rw [others' id absent.2, others id absent.1]
    · rcases List.mem_cons.mp listed with rfl | listed
      · exact ⟨row', by rw [others' _ distinct.1, found], owner, cleared⟩
      · exact cleared' other listed

/-- Afterwards the owner has no other default; no other user's default has changed. -/
theorem clearOtherDefaults_ok {book next : Book} {ownerId selectedId : Uuid} {now : UtcInstant}
    {request : Text} (cleared : clearOtherDefaults book ownerId selectedId now request = .ok next) :
    next.users = book.users ∧ next.views.find selectedId = book.views.find selectedId ∧
      ∀ user id, DefaultOf next user id ↔
        DefaultOf book user id ∧ (user = ownerId → id = selectedId) := by
  unfold clearOtherDefaults at cleared
  have listed {row : SavedQueueView} : row ∈ (book.views.rows.filter fun row =>
      decide (row.ownerId = ownerId) && decide (row.id ≠ selectedId)) ↔
      row ∈ book.views.rows ∧ row.ownerId = ownerId ∧ row.id ≠ selectedId := by
    simp [List.mem_filter]
  have distinct : ((book.views.rows.filter fun row =>
      decide (row.ownerId = ownerId) && decide (row.id ≠ selectedId)).map SavedQueueView.id).Nodup :=
    book.views.distinct.sublist (List.filter_sublist.map _)
  obtain ⟨users, others, inside⟩ := foldlM_clearDefault_ok distinct
    (fun row member => KeyedTable.find_of_mem (listed.mp member).1) cleared
  have untouched : ∀ id, (∀ row, book.views.find id = some row → row.ownerId = ownerId →
      id = selectedId) → next.views.find id = book.views.find id := by
    intro id apart
    apply others
    intro member
    obtain ⟨row, inRows, rfl⟩ := List.mem_map.mp member
    obtain ⟨inBook, owner, other⟩ := listed.mp inRows
    exact other (apart row (KeyedTable.find_of_mem inBook) owner)
  refine ⟨users, untouched selectedId fun _ _ _ => rfl, fun user id => ?_⟩
  by_cases hit : ∃ row, book.views.find id = some row ∧ row.ownerId = ownerId ∧ id ≠ selectedId
  · obtain ⟨row, found, owner, other⟩ := hit
    obtain ⟨inBook, rfl⟩ := KeyedTable.find_eq_some_iff.mp found
    obtain ⟨row', found', owner', notDefault⟩ := inside row (listed.mpr ⟨inBook, owner, other⟩)
    constructor
    · rintro ⟨row'', found'', _, isDefault'⟩
      cases found'.symm.trans found''
      rw [notDefault] at isDefault'
      cases isDefault'
    · rintro ⟨⟨row'', found'', same, _⟩, only⟩
      cases found.symm.trans found''
      exact absurd (only (same.symm.trans owner)) other
  · have same := untouched id fun row found owner => by
      by_contra other
      exact hit ⟨row, found, owner, other⟩
    unfold DefaultOf
    rw [same]
    constructor
    · rintro ⟨row, found, rfl, isDefault'⟩
      refine ⟨⟨row, found, rfl, isDefault'⟩, fun owner => ?_⟩
      by_contra other
      exact hit ⟨row, found, owner, other⟩
    · exact And.left

/-! ## What a call does to the defaults -/

/-- The views a read hands over if their owners are deactivated. -/
def loaded (book : Book) : Op → List SavedQueueView
  | .get _ viewId _ => (book.views.find viewId).toList
  | .listForUser _ principal => discoverable book principal
  | _ => []

/-- A read of a default view whose owner has been deactivated. -/
def HandsOverDefault (book : Book) (op : Op) : Prop :=
  ∃ row ∈ loaded book op, ownerDeactivated book row = true ∧ isDefault row = true

/-- The calls that are meant to change a default view. -/
def ChoosesDefault (book : Book) : Op → Prop
  | .setDefault _ _ _ _ _ => True
  | .create view => view.isDefault = true
  | .delete _ viewId _ => ∃ user, DefaultOf book user viewId
  | _ => False

/-- A view that is created is a new row with the flag it was asked for. -/
theorem create_ok {book next : Book} {view : NewView} {created : ViewRecord}
    (returned : create book view = .ok (next, created)) :
    ∃ row inserted, row.id = view.id ∧ row.ownerId = view.ownerId ∧
      isDefault row = view.isDefault ∧ insertView book row = .ok inserted ∧
      create.clearIfDefault inserted view = .ok next := by
  unfold create at returned
  obtain ⟨kind, _, returned⟩ := Except.bind_eq_ok_iff.mp returned
  obtain ⟨filters, _, returned⟩ := Except.bind_eq_ok_iff.mp returned
  obtain ⟨name, _, returned⟩ := Except.bind_eq_ok_iff.mp returned
  obtain ⟨description, _, returned⟩ := Except.bind_eq_ok_iff.mp returned
  obtain ⟨users, _, returned⟩ := Except.bind_eq_ok_iff.mp returned
  obtain ⟨roles, _, returned⟩ := Except.bind_eq_ok_iff.mp returned
  obtain ⟨_, _, returned⟩ := Except.bind_eq_ok_iff.mp returned
  obtain ⟨encoded, written, returned⟩ := Except.bind_eq_ok_iff.mp returned
  obtain ⟨_, _, returned⟩ := Except.bind_eq_ok_iff.mp returned
  obtain ⟨inserted, added, returned⟩ := Except.bind_eq_ok_iff.mp returned
  obtain ⟨cleared, clears, returned⟩ := Except.bind_eq_ok_iff.mp returned
  obtain ⟨_, _, returned⟩ := Except.bind_eq_ok_iff.mp returned
  cases returned
  refine ⟨_, inserted, rfl, rfl, ?_, added, clears⟩
  exact isDefault_of_encode written rfl

theorem insertView_ok {book next : Book} {row : SavedQueueView}
    (inserted : insertView book row = .ok next) (id : Uuid) :
    next.views.find id = if id = row.id then some row else book.views.find id := by
  unfold insertView at inserted
  split_ifs at inserted with taken
  cases inserted
  push Not at taken
  have fresh : book.views.find row.id = none := by
    simpa using taken.2
  rw [KeyedTable.find_insertNew]
  split_ifs with here
  · rw [here, fresh]
    rfl
  · rfl

theorem create_defaults {book next : Book} {view : NewView} {created : ViewRecord}
    (returned : create book view = .ok (next, created)) (user id : Uuid) :
    DefaultOf next user id ↔
      if view.isDefault = true then
        if user = view.ownerId then id = view.id else DefaultOf book user id
      else DefaultOf book user id := by
  obtain ⟨row, inserted, sameId, owner, flag, added, cleared⟩ := create_ok returned
  have find := insertView_ok added
  have fresh : book.views.find row.id = none := by
    unfold insertView at added
    split_ifs at added with taken
    push Not at taken
    simpa using taken.2
  have withNew : DefaultOf inserted user id ↔
      DefaultOf book user id ∨ id = view.id ∧ user = view.ownerId ∧ view.isDefault = true := by
    unfold DefaultOf
    rw [find, sameId]
    split_ifs with here
    · subst here
      rw [← sameId, fresh]
      constructor
      · rintro ⟨row', heq, rfl, flagged⟩
        cases heq
        exact Or.inr ⟨rfl, owner, flag ▸ flagged⟩
      · rintro (⟨_, none, _⟩ | ⟨_, rfl, flagged⟩)
        · cases none
        · exact ⟨row, rfl, owner, flag.trans flagged⟩
    · simp [here]
  unfold create.clearIfDefault at cleared
  split_ifs at cleared with chosen
  · obtain ⟨_, _, others⟩ := clearOtherDefaults_ok cleared
    rw [others, withNew, if_pos chosen]
    split_ifs with mine
    · constructor
      · rintro ⟨_, only⟩
        exact only mine
      · intro same
        exact ⟨Or.inr ⟨same, mine, chosen⟩, fun _ => same⟩
    · simp [mine]
  · cases cleared
    rw [withNew, if_neg chosen]
    simp [chosen]

theorem transfer_defaults {book next : Book} {now : UtcInstant} {row row' : SavedQueueView}
    (present : book.views.find row.id = some row)
    (moved : transferDeactivatedOwner book now row = .ok (next, row'))
    (quiet : ownerDeactivated book row = true → isDefault row = false) :
    SameDefaults book next ∧ next.users = book.users ∧
      ∀ id, id ≠ row.id → next.views.find id = book.views.find id := by
  rcases transferDeactivatedOwner_ok moved with ⟨_, rfl, rfl⟩ | ⟨inactive, admin, _, rfl, rfl⟩
  · exact ⟨.refl _, rfl, fun _ _ => rfl⟩
  · refine ⟨.move present rfl (quiet inactive), rfl, fun id other => ?_⟩
    have find := @find_putView book row { row with
      ownerId := admin.id
      updatedAt := now
      version := row.version + 1 } present id
    exact find.trans (if_neg other)

theorem get_defaults {book next : Book} {clock : UtcInstant} {viewId : Uuid}
    {principal : Principal} {view : Option ViewRecord}
    (returned : get book clock viewId principal = .ok (next, view))
    (quiet : ¬ HandsOverDefault book (.get clock viewId principal)) : SameDefaults book next := by
  unfold get at returned
  obtain ⟨_, _, returned⟩ := Except.bind_eq_ok_iff.mp returned
  split at returned
  · cases returned
    exact .refl _
  · next row found =>
    obtain ⟨⟨moved, row'⟩, transferred, returned⟩ := Except.bind_eq_ok_iff.mp returned
    obtain ⟨_, _, returned⟩ := Except.bind_eq_ok_iff.mp returned
    cases returned
    obtain ⟨inBook, rfl⟩ := KeyedTable.find_eq_some_iff.mp found
    refine (transfer_defaults found transferred fun inactive => ?_).1
    by_contra flagged
    exact quiet ⟨row, by simp [loaded, found], inactive, Bool.not_eq_false _ ▸ flagged⟩

/-- A list hands over one view after the other; none of them is a default. -/
theorem foldlM_listStep_defaults {clock : UtcInstant} {principal : Principal} :
    ∀ {rows : List SavedQueueView} {state next : Book × List ViewRecord},
      (rows.map SavedQueueView.id).Nodup →
      (∀ row ∈ rows, state.1.views.find row.id = some row) →
      (∀ row ∈ rows, ownerDeactivated state.1 row = true → isDefault row = false) →
      rows.foldlM (listStep clock principal) state = .ok next → SameDefaults state.1 next.1 := by
  intro rows
  induction rows with
  | nil =>
    intro state next _ _ _ folded
    cases folded
    exact .refl _
  | cons row rows ih =>
    intro state next distinct present quiet folded
    rw [List.foldlM_cons] at folded
    obtain ⟨middle, first, folded⟩ := Except.bind_eq_ok_iff.mp folded
    unfold listStep at first
    obtain ⟨⟨moved, row'⟩, transferred, first⟩ := Except.bind_eq_ok_iff.mp first
    obtain ⟨_, _, first⟩ := Except.bind_eq_ok_iff.mp first
    cases first
    rw [List.map_cons, List.nodup_cons] at distinct
    obtain ⟨same, users, others⟩ := transfer_defaults (present row List.mem_cons_self) transferred
      (quiet row List.mem_cons_self)
    refine same.trans (ih distinct.2 ?_ ?_ folded)
    · intro other listed
      have apart : other.id ≠ row.id := fun same => distinct.1 (same ▸ List.mem_map_of_mem listed)
      exact (others _ apart).trans (present other (List.mem_cons_of_mem _ listed))
    · intro other listed inactive
      apply quiet other (List.mem_cons_of_mem _ listed)
      unfold ownerDeactivated at inactive ⊢
      rw [← users]
      exact inactive

theorem listForUser_defaults {book next : Book} {clock : UtcInstant} {principal : Principal}
    {views : List ViewRecord} (returned : listForUser book clock principal = .ok (next, views))
    (quiet : ¬ HandsOverDefault book (.listForUser clock principal)) : SameDefaults book next := by
  unfold listForUser at returned
  obtain ⟨_, _, returned⟩ := Except.bind_eq_ok_iff.mp returned
  have inBook : ∀ row ∈ discoverable book principal, row ∈ book.views.rows := by
    intro row listed
    rw [discoverable, List.mem_insertionSort, List.mem_filter] at listed
    exact listed.1
  have distinct : ((discoverable book principal).map SavedQueueView.id).Nodup := by
    have perm := List.perm_insertionSort (fun a b : SavedQueueView => a.place ≤ b.place)
      (book.views.rows.filter fun row => decide (row.ownerId = principal.id) || row.isShared)
    exact ((perm.map _).nodup_iff).mpr (book.views.distinct.sublist (List.filter_sublist.map _))
  refine @foldlM_listStep_defaults clock principal _ (book, []) _ distinct
    (fun row listed => KeyedTable.find_of_mem (inBook row listed)) (fun row listed inactive => ?_)
    returned
  by_contra flagged
  exact quiet ⟨row, listed, inactive, Bool.not_eq_false _ ▸ flagged⟩

theorem update_defaults {book next : Book} {clock : UtcInstant} {viewId : Uuid}
    {principal : Principal} {change : ViewUpdate} {view : ViewRecord}
    (returned : update book clock viewId principal change = .ok (next, view)) :
    SameDefaults book next := by
  unfold update at returned
  obtain ⟨_, _, returned⟩ := Except.bind_eq_ok_iff.mp returned
  obtain ⟨⟨same, row⟩, owned, returned⟩ := Except.bind_eq_ok_iff.mp returned
  obtain ⟨_, _, returned⟩ := Except.bind_eq_ok_iff.mp returned
  obtain ⟨current, read, returned⟩ := Except.bind_eq_ok_iff.mp returned
  obtain ⟨kind, _, returned⟩ := Except.bind_eq_ok_iff.mp returned
  obtain ⟨name, _, returned⟩ := Except.bind_eq_ok_iff.mp returned
  obtain ⟨filters, _, returned⟩ := Except.bind_eq_ok_iff.mp returned
  obtain ⟨description, _, returned⟩ := Except.bind_eq_ok_iff.mp returned
  obtain ⟨encoded, written, returned⟩ := Except.bind_eq_ok_iff.mp returned
  obtain ⟨_, _, returned⟩ := Except.bind_eq_ok_iff.mp returned
  obtain ⟨_, _, returned⟩ := Except.bind_eq_ok_iff.mp returned
  cases returned
  obtain ⟨rfl, found, _⟩ := ownedRow_ok owned
  obtain ⟨_, rfl⟩ := KeyedTable.find_eq_some_iff.mp found
  have flag := isDefault_of_record read
  exact .rewrite found rfl ((isDefault_of_encode written rfl).trans flag.symm)

theorem share_defaults {book next : Book} {clock : UtcInstant} {viewId : Uuid}
    {principal : Principal} {change : ViewShare} {view : ViewRecord}
    (returned : share book clock viewId principal change = .ok (next, view)) :
    SameDefaults book next := by
  unfold share at returned
  obtain ⟨_, _, returned⟩ := Except.bind_eq_ok_iff.mp returned
  obtain ⟨⟨same, row⟩, owned, returned⟩ := Except.bind_eq_ok_iff.mp returned
  obtain ⟨current, read, returned⟩ := Except.bind_eq_ok_iff.mp returned
  obtain ⟨users, _, returned⟩ := Except.bind_eq_ok_iff.mp returned
  obtain ⟨roles, _, returned⟩ := Except.bind_eq_ok_iff.mp returned
  obtain ⟨_, _, returned⟩ := Except.bind_eq_ok_iff.mp returned
  obtain ⟨encoded, written, returned⟩ := Except.bind_eq_ok_iff.mp returned
  obtain ⟨_, _, returned⟩ := Except.bind_eq_ok_iff.mp returned
  obtain ⟨_, _, returned⟩ := Except.bind_eq_ok_iff.mp returned
  cases returned
  obtain ⟨rfl, found, _⟩ := ownedRow_ok owned
  obtain ⟨_, rfl⟩ := KeyedTable.find_eq_some_iff.mp found
  have flag := isDefault_of_record read
  exact .rewrite found rfl ((isDefault_of_encode written rfl).trans flag.symm)

/-- The view that is chosen is its owner's only default; other users keep theirs. -/
theorem setDefault_defaults {book next : Book} {clock : UtcInstant} {viewId : Uuid}
    {principal : Principal} {now : UtcInstant} {request : Text} {view : ViewRecord}
    (returned : setDefault book clock viewId principal now request = .ok (next, view))
    (user id : Uuid) :
    DefaultOf next user id ↔ if user = principal.id then id = viewId else DefaultOf book user id := by
  unfold setDefault at returned
  obtain ⟨_, _, returned⟩ := Except.bind_eq_ok_iff.mp returned
  obtain ⟨⟨same, row⟩, owned, returned⟩ := Except.bind_eq_ok_iff.mp returned
  obtain ⟨middle, cleared, returned⟩ := Except.bind_eq_ok_iff.mp returned
  obtain ⟨current, read, returned⟩ := Except.bind_eq_ok_iff.mp returned
  obtain ⟨encoded, written, returned⟩ := Except.bind_eq_ok_iff.mp returned
  obtain ⟨_, _, returned⟩ := Except.bind_eq_ok_iff.mp returned
  obtain ⟨_, _, returned⟩ := Except.bind_eq_ok_iff.mp returned
  cases returned
  obtain ⟨rfl, found, mine⟩ := ownedRow_ok owned
  obtain ⟨_, rfl⟩ := KeyedTable.find_eq_some_iff.mp found
  obtain ⟨_, selected, others⟩ := clearOtherDefaults_ok cleared
  have chosen : isDefault ({ row with
      filterJson := encoded
      updatedAt := now
      version := row.version + 1 } : SavedQueueView) = true :=
    @isDefault_of_encode _ { current.document with isDefault := true } _ written rfl
  have find := @find_putView middle row { row with
    filterJson := encoded
    updatedAt := now
    version := row.version + 1 } (selected.trans found) id
  dsimp only at find
  unfold DefaultOf
  rw [find]
  have others := others user id
  unfold DefaultOf at others
  by_cases here : id = row.id
  · rw [if_pos here]
    by_cases owner : user = principal.id
    · rw [if_pos owner]
      refine ⟨fun _ => here, fun _ => ⟨_, rfl, mine.trans owner.symm, chosen⟩⟩
    · rw [if_neg owner]
      subst here
      constructor
      · rintro ⟨row', heq, rfl, _⟩
        cases heq
        exact absurd mine owner
      · rintro ⟨row', heq, rfl, _⟩
        cases found.symm.trans heq
        exact absurd mine owner
  · rw [if_neg here, others]
    by_cases owner : user = principal.id
    · rw [if_pos owner]
      exact ⟨fun both => both.2 owner, fun same => absurd same here⟩
    · rw [if_neg owner]
      exact ⟨And.left, fun both => ⟨both, fun same => absurd same owner⟩⟩

theorem delete_defaults {book next : Book} {clock : UtcInstant} {viewId : Uuid}
    {principal : Principal} (returned : delete book clock viewId principal = .ok next)
    (user id : Uuid) : DefaultOf next user id ↔ DefaultOf book user id ∧ id ≠ viewId := by
  unfold delete at returned
  obtain ⟨_, _, returned⟩ := Except.bind_eq_ok_iff.mp returned
  obtain ⟨⟨same, row⟩, owned, returned⟩ := Except.bind_eq_ok_iff.mp returned
  cases returned
  obtain ⟨rfl, found, _⟩ := ownedRow_ok owned
  obtain ⟨_, rfl⟩ := KeyedTable.find_eq_some_iff.mp found
  have find : ∀ other, (same.removeView row.id).views.find id = some other ↔
      same.views.find id = some other ∧ id ≠ row.id := by
    intro other
    rw [KeyedTable.find_eq_some_iff, KeyedTable.find_eq_some_iff]
    unfold Book.removeView
    simp only [List.mem_filter, decide_eq_true_eq]
    constructor
    · rintro ⟨⟨listed, apart⟩, rfl⟩
      exact ⟨⟨listed, rfl⟩, apart⟩
    · rintro ⟨⟨listed, rfl⟩, apart⟩
      exact ⟨⟨listed, apart⟩, rfl⟩
  unfold DefaultOf
  simp only [find]
  constructor
  · rintro ⟨other, ⟨found', apart⟩, owner, flagged⟩
    exact ⟨⟨other, found', owner, flagged⟩, apart⟩
  · rintro ⟨⟨other, found', owner, flagged⟩, apart⟩
    exact ⟨other, ⟨found', apart⟩, owner, flagged⟩

/-! ## Runs -/

/-- What one call does: a default is only changed by a call that is meant to. -/
theorem step_defaults {book : Book} {op : Op} (one : AtMostOneDefault book)
    (quiet : ¬ HandsOverDefault book op) :
    AtMostOneDefault (step book op) ∧
      (¬ ChoosesDefault book op → SameDefaults book (step book op)) := by
  have unchanged (same : SameDefaults book (step book op)) :
      AtMostOneDefault (step book op) ∧
        (¬ ChoosesDefault book op → SameDefaults book (step book op)) :=
    ⟨one.of_same same, fun _ => same⟩
  cases performed : perform book op with
  | error error =>
    apply unchanged
    unfold step
    rw [performed]
    exact .refl _
  | ok next =>
    have stepped : step book op = next := by
      unfold step
      rw [performed]
    rw [stepped] at unchanged ⊢
    cases op with
    | create view =>
      obtain ⟨⟨_, created⟩, returned, rfl⟩ := Except.map_eq_ok_iff.mp performed
      have defaults := create_defaults returned
      by_cases chosen : view.isDefault = true
      · simp only [if_pos chosen] at defaults
        refine ⟨fun user a b first second => ?_, fun kept => absurd chosen kept⟩
        rw [defaults] at first second
        split_ifs at first second
        · exact first.trans second.symm
        · exact one user a b first second
      · simp only [if_neg chosen] at defaults
        exact unchanged defaults
    | get clock viewId principal =>
      obtain ⟨⟨_, view⟩, returned, rfl⟩ := Except.map_eq_ok_iff.mp performed
      exact unchanged (get_defaults returned quiet)
    | listForUser clock principal =>
      obtain ⟨⟨_, views⟩, returned, rfl⟩ := Except.map_eq_ok_iff.mp performed
      exact unchanged (listForUser_defaults returned quiet)
    | update clock viewId principal change =>
      obtain ⟨⟨_, view⟩, returned, rfl⟩ := Except.map_eq_ok_iff.mp performed
      exact unchanged (update_defaults returned)
    | share clock viewId principal change =>
      obtain ⟨⟨_, view⟩, returned, rfl⟩ := Except.map_eq_ok_iff.mp performed
      exact unchanged (share_defaults returned)
    | setDefault clock viewId principal now request =>
      obtain ⟨⟨_, view⟩, returned, rfl⟩ := Except.map_eq_ok_iff.mp performed
      refine ⟨fun user a b first second => ?_, fun kept => absurd trivial kept⟩
      rw [setDefault_defaults returned] at first second
      split_ifs at first second
      · exact first.trans second.symm
      · exact one user a b first second
    | delete clock viewId principal =>
      have defaults := delete_defaults performed
      refine ⟨fun user a b first second => ?_, fun kept user id => ?_⟩
      · exact one user a b ((defaults user a).mp first).1 ((defaults user b).mp second).1
      · rw [defaults]
        refine ⟨And.left, fun held => ⟨held, ?_⟩⟩
        rintro rfl
        exact kept ⟨user, held⟩
    | deactivate userId =>
      cases performed
      exact unchanged (.of_find fun _ => rfl)

theorem run_append (book : Book) (before after : List Op) :
    run book (before ++ after) = run (run book before) after := List.foldl_append

/-- As long as no read hands a default view over, every user owns at most one default view, and
    only the calls that are meant to change a default do. -/
theorem defaults_along_run {book : Book} (one : AtMostOneDefault book) {ops : List Op}
    (quiet : ∀ before op after, ops = before ++ op :: after →
      ¬ HandsOverDefault (run book before) op) :
    (∀ before after, ops = before ++ after → AtMostOneDefault (run book before)) ∧
      ∀ before op after, ops = before ++ op :: after → ¬ ChoosesDefault (run book before) op →
        SameDefaults (run book before) (step (run book before) op) := by
  have everywhere : ∀ before after, ops = before ++ after → AtMostOneDefault (run book before) := by
    intro before
    induction before using List.reverseRecOn with
    | nil => exact fun _ _ => one
    | append_singleton before op ih =>
      intro after split
      have split' : ops = before ++ op :: after := by
        rw [split, List.append_assoc]
        rfl
      rw [run_append]
      exact (step_defaults (ih _ split') (quiet before op after split')).1
  refine ⟨everywhere, fun before op after split kept => ?_⟩
  exact (step_defaults (everywhere before _ split) (quiet before op after split)).2 kept

/-! ## A default that is handed over -/

theorem firstOfJune_valid :
    1 ≤ 2026 ∧ 2026 ≤ 9999 ∧ 1 ≤ 6 ∧ 6 ≤ 12 ∧ 1 ≤ 1 ∧ 1 ≤ daysInMonth 2026 6 := by decide

theorem firstOfJune_inDay : 0 < dayMicroseconds := by decide

/-- The clock of the calls below. -/
def firstOfJune : UtcInstant := ⟨⟨2026, 6, 1, firstOfJune_valid⟩, 0, firstOfJune_inDay⟩

/-- A user whose view is handed over, and an administrator who receives it. -/
def twoUsers : Book where
  users := (KeyedTable.empty.insertNew ⟨Uuid.ofInt 1, true, []⟩).insertNew
    ⟨Uuid.ofInt 2, true, ["admin".toList]⟩
  roleCodes := ["admin".toList]
  views := KeyedTable.empty

/-- A default view without filters. -/
def plainDefault (id owner : Nat) : NewView where
  id := Uuid.ofInt id
  ownerId := Uuid.ofInt owner
  name := "Mine".toList
  filters := .filters .none
  kind := "queue".toList
  isShared := false
  shareAll := false
  sharedUserIds := []
  sharedRoleCodes := []
  isDefault := true
  description := none
  now := firstOfJune
  request := "req-1".toList

/-- The administrator, calling. -/
def administratorPrincipal : Principal := ⟨Uuid.ofInt 2, [], .user⟩

/-- Each creates a default view, and the user is deactivated. -/
def beforeHandover : List Op :=
  [.create (plainDefault 11 1), .create (plainDefault 12 2), .deactivate (Uuid.ofInt 1)]

/-- The administrator reads the view of the user. -/
def handover : Op := .get firstOfJune (Uuid.ofInt 11) administratorPrincipal

theorem handover_defaults :
    DefaultOf (run twoUsers (beforeHandover ++ [handover])) (Uuid.ofInt 2) (Uuid.ofInt 11) ∧
      DefaultOf (run twoUsers (beforeHandover ++ [handover])) (Uuid.ofInt 2) (Uuid.ofInt 12) := by
  decide +kernel

theorem atMostOneDefault_twoUsers : AtMostOneDefault twoUsers := by
  rintro user a b ⟨row, found, _⟩
  cases found

/-- The read leaves the administrator with two default views. -/
theorem defaults_handed_over :
    ¬ ∀ (book : Book) (ops : List Op), AtMostOneDefault book →
      (∀ before after, ops = before ++ after → AtMostOneDefault (run book before)) ∧
        ∀ before op after, ops = before ++ op :: after → ¬ ChoosesDefault (run book before) op →
          SameDefaults (run book before) (step (run book before) op) := by
  intro claimed
  obtain ⟨first, second⟩ := handover_defaults
  have one := (claimed twoUsers (beforeHandover ++ [handover]) atMostOneDefault_twoUsers).1
    (beforeHandover ++ [handover]) [] (by simp)
  exact absurd (one _ _ _ first second) (by decide)

/-- Two users who create a default view each. -/
def twoDefaults : List Op := [.create (plainDefault 11 1), .create (plainDefault 12 2)]

/-- Where no view is handed over, each user owns one default view. -/
theorem defaults_along_twoDefaults : AtMostOneDefault (run twoUsers twoDefaults) := by
  have quiet : ∀ before op after, twoDefaults = before ++ op :: after →
      ¬ HandsOverDefault (run twoUsers before) op := by
    intro before op after split
    have listed : op ∈ twoDefaults := by
      rw [split]
      exact List.mem_append_right _ List.mem_cons_self
    simp only [twoDefaults, List.mem_cons, List.not_mem_nil, or_false] at listed
    rintro ⟨row, member, _⟩
    rcases listed with rfl | rfl
    · exact List.not_mem_nil member
    · exact List.not_mem_nil member
  exact (defaults_along_run atMostOneDefault_twoUsers quiet).1 twoDefaults [] (List.append_nil _).symm

end Views

end CovenantRadar
