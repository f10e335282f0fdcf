import CovenantRadar.Misc.KeyedTable
import CovenantRadar.Python.Datetime
import CovenantRadar.Security.Principal
import CovenantRadar.Views.Documents

/-!
# The view repository

Source `db/repositories/view.py`: saved views in a table of their own, created, read, updated,
shared, made the default and deleted by their owners, and handed to an administrator when a view of
a deactivated owner is read. A call that raises leaves the tables as they were.
-/

namespace CovenantRadar

namespace Views

open Security (Principal PrincipalKind)

/-! ## Tables -/

/-- Source `AppUser`, with the codes of the roles a user has. -/
structure AppUser where
  id : Uuid
  isActive : Bool
  roles : List Text
  deriving DecidableEq

/-- Source `SavedQueueView`. -/
structure SavedQueueView where
  id : Uuid
  ownerId : Uuid
  name : Text
  filterJson : Text
  isShared : Bool
  description : Option Text
  createdAt : UtcInstant
  updatedAt : UtcInstant
  version : Nat
  deriving DecidableEq

/-- The tables the repository works on. -/
structure Book where
  users : KeyedTable AppUser.id
  roleCodes : List Text
  views : KeyedTable SavedQueueView.id

/-- Writes a view over the one it replaces. -/
def Book.putView (book : Book) (row : SavedQueueView) : Book :=
  { book with views := book.views.put row }

/-! ## Records -/

/-- Source `ViewRecord`; the document's `share_all` counts only for a shared row. -/
structure ViewRecord where
  id : Uuid
  ownerId : Uuid
  document : ViewDocument
  isShared : Bool
  description : Option Text
  version : Nat
  createdAt : UtcInstant
  updatedAt : UtcInstant

/-- `NotFound("Saved view was not found.")`. -/
def notFound : ViewError := .domain (.notFound "Saved view was not found.".toList)

/-- `ExternalServiceError(message)`. -/
def unavailable (message : String) : ViewError :=
  .domain ⟨.externalServiceError, message.toList, none⟩

/-- Source `_record`. -/
def record (row : SavedQueueView) : Except ViewError ViewRecord :=
  match decodeDocument row.filterJson with
  | .ok document => .ok ⟨row.id, row.ownerId,
      { document with shareAll := document.shareAll && row.isShared }, row.isShared,
      row.description, row.version, row.createdAt, row.updatedAt⟩
  | .error _ => .error (unavailable "The saved view contains an invalid filter document.")

/-- Source `_require_principal`. -/
def requirePrincipal (principal : Principal) : Except ViewError Unit :=
  if principal.kind = .user then .ok ()
  else .error (invalid "Saved views belong to users, not API keys." "principal".toList)

/-- Source `_request_id`. -/
def requestId (value : Text) : Except ViewError (CleanText 40) := cleanText "request_id" 40 value

/-- Source `_optional_text`. -/
def optionalText (field : String) (maximum : Nat) :
    Option Text → Except ViewError (Option (CleanText maximum))
  | none => .ok none
  | some value => some <$> cleanText field maximum value

/-- Source `ViewRepository._accessible`. -/
def accessible (book : Book) (view : ViewRecord) (principal : Principal) : Bool :=
  if view.ownerId = principal.id then true
  else if !view.isShared then false
  else if view.document.shareAll then true
  else if view.document.sharedUserIds.ids.contains principal.id then true
  else if principal.kind ≠ .user ∨ view.document.sharedRoleCodes.codes = [] then false
  else (book.users.find principal.id).any fun user =>
    user.isActive && user.roles.any view.document.sharedRoleCodes.codes.contains

/-- Source `ViewRepository._validate_share_targets`. -/
def validateShareTargets (book : Book) (ownerId : Uuid) (users : UserIds) (roles : RoleCodes) :
    Except ViewError Unit := do
  if !users.ids.all (fun id => (book.users.find id).any AppUser.isActive) then
    .error (invalid "Every shared user must be an active user." "user_ids".toList)
  if users.ids.contains ownerId then
    .error (invalid "A view owner does not need to be a share recipient." "user_ids".toList)
  if !roles.codes.all book.roleCodes.contains then
    .error (invalid "Every shared role must exist." "role_codes".toList)

/-! ## Deactivated owners -/

/-- Source `_SHARE_ROLES`. -/
def shareRoles : List Text := ["administrator", "admin"].map String.toList

/-- The active administrator with the least identifier. -/
def administrator (book : Book) : Option AppUser :=
  ((book.users.rows.filter fun user => user.isActive && user.roles.any shareRoles.contains)
    |>.insertionSort fun a b => a.id.int ≤ b.id.int).head?

/-- Whether the owner of a view is a user who has been deactivated. -/
def ownerDeactivated (book : Book) (row : SavedQueueView) : Bool :=
  (book.users.find row.ownerId).any fun owner => !owner.isActive

/-- Source `ViewRepository._transfer_deactivated_owner`. -/
def transferDeactivatedOwner (book : Book) (now : UtcInstant) (row : SavedQueueView) :
    Except ViewError (Book × SavedQueueView) :=
  if ownerDeactivated book row then
    match administrator book with
    | none => .error (unavailable ("The saved view owner is inactive and no active administrator " ++
        "is available to receive ownership."))
    | some admin =>
        let moved := { row with
          ownerId := admin.id
          updatedAt := now
          version := row.version + 1 }
        .ok (book.putView moved, moved)
  else .ok (book, row)

/-- Source `ViewRepository._owned_row`. -/
def ownedRow (book : Book) (now : UtcInstant) (viewId : Uuid) (principal : Principal) :
    Except ViewError (Book × SavedQueueView) :=
  match book.views.find viewId with
  | none => .error notFound
  | some row =>
      if row.ownerId ≠ principal.id then .error notFound
      else do
        let moved ← transferDeactivatedOwner book now row
        if moved.2.ownerId ≠ principal.id then .error notFound else .ok moved

/-! ## Defaults -/

/-- Source `_replace_default`. -/
def replaceDefault (view : ViewRecord) (isDefault : Bool) : Except ViewError Text :=
  encodeDocument { view.document with isDefault }

/-- One turn of `_clear_other_defaults`. -/
def clearDefault (now : UtcInstant) (request : Text) (book : Book) (row : SavedQueueView) :
    Except ViewError Book := do
  let current ← record row
  if current.document.isDefault then
    let encoded ← replaceDefault current false
    let _ ← requestId request
    return book.putView { row with
      filterJson := encoded
      updatedAt := now
      version := row.version + 1 }
  else return book

/-- Source `ViewRepository._clear_other_defaults`. -/
def clearOtherDefaults (book : Book) (ownerId selectedId : Uuid) (now : UtcInstant)
    (request : Text) : Except ViewError Book :=
  (book.views.rows.filter fun row => decide (row.ownerId = ownerId) && decide (row.id ≠ selectedId)).foldlM
    (clearDefault now request) book

/-! ## Operations -/

/-- The arguments of `ViewRepository.create`, with the identifier of the new row. -/
structure NewView where
  id : Uuid
  ownerId : Uuid
  name : Text
  filters : FilterInput
  kind : Text
  isShared : Bool
  shareAll : Bool
  sharedUserIds : List Uuid
  sharedRoleCodes : List Text
  isDefault : Bool
  description : Option Text
  now : UtcInstant
  request : Text

/-- Adds a row whose owner there is and whose identifier is new. -/
def insertView (book : Book) (row : SavedQueueView) : Except ViewError Book :=
  if (book.users.find row.ownerId).isNone ∨ (book.views.find row.id).isSome then
    .error (.domain (.conflict "The saved view could not be persisted.".toList))
  else .ok { book with views := book.views.insertNew row }

/-- Source `ViewRepository.create`. -/
def create (book : Book) (view : NewView) : Except ViewError (Book × ViewRecord) := do
  let kind ← kindOf view.kind
  let filters ← normaliseFilters view.filters kind
  let name ← cleanText "name" maxViewName view.name
  let description ← optionalText "description" maxViewDescription view.description
  let users ← userIds view.sharedUserIds
  let roles ← roleCodes view.sharedRoleCodes
  validateShareTargets book view.ownerId users roles
  let named := !users.ids.isEmpty || !roles.codes.isEmpty
  let shared := view.isShared || view.shareAll || named
  let shareAll := view.shareAll || (shared && !named)
  let encoded ← encodeDocument ⟨name, kind, filters, users, roles, shareAll, view.isDefault⟩
  let _ ← requestId view.request
  let row : SavedQueueView := ⟨view.id, view.ownerId, name.text, encoded, shared,
    description.map fun text => text.text, view.now, view.now, 1⟩
  let inserted ← insertView book row
  let book ← clearIfDefault inserted view
  let created ← record row
  return (book, created)
where
  /-- The other defaults are cleared for a view created as one. -/
  clearIfDefault (book : Book) (view : NewView) : Except ViewError Book :=
    if view.isDefault then clearOtherDefaults book view.ownerId view.id view.now view.request
    else .ok book

/-- Source `ViewRepository.get`. -/
def get (book : Book) (now : UtcInstant) (viewId : Uuid) (principal : Principal) :
    Except ViewError (Book × Option ViewRecord) := do
  requirePrincipal principal
  match book.views.find viewId with
  | none => return (book, none)
  | some row => do
      let (moved, row) ← transferDeactivatedOwner book now row
      let view ← record row
      return (moved, if accessible moved view principal then some view else none)

/-- The order views are listed in: by name, then by creation, then by identifier. -/
def SavedQueueView.place (row : SavedQueueView) : Text ×ₗ Date ×ₗ Nat ×ₗ Nat :=
  toLex (row.name, toLex (row.createdAt.date, toLex (row.createdAt.microsecond, row.id.int)))

/-- The views a caller may discover, in order. -/
def discoverable (book : Book) (principal : Principal) : List SavedQueueView :=
  (book.views.rows.filter fun row => decide (row.ownerId = principal.id) || row.isShared)
    |>.insertionSort fun a b => a.place ≤ b.place

/-- One turn of the loop of `list_for_user`. -/
def listStep (now : UtcInstant) (principal : Principal) (state : Book × List ViewRecord)
    (row : SavedQueueView) : Except ViewError (Book × List ViewRecord) := do
  let (book, row) ← transferDeactivatedOwner state.1 now row
  let view ← record row
  return (book, if accessible book view principal then state.2 ++ [view] else state.2)

/-- Source `ViewRepository.list_for_user`. -/
def listForUser (book : Book) (now : UtcInstant) (principal : Principal) :
    Except ViewError (Book × List ViewRecord) := do
  requirePrincipal principal
  (discoverable book principal).foldlM (listStep now principal) (book, [])

/-- Source `_check_version`. -/
def checkVersion (row : SavedQueueView) (expected : Int) : Except ViewError Unit :=
  if expected < 1 then
    .error (invalid "expected_version must be a positive integer." "expected_version".toList)
  else if (row.version : Int) ≠ expected then
    .error (.domain (.conflict s!"Saved view changed since version {expected}; current version is {row.version}.".toList))
  else .ok ()

/-- The arguments of `ViewRepository.update`. -/
structure ViewUpdate where
  expectedVersion : Int
  name : Option Text
  filters : Option FilterInput
  kind : Option Text
  description : Option Text
  now : UtcInstant
  request : Text

/-- `kind or current.kind`. -/
def nextKind (given : Option Text) (current : ViewKind) : Except ViewError ViewKind :=
  match given with
  | some [] => .ok current
  | some kind => kindOf kind
  | none => .ok current

/-- Source `ViewRepository.update`. -/
def update (book : Book) (clock : UtcInstant) (viewId : Uuid) (principal : Principal)
    (change : ViewUpdate) : Except ViewError (Book × ViewRecord) := do
  requirePrincipal principal
  let (book, row) ← ownedRow book clock viewId principal
  checkVersion row change.expectedVersion
  let current ← record row
  let kind ← nextKind change.kind current.document.kind
  let name ← (change.name.map (cleanText "name" maxViewName)).getD (.ok current.document.name)
  let filters ← normaliseFilters (change.filters.getD (.mapping current.document.filters.mapping)) kind
  let description ← optionalText "description" maxViewDescription change.description
  let encoded ← encodeDocument ⟨name, kind, filters, current.document.sharedUserIds,
    current.document.sharedRoleCodes, current.document.shareAll, current.document.isDefault⟩
  let _ ← requestId change.request
  let row' : SavedQueueView := { row with
    name := name.text
    filterJson := encoded
    description := (description.map fun text => text.text) <|> current.description
    updatedAt := change.now
    version := row.version + 1 }
  let updated ← record row'
  return (book.putView row', updated)

/-- The arguments of `ViewRepository.share`. -/
structure ViewShare where
  userIds : List Uuid
  roleCodes : List Text
  shareAll : Bool
  now : UtcInstant
  request : Text

/-- Source `ViewRepository.share`. -/
def share (book : Book) (clock : UtcInstant) (viewId : Uuid) (principal : Principal)
    (change : ViewShare) : Except ViewError (Book × ViewRecord) := do
  requirePrincipal principal
  let (book, row) ← ownedRow book clock viewId principal
  let current ← record row
  let users ← userIds change.userIds
  let roles ← roleCodes change.roleCodes
  validateShareTargets book principal.id users roles
  let shared := change.shareAll || !users.ids.isEmpty || !roles.codes.isEmpty
  let encoded ← encodeDocument { current.document with
    sharedUserIds := users
    sharedRoleCodes := roles
    shareAll := change.shareAll }
  let _ ← requestId change.request
  let row' : SavedQueueView := { row with
    isShared := shared
    filterJson := encoded
    updatedAt := change.now
    version := row.version + 1 }
  let updated ← record row'
  return (book.putView row', updated)

/-- Source `ViewRepository.set_default`. -/
def setDefault (book : Book) (clock : UtcInstant) (viewId : Uuid) (principal : Principal)
    (now : UtcInstant) (request : Text) : Except ViewError (Book × ViewRecord) := do
  requirePrincipal principal
  let (book, row) ← ownedRow book clock viewId principal
  let book ← clearOtherDefaults book principal.id row.id now request
  let current ← record row
  let encoded ← replaceDefault current true
  let _ ← requestId request
  let row' : SavedQueueView := { row with
    filterJson := encoded
    updatedAt := now
    version := row.version + 1 }
  let updated ← record row'
  return (book.putView row', updated)

theorem nodup_removed (views : KeyedTable SavedQueueView.id) (id : Uuid) :
    ((views.rows.filter fun row => decide (row.id ≠ id)).map SavedQueueView.id).Nodup :=
  views.distinct.sublist ((List.filter_sublist).map _)

/-- Takes a view out of its table. -/
def Book.removeView (book : Book) (id : Uuid) : Book :=
  { book with views := ⟨book.views.rows.filter fun row => decide (row.id ≠ id), nodup_removed _ id⟩ }

/-- Source `ViewRepository.delete`. -/
def delete (book : Book) (clock : UtcInstant) (viewId : Uuid) (principal : Principal) :
    Except ViewError Book := do
  requirePrincipal principal
  let (book, row) ← ownedRow book clock viewId principal
  return book.removeView row.id

/-- A user, deactivated if it is this one. -/
def deactivated (userId : Uuid) (user : AppUser) : AppUser :=
  if user.id = userId then { user with isActive := false } else user

theorem id_deactivated (userId : Uuid) (user : AppUser) : (deactivated userId user).id = user.id := by
  unfold deactivated
  split_ifs <;> rfl

/-- The deactivation of a user: the views stay with their owner. -/
def deactivate (book : Book) (userId : Uuid) : Book :=
  { book with users := book.users.update (deactivated userId) (id_deactivated userId) }

/-! ## Runs -/

/-- A call on the repository, or the deactivation of a user. -/
inductive Op where
  | create (view : NewView)
  | get (clock : UtcInstant) (viewId : Uuid) (principal : Principal)
  | listForUser (clock : UtcInstant) (principal : Principal)
  | update (clock : UtcInstant) (viewId : Uuid) (principal : Principal) (change : ViewUpdate)
  | share (clock : UtcInstant) (viewId : Uuid) (principal : Principal) (change : ViewShare)
  | setDefault (clock : UtcInstant) (viewId : Uuid) (principal : Principal) (now : UtcInstant)
      (request : Text)
  | delete (clock : UtcInstant) (viewId : Uuid) (principal : Principal)
  | deactivate (userId : Uuid)

/-- The tables after a call that returns. -/
def perform (book : Book) : Op → Except ViewError Book
  | .create view => Prod.fst <$> create book view
  | .get clock viewId principal => Prod.fst <$> get book clock viewId principal
  | .listForUser clock principal => Prod.fst <$> listForUser book clock principal
  | .update clock viewId principal change => Prod.fst <$> update book clock viewId principal change
  | .share clock viewId principal change => Prod.fst <$> share book clock viewId principal change
  | .setDefault clock viewId principal now request =>
      Prod.fst <$> setDefault book clock viewId principal now request
  | .delete clock viewId principal => delete book clock viewId principal
  | .deactivate userId => .ok (deactivate book userId)

/-- The tables after a call: one that raises is rolled back. -/
def step (book : Book) (op : Op) : Book :=
  match perform book op with
  | .ok next => next
  | .error _ => book

/-- The tables after calls one after the other. -/
def run (book : Book) (ops : List Op) : Book := ops.foldl step book

end Views

end CovenantRadar
