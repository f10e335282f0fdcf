import CovenantRadar.Approvals.Requests
import CovenantRadar.Misc.Interleaving
import CovenantRadar.Misc.KeyedTable

/-!
# Administrators

Source `services/admin_users.py`: the requests that can take the last administrator away. Each reads
the committed rows query by query, at the moment of the query, and its writes take effect together
when its transaction commits. Queries that only fill audit entries and answers are left out, and so
are the sessions and keys a request revokes.
-/

namespace CovenantRadar

namespace Admin

open Security Approvals

/-! ## Rows -/

/-- Source `AppUser`. -/
structure AppUser where
  id : Uuid
  username : Text
  isActive : Bool
  version : Int
  deriving DecidableEq

/-- Source `UserRole`, with the code of its role. -/
structure UserRole where
  id : Uuid
  userId : Uuid
  roleCode : Text
  deriving DecidableEq

/-- The payload of a role assignment, as `_create_pending_role_assignment` stores it. -/
structure RoleAssignment where
  userId : Uuid
  roleCodes : List Text
  expectedVersion : Int
  beforeRoles : List Text

/-- Source `MakerCheckerRequest`, of the operation `admin.role_assignment`. -/
structure RoleRequest where
  id : Uuid
  payload : RoleAssignment
  makerId : Uuid
  checkerId : Option Uuid
  state : RequestState
  reason : Option Text

/-- The committed rows; of the roles, the codes. -/
structure Identities where
  users : KeyedTable AppUser.id
  links : KeyedTable UserRole.id
  roles : List Text
  requests : KeyedTable RoleRequest.id

/-- Source `_ADMINISTRATOR_ROLE_CODES`. -/
def administratorRoleCodes : List Text := ["administrator".toList, "admin".toList]

/-- Whether one of the codes is an administrator's. -/
def hasAdministratorRole (codes : List Text) : Bool :=
  codes.any fun code => administratorRoleCodes.contains code

/-- Source `_role_codes`. -/
def roleCodes (state : Identities) (userId : Uuid) : List Text :=
  ((state.links.rows.filter fun link => link.userId = userId).map (·.roleCode)).insertionSort (· ≤ ·)

/-- Source `_is_administrator`. -/
def isAdministrator (state : Identities) (userId : Uuid) : Bool :=
  hasAdministratorRole (roleCodes state userId)

/-- Source `_active_administrator_count`. -/
def activeAdministratorCount (state : Identities) : ℕ :=
  (state.users.rows.filter fun user => user.isActive && isAdministrator state user.id).length

/-! ## Writes -/

/-- What `_apply_role_codes` writes: the links of the user it deletes, the identifiers and the codes
    of those it adds, and the version of the user it read. -/
structure RoleChange where
  target : AppUser
  removed : List Uuid
  added : List (Uuid × Text)

/-- The links a role change adds. -/
def RoleChange.links (change : RoleChange) : List UserRole :=
  change.added.map fun entry => ⟨entry.1, change.target.id, entry.2⟩

/-- Whether a role change leaves a link alone. -/
def RoleChange.leaves (change : RoleChange) (link : UserRole) : Bool :=
  !(decide (link.userId = change.target.id) && change.removed.contains link.id)

/-- What a request writes. -/
inductive AdminWrite where
  | deactivate (target : AppUser)
  | assign (change : RoleChange)
  | propose (request : RoleRequest)
  | approve (requestId checkerId : Uuid) (reason : Option Text) (change : RoleChange)
  | reject (requestId checkerId : Uuid) (reason : Option Text)

/-- A row that is gone, or one that collides. -/
def integrityError : DomainError := ⟨.raised, "IntegrityError".toList, none⟩

/-- The user row with a value changed, and the version after the one that was read. -/
def saveUser (state : Identities) (target : AppUser) (change : AppUser → AppUser) :
    Except DomainError Identities :=
  match state.users.find target.id with
  | none => .error integrityError
  | some row =>
    .ok { state with users := state.users.put { change row with
      id := target.id, version := target.version + 1 } }

/-- The links a role change leaves. -/
def withoutLinks (links : KeyedTable UserRole.id) (change : RoleChange) :
    KeyedTable UserRole.id where
  rows := links.rows.filter change.leaves
  distinct := links.distinct.sublist (List.filter_sublist.map _)

/-- A link collides with another of its identifier, or of its user and role. -/
def collides (links : KeyedTable UserRole.id) (link : UserRole) : Bool :=
  links.rows.any fun other =>
    decide (other.id = link.id) || decide (other.userId = link.userId ∧ other.roleCode = link.roleCode)

/-- Links inserted one after the other; each has to be new. -/
def insertLinks (links : KeyedTable UserRole.id) :
    List UserRole → Except DomainError (KeyedTable UserRole.id)
  | [] => .ok links
  | link :: rest =>
    if collides links link then .error integrityError else insertLinks (links.insertNew link) rest

/-- The links and the user row of a role change. Links are inserted before others are deleted, so a new
    one may collide with any. -/
def applyChange (change : RoleChange) (state : Identities) : Except DomainError Identities :=
  if change.links.any (collides state.links) then .error integrityError
  else do
    let links ← insertLinks (withoutLinks state.links change) change.links
    saveUser { state with links := links } change.target id

/-- The row of a decided request. -/
def decideRequest (requestId checkerId : Uuid) (decision : RequestState) (reason : Option Text)
    (state : Identities) : Except DomainError Identities :=
  match state.requests.find requestId with
  | none => .error integrityError
  | some row =>
    .ok { state with requests := state.requests.put { row with
      id := requestId, checkerId := some checkerId, state := decision, reason := reason } }

/-- The rows after a write, or the error of the database. -/
def applyWrite : AdminWrite → Identities → Except DomainError Identities
  | .deactivate target, state => saveUser state target fun row => { row with isActive := false }
  | .assign change, state => applyChange change state
  | .propose request, state =>
    if fresh : state.requests.find request.id = none then
      .ok { state with requests := state.requests.insert request fresh }
    else .error integrityError
  | .approve requestId checkerId reason change, state => do
    let changed ← applyChange change state
    decideRequest requestId checkerId .approved reason changed
  | .reject requestId checkerId reason, state =>
    decideRequest requestId checkerId .rejected reason state

/-! ## Requests -/

/-- A request: reads, then an error or a write. -/
abbrev AdminScript := Script Identities AdminWrite DomainError

/-- A request that raises. -/
def refuse (error : DomainError) : AdminScript := .finished (.error error)

/-- A step that raises or goes on with its result. -/
def orRefuse {α : Type} (result : Except DomainError α) (next : α → AdminScript) : AdminScript :=
  match result with
  | .error error => refuse error
  | .ok value => next value

/-- Source `_ROLE_CODE_PATTERN.fullmatch`. -/
def isRoleCode : Text → Bool
  | [] => false
  | first :: rest =>
    let isLetter (c : Char) : Bool := ('a' ≤ c ∧ c ≤ 'z') ∨ ('A' ≤ c ∧ c ≤ 'Z')
    isLetter first && decide (rest.length ≤ 49) &&
      rest.all fun c => isLetter c || c.isDigit || ['_', '.', '-'].contains c

/-- Source `_normalise_role_codes`. -/
def normaliseRoleCodes (values : List Text) : Except DomainError (List Text) :=
  values.foldlM (fun result value =>
    let code : Text := Text.strip value
    if isRoleCode code then .ok (if result.contains code then result else result ++ [code])
    else .error ⟨.validationError, "Invalid role code ".toList ++ Text.repr value ++ ['.'],
      some "role_codes".toList⟩) []

/-- Source `_role_payload`, of the codes and the version: the codes in order, the codes before in
    order, and the version. -/
def rolePayload (payload : RoleAssignment) : Except DomainError RoleAssignment :=
  if !payload.roleCodes.all isRoleCode then
    .error (.validationError "Role assignment payload has invalid role_codes." "payload.role_codes")
  else if !payload.beforeRoles.all isRoleCode then
    .error (.validationError "Role assignment payload has invalid prior roles."
      "payload.before.roles")
  else if payload.expectedVersion < 1 then
    .error (.validationError "Role assignment payload has an invalid version."
      "payload.expected_version")
  else
    .ok ⟨payload.userId, sortedSet payload.roleCodes, payload.expectedVersion,
      sortedSet payload.beforeRoles⟩

/-- Source `_reason`. -/
def requiredReason (reason : Option Text) : Except DomainError (Option Text) :=
  validateReason reason true

/-- Source `_require_admin`. -/
def requireAdmin (principal : Principal) (next : AppUser → AdminScript) : AdminScript :=
  if principal.kind ≠ .user then
    refuse (.authorizationError "An authenticated administrator is required.".toList "principal")
  else
    orRefuse (authorize principal .manageUsers) fun _ =>
      .read fun state =>
        match state.users.find principal.id with
        | none => refuse (.authorizationError "The administrator account is unavailable.".toList
            "principal")
        | some actor =>
          if actor.isActive then next actor
          else refuse (.authorizationError "The administrator account is unavailable.".toList
            "principal")

/-- Source `_user`; a row the session has loaded is not read again. -/
def withUser (actor : AppUser) (userId : Uuid) (next : AppUser → AdminScript) : AdminScript :=
  if userId = actor.id then next actor
  else
    .read fun state =>
      match state.users.find userId with
      | none => refuse (.notFound ("User ".toList ++ userId.str ++ " was not found.".toList))
      | some target => next target

/-- Source `_role_ids`. -/
def requireRoles (values : List Text) (next : AdminScript) : AdminScript :=
  orRefuse (normaliseRoleCodes values) fun codes =>
    .read fun state =>
      match codes.find? fun code => !state.roles.contains code with
      | some code => refuse ⟨.validationError, "Unknown role ".toList ++ Text.repr code ++ ['.'],
          some "role_codes".toList⟩
      | none => next

/-- The check before an account is deactivated or an administrator's roles are taken away. -/
def unlessLast (message : String) (next : AdminScript) : AdminScript :=
  .read fun state =>
    if activeAdministratorCount state ≤ 1 then refuse (.conflict message.toList) else next

/-- Source `_apply_role_codes`, up to its writes; `newId` draws the identifier of a link. -/
def applyRoleCodes (target : AppUser) (desired : List Text) (newId : Text → Uuid)
    (write : RoleChange → AdminWrite) : AdminScript :=
  .read fun state =>
    let current := roleCodes state target.id
    let finish : AdminScript := .read fun state =>
      let removed := (state.links.rows.filter fun link => decide (link.userId = target.id) &&
        state.roles.contains link.roleCode && !desired.contains link.roleCode).map (·.id)
      let added := (sortedSet (desired.filter fun code => !current.contains code)).map fun code =>
        (newId code, code)
      .commit (write ⟨target, removed, added⟩)
    if target.isActive then
      .read fun state =>
        if isAdministrator state target.id && !hasAdministratorRole desired then
          unlessLast "The last active administrator must retain an administrator role." finish
        else finish
    else finish

/-- Source `deactivate_user`. -/
def deactivateUser (principal : Principal) (userId : Uuid) (reason : Option Text) : AdminScript :=
  requireAdmin principal fun actor =>
    withUser actor userId fun target =>
      orRefuse (requiredReason reason) fun _ =>
        if target.isActive then
          .read fun state =>
            if isAdministrator state target.id then
              unlessLast "The last active administrator cannot be deactivated."
                (.commit (.deactivate target))
            else .commit (.deactivate target)
        else refuse (.conflict
          ("User ".toList ++ Text.repr target.username ++ " is already inactive.".toList))

/-- Source `assign_roles`; `requestId` is the identifier a pending request is given. -/
def assignRoles (principal : Principal) (userId : Uuid) (values : List Text)
    (reason : Option Text) (newId : Text → Uuid) (requestId : Uuid) : AdminScript :=
  requireAdmin principal fun actor =>
    withUser actor userId fun target =>
      orRefuse (requiredReason reason) fun reason =>
        orRefuse (normaliseRoleCodes values) fun desired =>
          requireRoles desired <| .read fun state =>
            let current := roleCodes state target.id
            if current.insertionSort (· ≤ ·) = desired.insertionSort (· ≤ ·) then
              refuse (.conflict "The requested role assignment is unchanged.".toList)
            else .read fun state =>
              -- the snapshot a pending request keeps
              let before := roleCodes state target.id
              let added := desired.filter fun code => !current.contains code
              let apply := applyRoleCodes target desired newId .assign
              if target.id = principal.id then .read fun state =>
                -- escalating one's own roles takes a second administrator
                if added.all fun code => (roleCodes state principal.id).contains code then apply
                else .commit (.propose ⟨requestId, ⟨target.id, desired, target.version, before⟩,
                  principal.id, none, .pending, reason⟩)
              else apply

/-- Source `decide_role_assignment`. -/
def decideRoleAssignment (principal : Principal) (requestId : Uuid) (approved : Bool)
    (reason : Option Text) (newId : Text → Uuid) : AdminScript :=
  requireAdmin principal fun actor => .read fun state =>
    match state.requests.find requestId with
    | none => refuse (.notFound
        ("Role assignment ".toList ++ requestId.str ++ " was not found.".toList))
    | some request =>
      if request.state ≠ .pending then
        refuse (.conflict ("Role assignment ".toList ++ request.id.str ++ " is already ".toList ++
          request.state.value ++ ['.']))
      else if request.makerId = principal.id then
        refuse (.conflict
          "A role assignment requires a distinct administrator approver.".toList)
      else orRefuse (validateReason reason (!approved)) fun reason =>
        orRefuse (rolePayload request.payload) fun payload =>
          withUser actor payload.userId fun target =>
            if target.version ≠ payload.expectedVersion then
              refuse (.conflict ("User ".toList ++ Text.repr target.username ++
                " changed while the role assignment was pending; submit a new request.".toList))
            else if approved then
              requireRoles payload.roleCodes <| .read fun state =>
                if (roleCodes state target.id).insertionSort (· ≤ ·) ≠ payload.beforeRoles then
                  refuse (.conflict ("User ".toList ++ Text.repr target.username ++
                    " roles changed while the request was pending.".toList))
                else applyRoleCodes target payload.roleCodes newId
                  (.approve request.id principal.id reason)
            else .commit (.reject request.id principal.id reason)

/-- A request with what it is called with. -/
inductive AdminRequest where
  | deactivateUser (principal : Principal) (userId : Uuid) (reason : Option Text)
  | assignRoles (principal : Principal) (userId : Uuid) (values : List Text)
      (reason : Option Text) (newId : Text → Uuid) (requestId : Uuid)
  | decideRoleAssignment (principal : Principal) (requestId : Uuid) (approved : Bool)
      (reason : Option Text) (newId : Text → Uuid)

/-- The steps of a request. -/
def AdminRequest.script : AdminRequest → AdminScript
  | deactivateUser principal userId reason => Admin.deactivateUser principal userId reason
  | assignRoles principal userId values reason newId requestId =>
    Admin.assignRoles principal userId values reason newId requestId
  | decideRoleAssignment principal requestId approved reason newId =>
    Admin.decideRoleAssignment principal requestId approved reason newId

/-- Requests about to run. -/
def poolOf (state : Identities) (requests : List AdminRequest) :
    Pool Identities AdminWrite DomainError := ⟨state, requests.map AdminRequest.script⟩

end Admin

end CovenantRadar
