import CovenantRadar.Cases.Service
import CovenantRadar.Misc.PathPatterns
import CovenantRadar.Notifications.Records

/-!
# Four tests of one rule

Source `db/scoping.py`: the format of a materialised portfolio path, the scope of a principal, its SQL
predicate and the test of one grant in memory; with them the visibility check of notifications and the
role mapping of cases, against the tree of portfolios.
-/

namespace CovenantRadar

namespace Scoping

/-! ## Paths -/

/-- A character of `[A-Za-z0-9.:-]`. -/
def isPathChar (c : Char) : Bool := c.isAlphanum || (['.', ':', '-'] : List Char).contains c

/-- A text of `[A-Za-z0-9][A-Za-z0-9.:-]*`. -/
def isSegment : Text → Bool
  | [] => false
  | first :: rest => first.isAlphanum && rest.all isPathChar

/-- The names on a path, which a slash follows each. -/
def segments (path : Text) : List Text := path.dropLast.splitOn '/'

/-- Source `_PATH_PATTERN`, on a whole text. -/
def isPath (path : Text) : Bool :=
  decide (path.getLast? = some '/') && (segments path).all isSegment

/-- Source `_PATH_MAX_LENGTH`. -/
def pathMaxLength : Nat := 660

/-- Source `ScopeConfigurationError`. -/
structure ScopeConfigurationError where
  message : Text

/-- Source `_normalise_path`. -/
def normalisePath (value : Text) : Except ScopeConfigurationError Text :=
  let path := if value.getLast? = some '/' then value else value ++ ['/']
  if pathMaxLength < path.length ∨ isPath path = false then
    .error ⟨"Invalid portfolio scope path: ".toList ++ Text.repr value ++ ".".toList⟩
  else .ok path

/-- Source `_normalise_paths`. -/
def normalisePaths (values : List Text) : Except ScopeConfigurationError (List Text) :=
  values.foldlM (fun result value => do
    let path ← normalisePath value
    return if result.contains path then result else result ++ [path]) []

/-! ## Scopes -/

/-- A row of `UserPortfolioScope`, with the path of its portfolio. -/
structure PortfolioGrant where
  path : Text
  includeDescendants : Bool

/-- Source `Scope.__post_init__`. -/
def makeScope (principalId : Uuid) (exactPaths descendantPaths : List Text) :
    Except ScopeConfigurationError Cases.Scope := do
  let exact ← normalisePaths exactPaths
  let descendant ← normalisePaths descendantPaths
  return ⟨principalId, exact, descendant⟩

/-- Source `ScopeResolver._resolve_user`. -/
def resolveUser (userId : Uuid) (grants : List PortfolioGrant) :
    Except ScopeConfigurationError Cases.Scope := do
  let rows ← grants.mapM fun grant => do
    let normalised ← normalisePath grant.path
    return (normalised, grant.includeDescendants)
  makeScope userId ((rows.filter fun row => row.2 == false).map Prod.fst)
    ((rows.filter fun row => row.2 == true).map Prod.fst)

/-- Source `Scope.predicate`, on the path of one row; `none` where the database rejects a pattern. -/
def predicate (scope : Cases.Scope) (path : Text) : Option Bool := do
  let among := if scope.exactPaths = [] then [] else [scope.exactPaths.contains path]
  let below ← scope.descendantPaths.mapM fun root => Like.matches' '\\' (root ++ ['%']) path
  return (among ++ below).any id

/-- `path.rstrip("/") + "/"`. -/
def withOneSlash (path : Text) : Text := path.rdropWhile (fun c => c == '/') ++ ['/']

/-- Source `grant_reaches_path`. -/
def grantReachesPath (grantedPath targetPath : Text) (includeDescendants : Bool) : Bool :=
  let grant := withOneSlash grantedPath
  let target := withOneSlash targetPath
  if includeDescendants then grant.isPrefixOf target else target == grant

/-! ## What a grant is for -/

/-- A grant reaches its portfolio, and those below it in the tree if it includes them. -/
def PortfolioGrant.Reaches (grant : PortfolioGrant) (path : Text) : Prop :=
  if grant.includeDescendants then segments grant.path <+: segments path
  else segments grant.path = segments path

/-! ## Paths in their format -/

theorem notMem_slash {segment : Text} (valid : isSegment segment = true) : '/' ∉ segment := by
  cases segment with
  | nil => exact List.not_mem_nil
  | cons first rest =>
    simp only [isSegment, Bool.and_eq_true, List.all_eq_true] at valid
    intro listed
    rcases List.mem_cons.mp listed with rfl | later
    · exact absurd valid.1 (by decide)
    · exact absurd (valid.2 _ later) (by decide)

/-- What the format says of a path. -/
structure WellFormed (path : Text) : Prop where
  closed : path = closedBy '/' (segments path)
  named : ∀ segment ∈ segments path, isSegment segment = true
  some : segments path ≠ []

theorem wellFormed_of_isPath {path : Text} (valid : isPath path = true) : WellFormed path := by
  simp only [isPath, Bool.and_eq_true, decide_eq_true_eq, List.all_eq_true] at valid
  obtain ⟨last, named⟩ := valid
  have present : segments path ≠ [] := List.splitOn_ne_nil _ _
  refine ⟨?_, named, present⟩
  obtain ⟨first, rest, shape⟩ := List.exists_cons_of_ne_nil present
  have joined : ['/'].intercalate (segments path) = path.dropLast := List.intercalate_splitOn ..
  have whole : path.dropLast ++ ['/'] = path := List.dropLast_append_getLast? '/' last
  rw [shape, ← intercalate_append_separator, ← shape, joined, whole]

/-- The characters of a path: no wildcard and no escape is among them. -/
theorem plain_of_isPath {path : Text} (valid : isPath path = true) :
    ∀ c ∈ path, c ≠ '\\' ∧ c ≠ '%' ∧ c ≠ '_' := by
  have formed := wellFormed_of_isPath valid
  have ordinary : ∀ c : Char, isPathChar c = true → c ≠ '\\' ∧ c ≠ '%' ∧ c ≠ '_' := by
    intro c ok
    refine ⟨?_, ?_, ?_⟩
    all_goals
      rintro rfl
      exact absurd ok (by decide)
  intro c listed
  rw [formed.closed] at listed
  obtain ⟨segment, isOne, inside⟩ := List.mem_flatMap.mp listed
  rcases List.mem_append.mp inside with inside | last
  · have good := formed.named segment isOne
    cases segment with
    | nil => cases inside
    | cons first rest =>
      simp only [isSegment, Bool.and_eq_true, List.all_eq_true] at good
      rcases List.mem_cons.mp inside with rfl | later
      · exact ordinary _ (by simp [isPathChar, good.1])
      · exact ordinary _ (good.2 _ later)
  · rw [List.mem_singleton.mp last]
    decide

/-- A path starts with another exactly if it lies at or below it. -/
theorem isPrefixOf_iff {granted path : Text} (valid : isPath granted = true)
    (valid' : isPath path = true) :
    granted.isPrefixOf path = true ↔ segments granted <+: segments path := by
  have formed := wellFormed_of_isPath valid
  have formed' := wellFormed_of_isPath valid'
  rw [List.isPrefixOf_iff_prefix, ← closedBy_prefix_iff
    (fun segment listed => notMem_slash (formed.named segment listed))
    (fun segment listed => notMem_slash (formed'.named segment listed)),
    ← formed.closed, ← formed'.closed]

theorem segments_inj {granted path : Text} (valid : isPath granted = true)
    (valid' : isPath path = true) : granted = path ↔ segments granted = segments path := by
  constructor
  · rintro rfl
    rfl
  · intro same
    rw [(wellFormed_of_isPath valid).closed, (wellFormed_of_isPath valid').closed, same]

/-- A path keeps its one slash at the end. -/
theorem withOneSlash_eq {path : Text} (valid : isPath path = true) : withOneSlash path = path := by
  have formed := wellFormed_of_isPath valid
  obtain ⟨before, last, shape⟩ := (List.eq_nil_or_concat _).resolve_left formed.some
  have name := formed.named last (by rw [shape]; simp)
  have nonempty : last ≠ [] := by
    rintro rfl
    cases name
  obtain ⟨front, c, lastShape⟩ := (List.eq_nil_or_concat _).resolve_left nonempty
  -- the name before the last slash ends with another character
  have other : c ≠ '/' := by
    rintro rfl
    exact notMem_slash name (by rw [lastShape]; simp)
  have written : path = (closedBy '/' before ++ front) ++ [c] ++ ['/'] := by
    conv_lhs => rw [formed.closed, shape, List.concat_eq_append, closedBy, List.flatMap_append]
    simp [closedBy, lastShape]
  unfold withOneSlash
  rw [written, List.rdropWhile_concat_pos _ _ _ (by rfl),
    List.rdropWhile_concat_neg _ _ _ (by simpa using other)]

/-! ## Disclosure in a notification -/

/-- Source `ScopedValue`, without the value it guards. -/
structure ScopedValue where
  requiredPermission : Option Security.Permission
  subjectType : Option Text
  subjectId : Option Uuid
  portfolioPath : Option Text

/-- The portfolio test of `_can_disclose`. -/
def portfolioVisible (scope : Cases.Scope) (portfolioPath : Text) : Bool :=
  let path := if portfolioPath.getLast? = some '/' then portfolioPath else portfolioPath ++ ['/']
  scope.exactPaths.contains path || scope.descendantPaths.any fun start => start.isPrefixOf path

/-- Source `_can_disclose`. -/
def canDisclose (directory : Notifications.Directory) (value : ScopedValue) (scope : Cases.Scope)
    (permissions : List Security.Permission) : Bool :=
  (match value.requiredPermission with
    | some permission => permissions.contains permission
    | none => true) &&
  (match value.subjectType, value.subjectId with
    | some subjectType, some subjectId => directory.subjectVisible (subjectType, subjectId) scope
    | _, _ => true) &&
  (match value.portfolioPath with
    | some path => portfolioVisible scope path
    | none => true)

/-! ## Resolving grants -/

/-- A stored path: in the format, and of a length its column holds. -/
def StoredPath (path : Text) : Prop := isPath path = true ∧ path.length ≤ pathMaxLength

theorem getLast?_of_isPath {path : Text} (valid : isPath path = true) :
    path.getLast? = some '/' := by
  simp only [isPath, Bool.and_eq_true, decide_eq_true_eq] at valid
  exact valid.1

theorem normalisePath_of_stored {path : Text} (stored : StoredPath path) :
    normalisePath path = .ok path := by
  unfold normalisePath
  rw [if_pos (getLast?_of_isPath stored.1), if_neg]
  rintro (long | invalid)
  · exact absurd stored.2 (not_le.mpr long)
  · exact absurd stored.1 (by simp [invalid])

/-- Normalising stored paths keeps them, and drops repetitions. -/
theorem normalisePaths_of_stored {values : List Text}
    (stored : ∀ value ∈ values, StoredPath value) :
    ∃ paths, normalisePaths values = .ok paths ∧ ∀ path, path ∈ paths ↔ path ∈ values := by
  induction values using List.reverseRecOn with
  | nil => exact ⟨[], rfl, fun _ => Iff.rfl⟩
  | append_singleton values value ih =>
    obtain ⟨paths, returned, same⟩ := ih fun v listed => stored v (List.mem_append_left _ listed)
    have last := normalisePath_of_stored (stored value (by simp))
    refine ⟨if paths.contains value then paths else paths ++ [value], ?_, ?_⟩
    · refine foldlM_append_eq_ok_iff.mpr ⟨paths, returned, foldlM_cons_eq_ok_iff.mpr ⟨_, ?_, rfl⟩⟩
      exact Except.bind_eq_ok_iff.mpr ⟨value, last, rfl⟩
    · intro path
      split_ifs with present
      · have listed : value ∈ values := (same value).mp (List.contains_iff_mem.mp present)
        rw [same, List.mem_append, List.mem_singleton]
        exact ⟨.inl, fun either => either.elim id fun equal => equal ▸ listed⟩
      · rw [List.mem_append, List.mem_append, same]

/-- The paths of the grants with one flag. -/
theorem mem_pathsOf {flag : Bool} {path : Text} {grants : List PortfolioGrant} :
    path ∈ ((grants.map fun grant => (grant.path, grant.includeDescendants)).filter
      fun row => row.2 == flag).map Prod.fst ↔ ⟨path, flag⟩ ∈ grants := by
  constructor
  · intro listed
    obtain ⟨row, kept, rfl⟩ := List.mem_map.mp listed
    obtain ⟨mapped, same⟩ := List.mem_filter.mp kept
    obtain ⟨grant, present, rfl⟩ := List.mem_map.mp mapped
    rw [← eq_of_beq same]
    exact present
  · intro listed
    refine List.mem_map.mpr ⟨(path, flag), List.mem_filter.mpr ⟨?_, beq_self_eq_true flag⟩, rfl⟩
    exact List.mem_map.mpr ⟨_, listed, rfl⟩

/-- The scope of stored grants: the paths of those with descendants and of those without. -/
theorem resolveUser_of_stored (userId : Uuid) {grants : List PortfolioGrant}
    (stored : ∀ grant ∈ grants, StoredPath grant.path) :
    ∃ scope, resolveUser userId grants = .ok scope ∧
      (∀ path, path ∈ scope.exactPaths ↔ ⟨path, false⟩ ∈ grants) ∧
      (∀ path, path ∈ scope.descendantPaths ↔ ⟨path, true⟩ ∈ grants) := by
  have rows : (grants.mapM fun grant => do
      let normalised ← normalisePath grant.path
      return (normalised, grant.includeDescendants)) =
      .ok (grants.map fun grant => (grant.path, grant.includeDescendants)) := by
    rw [mapM_eq_ok_iff, List.forall₂_map_right_iff, List.forall₂_same]
    intro grant listed
    rw [normalisePath_of_stored (stored grant listed)]
    rfl
  obtain ⟨exactPaths, exactReturned, exactSame⟩ := normalisePaths_of_stored
    fun path listed => stored _ ((@mem_pathsOf false path grants).mp listed)
  obtain ⟨descendantPaths, descendantReturned, descendantSame⟩ := normalisePaths_of_stored
    fun path listed => stored _ ((@mem_pathsOf true path grants).mp listed)
  refine ⟨⟨userId, exactPaths, descendantPaths⟩, ?_, fun path => (exactSame path).trans mem_pathsOf,
    fun path => (descendantSame path).trans mem_pathsOf⟩
  refine Except.bind_eq_ok_iff.mpr ⟨_, rows, Except.bind_eq_ok_iff.mpr ⟨_, exactReturned, ?_⟩⟩
  exact Except.bind_eq_ok_iff.mpr ⟨_, descendantReturned, rfl⟩

/-! ## The four tests -/

/-- Some grant reaches the path. -/
def AnyReaches (grants : List PortfolioGrant) (path : Text) : Prop :=
  ∃ grant ∈ grants, grant.Reaches path

/-- A grant reaches a stored path: by the start of the path, or by the path itself. -/
theorem reaches_iff {grant : PortfolioGrant} {path : Text} (stored : StoredPath grant.path)
    (stored' : StoredPath path) : grant.Reaches path ↔
      if grant.includeDescendants then grant.path.isPrefixOf path = true
      else path = grant.path := by
  unfold PortfolioGrant.Reaches
  split_ifs
  · exact (isPrefixOf_iff stored.1 stored'.1).symm
  · exact ((segments_inj stored.1 stored'.1).symm).trans eq_comm

/-- The prefix test of a scope. -/
theorem includes_iff {scope : Cases.Scope} {grants : List PortfolioGrant} {path : Text}
    (stored : ∀ grant ∈ grants, StoredPath grant.path) (stored' : StoredPath path)
    (exactSame : ∀ path, path ∈ scope.exactPaths ↔ ⟨path, false⟩ ∈ grants)
    (descendantSame : ∀ path, path ∈ scope.descendantPaths ↔ ⟨path, true⟩ ∈ grants) :
    scope.includes path = true ↔ AnyReaches grants path := by
  simp only [Cases.Scope.includes, Bool.or_eq_true, List.contains_iff_mem, List.any_eq_true,
    exactSame, descendantSame]
  constructor
  · rintro (exact' | ⟨root, listed, starts⟩)
    · exact ⟨_, exact', (reaches_iff (stored _ exact') stored').mpr rfl⟩
    · exact ⟨_, listed, (reaches_iff (stored _ listed) stored').mpr starts⟩
  · rintro ⟨grant, listed, reaches⟩
    rw [reaches_iff (stored grant listed) stored'] at reaches
    obtain ⟨root, includeDescendants⟩ := grant
    cases includeDescendants with
    | false => exact .inl ((show path = root from reaches) ▸ listed)
    | true => exact .inr ⟨root, listed, reaches⟩

/-- Each `LIKE` of a stored path is a test of the start. -/
theorem mapM_like {roots : List Text} (stored : ∀ root ∈ roots, StoredPath root) (path : Text) :
    (roots.mapM fun root => Like.matches' '\\' (root ++ ['%']) path) =
      some (roots.map fun root => root.isPrefixOf path) := by
  induction roots with
  | nil => rfl
  | cons root roots ih =>
    have first := Like.matches_stem (plain_of_isPath (stored root List.mem_cons_self).1)
      (by decide) path
    rw [List.mapM_cons, first, ih fun root listed => stored root (List.mem_cons_of_mem _ listed)]
    rfl

/-- On stored paths the SQL predicate is the prefix test. -/
theorem predicate_eq {scope : Cases.Scope} (stored : ∀ root ∈ scope.descendantPaths, StoredPath root)
    (path : Text) : predicate scope path = some (scope.includes path) := by
  unfold predicate
  rw [mapM_like stored]
  unfold Cases.Scope.includes
  cases scope.exactPaths with
  | nil => simp [List.any_map]
  | cons first rest => simp [List.any_map]

/-- The test of each grant in memory. -/
theorem grantReachesPath_iff {grant : PortfolioGrant} {path : Text}
    (stored : StoredPath grant.path) (stored' : StoredPath path) :
    grantReachesPath grant.path path grant.includeDescendants = true ↔ grant.Reaches path := by
  rw [reaches_iff stored stored', grantReachesPath, withOneSlash_eq stored.1,
    withOneSlash_eq stored'.1]
  split_ifs
  · exact Iff.rfl
  · exact beq_iff_eq

/-- The users a role maps to are those with a grant that reaches the portfolio. -/
theorem mem_roleMappedUsers_iff {directory : Cases.Directory} {borrower : Cases.Borrower}
    {roleCodes : List Text} {userId : Uuid} :
    userId ∈ Cases.roleMappedUsers directory borrower roleCodes ↔
      userId ∈ directory.activeUsers ∧ ∃ grant ∈ directory.roleGrants, grant.userId = userId ∧
        grant.roleCode ∈ roleCodes ∧ grant.covers borrower.portfolioPath = true := by
  unfold Cases.roleMappedUsers
  simp only [List.mem_insertionSort, List.mem_map, List.mem_filter, Bool.and_eq_true,
    List.contains_iff_mem]
  constructor
  · rintro ⟨grant, ⟨listed, ⟨active, mapped⟩, covers⟩, rfl⟩
    exact ⟨active, grant, listed, rfl, mapped, covers⟩
  · rintro ⟨active, grant, listed, rfl, mapped, covers⟩
    exact ⟨grant, ⟨listed, ⟨active, mapped⟩, covers⟩, rfl⟩

/-- The grants that the rows of a role mapping hold for a user. -/
def roleGrantsOf (directory : Cases.Directory) (roleCodes : List Text) (userId : Uuid) :
    List PortfolioGrant :=
  (directory.roleGrants.filter fun grant =>
    decide (grant.userId = userId) && roleCodes.contains grant.roleCode).map fun grant =>
      ⟨grant.scopePath, grant.includeDescendants⟩

theorem covers_iff {grant : Cases.RoleGrant} {path : Text} (stored : StoredPath grant.scopePath)
    (stored' : StoredPath path) : grant.covers path = true ↔
      PortfolioGrant.Reaches ⟨grant.scopePath, grant.includeDescendants⟩ path := by
  rw [reaches_iff stored stored', Cases.RoleGrant.covers]
  split_ifs
  · exact Iff.rfl
  · exact beq_iff_eq

/-- The role mapping of an active user, from the grants of its rows. -/
theorem roleMapped_iff {directory : Cases.Directory} {borrower : Cases.Borrower}
    {roleCodes : List Text} {userId : Uuid} (active : userId ∈ directory.activeUsers)
    (stored : ∀ grant ∈ roleGrantsOf directory roleCodes userId, StoredPath grant.path)
    (stored' : StoredPath borrower.portfolioPath) :
    userId ∈ Cases.roleMappedUsers directory borrower roleCodes ↔
      AnyReaches (roleGrantsOf directory roleCodes userId) borrower.portfolioPath := by
  have own : ∀ grant ∈ directory.roleGrants, grant.userId = userId → grant.roleCode ∈ roleCodes →
      ⟨grant.scopePath, grant.includeDescendants⟩ ∈ roleGrantsOf directory roleCodes userId := by
    intro grant listed same mapped
    refine List.mem_map.mpr ⟨grant, List.mem_filter.mpr ⟨listed, ?_⟩, rfl⟩
    simp [same, mapped]
  rw [mem_roleMappedUsers_iff]
  constructor
  · rintro ⟨_, grant, listed, same, mapped, covers⟩
    have granted := own grant listed same mapped
    exact ⟨_, granted, (covers_iff (stored _ granted) stored').mp covers⟩
  · rintro ⟨grant, listed, reaches⟩
    obtain ⟨row, kept, rfl⟩ := List.mem_map.mp listed
    obtain ⟨present, test⟩ := List.mem_filter.mp kept
    simp only [Bool.and_eq_true, decide_eq_true_eq, List.contains_iff_mem] at test
    exact ⟨active, row, present, test.1, test.2,
      (covers_iff (stored _ listed) stored').mpr reaches⟩

/-- No grant reaches a sibling of its portfolio, whatever their names start with. -/
theorem not_reaches_sibling {grant : PortfolioGrant} {path : Text}
    (siblings : (segments grant.path).length = (segments path).length)
    (apart : segments grant.path ≠ segments path) : ¬ grant.Reaches path := by
  unfold PortfolioGrant.Reaches
  split_ifs
  · intro below
    exact apart (below.eq_of_length siblings)
  · exact apart

/-- For any stored grants and any stored path, the SQL predicate of the scope, the test of the grants
    in memory, the two visibility checks of notifications and the role mapping of cases let the
    path through exactly if a grant reaches it in the tree; and a grant reaches no other portfolio
    of the same depth. -/
theorem path_checks_agree (userId : Uuid) (grants : List PortfolioGrant) (path : Text)
    (stored : ∀ grant ∈ grants, StoredPath grant.path) (stored' : StoredPath path) :
    ∃ scope, resolveUser userId grants = .ok scope ∧
      (∃ admitted, predicate scope path = some admitted ∧
        (admitted = true ↔ AnyReaches grants path)) ∧
      ((grants.any fun grant => grantReachesPath grant.path path grant.includeDescendants) = true ↔
        AnyReaches grants path) ∧
      (∀ (directory : Notifications.Directory) (subject : Text × Uuid),
        subject.1.strip.lower ∈ Notifications.subjectModels.map String.toList →
        directory.ownershipPath subject.1.strip.lower subject.2 = some path →
        (directory.subjectVisible subject scope = true ↔ AnyReaches grants path)) ∧
      (∀ (directory : Notifications.Directory) (permissions : List Security.Permission),
        canDisclose directory ⟨none, none, none, some path⟩ scope permissions = true ↔
          AnyReaches grants path) ∧
      (∀ (directory : Cases.Directory) (borrower : Cases.Borrower) (roleCodes : List Text),
        borrower.portfolioPath = path → userId ∈ directory.activeUsers →
        roleGrantsOf directory roleCodes userId = grants →
        (userId ∈ Cases.roleMappedUsers directory borrower roleCodes ↔ AnyReaches grants path)) ∧
      ∀ grant ∈ grants, (segments grant.path).length = (segments path).length →
        segments grant.path ≠ segments path → ¬ grant.Reaches path := by
  obtain ⟨scope, resolved, exactSame, descendantSame⟩ := resolveUser_of_stored userId stored
  have includes := includes_iff stored stored' exactSame descendantSame
  refine ⟨scope, resolved, ⟨scope.includes path, ?_, includes⟩, ?_, ?_, ?_, ?_, ?_⟩
  · exact predicate_eq (fun root listed => stored _ ((descendantSame root).mp listed)) path
  · rw [List.any_eq_true]
    constructor
    · rintro ⟨grant, listed, reaches⟩
      exact ⟨grant, listed, (grantReachesPath_iff (stored grant listed) stored').mp reaches⟩
    · rintro ⟨grant, listed, reaches⟩
      exact ⟨grant, listed, (grantReachesPath_iff (stored grant listed) stored').mpr reaches⟩
  · intro directory subject known owned
    simp only [Notifications.Directory.subjectVisible, owned, Option.any_some, Bool.and_eq_true,
      List.contains_iff_mem, known, true_and]
    exact includes
  · intro directory permissions
    simp only [canDisclose, portfolioVisible, if_pos (getLast?_of_isPath stored'.1),
      Bool.true_and]
    exact includes
  · rintro directory borrower roleCodes rfl active rfl
    exact roleMapped_iff active stored stored'
  · intro grant _ siblings apart
    exact not_reaches_sibling siblings apart

/-- The North region, with all below it. -/
def north : PortfolioGrant := ⟨"north/".toList, true⟩

/-- A branch next to it. -/
def northEast : Text := "north-east/".toList

theorem stored_north : StoredPath north.path := ⟨by decide, by decide⟩

theorem stored_northEast : StoredPath northEast := ⟨by decide, by decide⟩

/-- A region does not reach its neighbour whose name starts alike. -/
theorem path_checks_north : ¬ north.Reaches northEast := by
  obtain ⟨_, _, _, _, _, _, _, apart⟩ := path_checks_agree ⟨1, by decide⟩ [north] northEast
    (fun grant listed => List.mem_singleton.mp listed ▸ stored_north) stored_northEast
  exact apart north (List.mem_singleton_self _) (by decide) (by decide)

end Scoping

end CovenantRadar
