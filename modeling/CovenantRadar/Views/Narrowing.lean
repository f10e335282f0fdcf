import CovenantRadar.Queue.Repository
import CovenantRadar.Views.Repository

/-!
# Narrowing saved views

Source `services/admin_users.py`, `_narrow_saved_views`: when the portfolio scope of a user is
replaced, the portfolio filters outside of it are dropped from the views the user owns. The
documents are read and written with the codec of `domain/triage/views.py`, not the repository's.
-/

namespace CovenantRadar

namespace Views

open Queue (Portfolio PortfolioValue QueueFilters TrimmedText)

/-! ## Saved views -/

/-- Source `SavedView`. -/
@[ext] structure SavedView where
  name : TrimmedText maxViewName
  filters : QueueFilters

/-- The keys `SavedView.from_dict` allows. -/
def savedViewKeys : List Text :=
  ["name", "filters", "schema_version", "kind", "shared_user_ids", "shared_role_codes", "share_all",
    "is_default"].map String.toList

/-- The value of a key of a decoded object, the last one written. -/
def lastOf (entries : List (Text × Json)) (key : String) : Option Json :=
  ((entries.filter fun entry => entry.1 == key.toList).getLast?).map Prod.snd

/-- Source `QueueFilters.from_value`, on a JSON value. -/
def filtersOf : Json → Except PyError QueueFilters
  | .obj entries => QueueFilters.fromValue entries
  | _ => .ok .none

/-- Source `SavedView.from_dict`. -/
def SavedView.fromDict (entries : List (Text × Json)) : Except PyError SavedView :=
  let unknown := (entries.map Prod.fst).filter fun key => !savedViewKeys.contains key
  match (unknown.insertionSort (· ≤ ·)).head? with
  | some first =>
      let name := String.ofList (Text.repr first)
      .error (.valueError s!"Unknown saved view field {name}.")
  | none =>
      match lastOf entries "name", lastOf entries "filters" with
      | some name, some filters => do
          let filters ← filtersOf filters
          let name ← Queue.boundedText "name" maxViewName name
          return ⟨name, filters⟩
      | _, _ => .error (.valueError "A saved view requires a name and filters.")

/-- Source `SavedView.from_json`. -/
def SavedView.fromJson (value : Text) : Except PyError SavedView :=
  match Json.loads value with
  | some (.obj entries) => SavedView.fromDict entries
  | some _ => .error (.typeError "A saved view must be deserialized from a mapping.")
  | none => .error (.valueError "A saved view JSON payload is malformed.")

/-- Source `SavedView.to_dict`. -/
def SavedView.entries (view : SavedView) : List (Text × Json) :=
  [("name".toList, .str view.name.text), ("filters".toList, .obj view.filters.toDict)]

/-- Source `SavedView.to_json`. -/
def SavedView.toJson (view : SavedView) : Text := (Json.obj view.entries).dumps

/-! ## Scopes -/

/-- The portfolio scope of a user: portfolios, each with or without its descendants. -/
abbrev PortfolioScope := List (Uuid × Bool)

/-- Whether a scope covers a portfolio. -/
def covers (portfolios : List Portfolio) (scopes : PortfolioScope) (portfolio : Portfolio) : Bool :=
  let exactIds := (scopes.filter fun grant => !grant.2).map Prod.fst
  let descendantIds := (scopes.filter fun grant => grant.2).map Prod.fst
  exactIds.contains portfolio.id || descendantIds.contains portfolio.id ||
    portfolios.any fun parent =>
      descendantIds.contains parent.id && parent.path.isPrefixOf portfolio.path

/-- `path.rstrip("/")`. -/
def stripSlashes (path : Text) : Text := path.rdropWhile fun c => c == '/'

/-- Source `_portfolio_filter_allowed`; a text no identifier is read from names a code or a path. -/
def portfolioFilterAllowed (value : PortfolioValue) (allowed : List Portfolio) : Bool :=
  match value with
  | .uuid id => (allowed.map Portfolio.id).contains id
  | .text written _ =>
      (allowed.map Portfolio.code).contains written.text ||
        (allowed.map fun portfolio => stripSlashes portfolio.path).contains
          (stripSlashes written.text)

/-- Whether queue filters name a portfolio outside a scope. -/
def outOfScope (portfolios : List Portfolio) (scopes : PortfolioScope) (filters : QueueFilters) :
    Bool :=
  filters.portfolio.any fun value =>
    !portfolioFilterAllowed value (portfolios.filter (covers portfolios scopes))

/-! ## Narrowing -/

/-- The filters `_narrow_saved_views` rebuilds. -/
def rebuilt (filters : QueueFilters) : QueueFilters :=
  ⟨filters.band, none, filters.industry, filters.assignee, filters.smaBand, filters.caseState, none⟩

/-- One turn of the loop of `_narrow_saved_views`. -/
def narrowRow (portfolios : List Portfolio) (scopes : PortfolioScope) (now : UtcInstant)
    (row : SavedQueueView) : SavedQueueView :=
  match SavedView.fromJson row.filterJson with
  | .error _ => row
  | .ok view =>
      if outOfScope portfolios scopes view.filters then
        { row with
          filterJson := SavedView.toJson ⟨view.name, rebuilt view.filters⟩
          updatedAt := now
          version := row.version + 1 }
      else row

/-- A view after the narrowing of the views of one user. -/
def narrowOwned (portfolios : List Portfolio) (scopes : PortfolioScope) (userId : Uuid)
    (now : UtcInstant) (row : SavedQueueView) : SavedQueueView :=
  if row.ownerId = userId then narrowRow portfolios scopes now row else row

theorem id_narrowRow (portfolios : List Portfolio) (scopes : PortfolioScope) (now : UtcInstant)
    (row : SavedQueueView) : (narrowRow portfolios scopes now row).id = row.id := by
  unfold narrowRow
  split
  · rfl
  · split_ifs <;> rfl

theorem id_narrowOwned (portfolios : List Portfolio) (scopes : PortfolioScope) (userId : Uuid)
    (now : UtcInstant) (row : SavedQueueView) :
    (narrowOwned portfolios scopes userId now row).id = row.id := by
  unfold narrowOwned
  split_ifs
  · exact id_narrowRow portfolios scopes now row
  · rfl

/-- Source `_narrow_saved_views`, the table it leaves. -/
def narrowSavedViews (portfolios : List Portfolio) (scopes : PortfolioScope) (userId : Uuid)
    (now : UtcInstant) (views : KeyedTable SavedQueueView.id) : KeyedTable SavedQueueView.id :=
  views.update (narrowOwned portfolios scopes userId now)
    (id_narrowOwned portfolios scopes userId now)

end Views

end CovenantRadar
