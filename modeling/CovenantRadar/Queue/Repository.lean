import CovenantRadar.Cases.Records
import CovenantRadar.Queue.Cursor

/-!
# The queue repository

Source `db/repositories/triage.py`: the newest complete run that was ranked, its entries inside a
scope and a set of filters, one page after a cursor, and the summary over all of them.
-/

namespace CovenantRadar

namespace Queue

open Cases (CaseState Scope)
open Taxonomy (SignalFamily)
open Triage (Band)

/-! ## Tables -/

/-- Source `ForecastRun`. -/
structure ForecastRun where
  id : Uuid
  asOfDate : Date
  finishedAt : Option UtcInstant
  state : Text
  deriving DecidableEq

/-- Source `Portfolio`, with the checks its service makes of the two texts. -/
structure Portfolio where
  id : Uuid
  code : Text
  path : Text
  named : code ≠ [] ∧ path ≠ []
  deriving DecidableEq

/-- Source `Borrower`, with the checks its service makes of the two texts. -/
structure Borrower where
  id : Uuid
  reference : Text
  legalName : Text
  portfolioId : Uuid
  industryCode : Option Text
  named : reference ≠ [] ∧ legalName ≠ []
  deriving DecidableEq

/-- Source `TriageEntry`: the rank is a position in the ranking, in an integer column. -/
structure TriageEntry where
  id : Uuid
  runId : Uuid
  borrowerId : Uuid
  worstCovenantVersionId : Option Uuid
  worstHorizon : Option Int
  probability : Option Decimal
  confidence : Option Decimal
  exposure : Option Decimal
  urgency : Option Decimal
  band : Option Text
  smaBand : Option Text
  whatChanged : Option Text
  rank : Nat
  positive : 1 ≤ rank
  small : rank < 2 ^ 63

/-- Where an entry stands in its run. -/
def TriageEntry.position (entry : TriageEntry) : Nat ×ₗ Nat := toLex (entry.rank, entry.borrowerId.int)

/-- Source `Case`, the columns the queue shows. -/
structure CaseRow where
  id : Uuid
  borrowerId : Uuid
  state : CaseState
  assigneeId : Option Uuid
  reference : Text
  updatedAt : UtcInstant
  deriving DecidableEq

/-- Source `SignalEvent`, the columns the queue filters by. -/
structure SignalRow where
  borrowerId : Uuid
  family : Text
  deriving DecidableEq

/-- A ranked book: the tables the queue reads. A run ranks a borrower once, which is what
    `_unique_borrowers` checks of what is ranked. -/
structure Book where
  runs : KeyedTable ForecastRun.id
  entries : KeyedTable fun entry : TriageEntry => (entry.runId, entry.borrowerId)
  borrowers : KeyedTable Borrower.id
  portfolios : KeyedTable Portfolio.id
  cases : KeyedTable CaseRow.id
  signals : List SignalRow
  borrowerKnown : ∀ entry ∈ entries.rows, (borrowers.find entry.borrowerId).isSome
  portfolioKnown : ∀ borrower ∈ borrowers.rows, (portfolios.find borrower.portfolioId).isSome

/-! ## The statement -/

/-- Source `COMPLETE_RUN_STATE`. -/
def completeRunState : Text := "complete".toList

/-- An instant as a number, after the lack of one. -/
def instantKey : Option UtcInstant → Nat
  | none => 0
  | some instant => instant.date.toOrdinal * dayMicroseconds + instant.microsecond + 1

/-- Source `build_statement`, its `latest_complete_run`. -/
def latestRun (book : Book) : Option ForecastRun :=
  let ranked := book.runs.rows.filter fun run =>
    run.state == completeRunState && book.entries.rows.any fun entry => entry.runId == run.id
  maxBy (fun run : ForecastRun =>
    toLex (run.asOfDate.toOrdinal, toLex (instantKey run.finishedAt, run.id.int))) ranked

/-- Source `_latest_case_value`, the row whose column it reads. -/
def latestCase (book : Book) (borrowerId : Uuid) : Option CaseRow :=
  maxBy (fun case : CaseRow => toLex (instantKey (some case.updatedAt), case.id.int))
    (book.cases.rows.filter fun case => case.borrowerId == borrowerId)

/-- The portfolio of the borrower of an entry. -/
def portfolioOfEntry (book : Book) (entry : TriageEntry) : Option Portfolio := do
  let borrower ← book.borrowers.find entry.borrowerId
  book.portfolios.find borrower.portfolioId

/-- Source `_scope_exists`. -/
def scopeExists (book : Book) (scope : Scope) (entry : TriageEntry) : Bool :=
  (portfolioOfEntry book entry).any fun portfolio => scope.includes portfolio.path

/-- Source `_portfolio_matches`. -/
def portfolioMatches (book : Book) (value : PortfolioValue) (entry : TriageEntry) : Bool :=
  match value with
  | .uuid id => (book.borrowers.find entry.borrowerId).any fun borrower => borrower.portfolioId == id
  | .text written _ => (portfolioOfEntry book entry).any fun portfolio =>
      portfolio.code == written.text || portfolio.path == written.text

/-- Source `build_statement`, the condition on the state of the latest case. -/
def caseMatches (book : Book) (filter : CaseFilter) (entry : TriageEntry) : Bool :=
  match filter with
  | .none => (latestCase book entry.borrowerId).isNone
  | .state state => (latestCase book entry.borrowerId).any fun case => case.state == state

/-- Source `build_statement`, the conditions of `triage_join` but for the cursor's. -/
def joins (book : Book) (scope : Scope) (filters : QueueFilters) (run : ForecastRun)
    (entry : TriageEntry) : Bool :=
  entry.runId == run.id && scopeExists book scope entry &&
    filters.band.all (fun band => entry.band == some band.text) &&
    filters.smaBand.all (fun band => entry.smaBand == some band.value) &&
    filters.industry.all (fun industry =>
      (book.borrowers.find entry.borrowerId).any fun borrower =>
        borrower.industryCode == some industry.text) &&
    filters.portfolio.all (fun value => portfolioMatches book value entry) &&
    filters.caseState.all (fun filter => caseMatches book filter entry) &&
    filters.assignee.all (fun assignee =>
      (latestCase book entry.borrowerId).any fun case => case.assigneeId == some assignee) &&
    filters.signalFamily.all (fun family =>
      book.signals.any fun signal =>
        signal.borrowerId == entry.borrowerId && signal.family == family.value)

/-- Source `build_statement`, the condition of the cursor. -/
def isAfter (cursor : QueueCursor) (entry : TriageEntry) : Bool :=
  decide (cursor.rank < entry.rank ∨
    cursor.rank = entry.rank ∧ cursor.borrowerId.int < entry.borrowerId.int)

/-- A row of the statement: the run, and the entry the outer join found for it, if any. -/
structure QueueRow where
  run : ForecastRun
  entry : Option TriageEntry

/-- Source `build_statement`, executed: the outer join leaves one row without an entry where no
    entry matches. -/
def buildStatement (book : Book) (scope : Scope) (filters : QueueFilters)
    (cursor : Option QueueCursor) (limit : Option Nat) : List QueueRow :=
  match latestRun book with
  | none => []
  | some run =>
      let joined := book.entries.rows.filter fun entry =>
        joins book scope filters run entry && cursor.all fun cursor => isAfter cursor entry
      let ordered := joined.insertionSort fun a b => a.position ≤ b.position
      let rows : List QueueRow :=
        if ordered = [] then [⟨run, none⟩] else ordered.map fun entry => ⟨run, some entry⟩
      limit.elim rows rows.take

/-! ## Pages -/

/-- Source `QueueEntry`. -/
structure QueueEntry where
  triageEntryId : Uuid
  runId : Uuid
  borrowerId : Uuid
  borrowerReference : Text
  legalName : Text
  portfolioId : Uuid
  portfolioCode : Text
  portfolioPath : Text
  industryCode : Option Text
  worstCovenantVersionId : Option Uuid
  worstHorizon : Option Int
  probability : Option Decimal
  confidence : Option Decimal
  exposure : Option Decimal
  urgency : Option Decimal
  band : Text
  smaBand : Option Text
  whatChanged : Option Text
  rank : Nat
  caseState : Option CaseState
  assigneeId : Option Uuid
  caseReference : Option Text
  positive : 1 ≤ rank

/-- Where an entry stands in its run. -/
def QueueEntry.position (entry : QueueEntry) : Nat ×ₗ Nat := toLex (entry.rank, entry.borrowerId.int)

/-- Source `QueuePage`. -/
structure QueuePage where
  runId : Option Uuid
  asOfDate : Option Date
  entries : List QueueEntry
  nextCursor : Option Text
  emptyReason : Option Text

/-- Source `QueuePage.no_complete_run`. -/
def QueuePage.noCompleteRun : QueuePage := ⟨none, none, [], none, some "no_complete_run".toList⟩

/-- What a read of the queue raises. -/
inductive QueueError where
  | domain (error : DomainError)
  | python (error : PyError)
  | cursor (error : CursorError)
  deriving DecidableEq

/-- Source `RELOAD_REQUIRED_MESSAGE`, raised. -/
def reloadRequired : QueueError :=
  .domain (.conflict
    "This queue page is no longer current; reload the queue before continuing.".toList)

/-- Source `_required_text` and its siblings, on a column. -/
def required {α : Type} (field : String) (value : Option α) : Except QueueError α :=
  match value with
  | some value => .ok value
  | none => .error (.python (.valueError s!"Queue result field {field} is missing or invalid."))

/-- A text column, which must not be empty. -/
def text (value : Option Text) : Option Text := value.filter (· ≠ [])

/-- Source `_queue_entry`, on the entry of a row. -/
def queueEntry (book : Book) (entry : Option TriageEntry) : Except QueueError QueueEntry := do
  let entry ← required "'triage_entry_id'" entry
  let borrower := book.borrowers.find entry.borrowerId
  let portfolio := portfolioOfEntry book entry
  let case := latestCase book entry.borrowerId
  let reference ← required "'borrower_reference'" (text (borrower.map Borrower.reference))
  let legalName ← required "'legal_name'" (text (borrower.map Borrower.legalName))
  let portfolioId ← required "'portfolio_id'" (borrower.map Borrower.portfolioId)
  let code ← required "'portfolio_code'" (text (portfolio.map Portfolio.code))
  let path ← required "'portfolio_path'" (text (portfolio.map Portfolio.path))
  return {
    triageEntryId := entry.id
    runId := entry.runId
    borrowerId := entry.borrowerId
    borrowerReference := reference
    legalName := legalName
    portfolioId := portfolioId
    portfolioCode := code
    portfolioPath := path
    industryCode := borrower.bind Borrower.industryCode
    worstCovenantVersionId := entry.worstCovenantVersionId
    worstHorizon := entry.worstHorizon
    probability := entry.probability
    confidence := entry.confidence
    exposure := entry.exposure
    urgency := entry.urgency
    band := (text entry.band).getD "watch".toList
    smaBand := entry.smaBand
    whatChanged := entry.whatChanged
    rank := entry.rank
    caseState := case.map CaseRow.state
    assigneeId := case.bind CaseRow.assigneeId
    caseReference := case.map CaseRow.reference
    positive := entry.positive }

/-- A page size the repository accepts. -/
structure PageSize where
  size : Nat
  positive : 1 ≤ size
  bounded : size ≤ 200

/-- The escape of a character by `ensure_ascii=True`, a pair of surrogates past the basic plane. -/
def asciiEscape (c : Char) : Text :=
  if 32 ≤ c.toNat ∧ c.toNat < 127 then [c]
  else if c.toNat < 65536 then "\\u".toList ++ Text.hex 4 c.toNat
  else
    "\\u".toList ++ Text.hex 4 (55296 + (c.toNat - 65536) / 1024) ++
      ("\\u".toList ++ Text.hex 4 (56320 + (c.toNat - 65536) % 1024))

/-- Source `TriageRepository`: the secret of its cursors, and the two digests of the standard
    library. -/
structure TriageRepository where
  cursorSecret : List UInt8
  hmac : Hmac
  sha256 : List UInt8 → Digest256

/-- The cursor of a request: a token, or a cursor already decoded. -/
inductive CursorInput where
  | token (text : Text)
  | decoded (cursor : QueueCursor)

namespace TriageRepository

variable (repository : TriageRepository) (book : Book) (scope : Scope)

/-- Source `_filters_digest`. -/
def filtersDigest (filters : QueueFilters) : { text : Text // IsHexDigest text } :=
  let digest := repository.sha256
    (utf8 ((Json.dumps (.obj filters.toDict)).flatMap asciiEscape))
  ⟨digest.hexdigest, isHexDigest_hexdigest digest⟩

/-- Source `_decode_cursor`. -/
def decodeCursor : Option CursorInput → Except QueueError (Option QueueCursor)
  | none => .ok none
  | some (.decoded cursor) => .ok (some cursor)
  | some (.token text) =>
      match QueueCursor.decode repository.hmac repository.cursorSecret text with
      | .ok cursor => .ok (some cursor)
      | .error .attributeError => .error (.cursor .attributeError)
      | .error (.invalid _) =>
          .error (.domain (.validationError "Queue cursor is invalid; reload the queue." "cursor"))

/-- The page of rows that were found, the last of which may only say that there are more. -/
def pageOf (filters : QueueFilters) (size : Nat) (run : ForecastRun) (rows : List QueueRow) :
    Except QueueError QueuePage := do
  let entries ← (rows.take size).mapM fun row => queueEntry book row.entry
  let nextCursor : Option Text :=
    if size < rows.length then
      entries.getLast?.map fun last =>
        QueueCursor.encode repository.hmac repository.cursorSecret
          { runId := run.id
            rank := last.rank
            borrowerId := last.borrowerId
            filtersDigest := some (repository.filtersDigest filters)
            positive := last.positive }
    else none
  return ⟨some run.id, some run.asOfDate, entries, nextCursor, none⟩

/-- Source `TriageRepository.query`, from the decoded cursor on. -/
def pageFrom (filters : QueueFilters) (size : PageSize) (position : Option QueueCursor) :
    Except QueueError QueuePage :=
  let expected := repository.filtersDigest filters
  if position.any fun position => position.filtersDigest.any (· ≠ expected) then
    .error reloadRequired
  else
    match buildStatement book scope filters position (some (size.size + 1)) with
    | [] => if position.isSome then .error reloadRequired else .ok .noCompleteRun
    | first :: others =>
        if position.any fun position => position.runId ≠ first.run.id then .error reloadRequired
        else if first.entry.isNone then
          .ok ⟨some first.run.id, some first.run.asOfDate, [], none, none⟩
        else repository.pageOf book filters size.size first.run (first :: others)

/-- Source `TriageRepository.query`, on filters already merged and a page size already checked. -/
def query (filters : QueueFilters) (size : PageSize) (cursor : Option CursorInput) :
    Except QueueError QueuePage := do
  let position ← repository.decodeCursor cursor
  repository.pageFrom book scope filters size position

/-- Source `QueueSummary`. -/
structure QueueSummary where
  total : Nat
  act : Nat
  amber : Nat
  watch : Nat
  whatChanged : Nat
  exposureTotal : Option ℚ

/-- Source `summary`, its `meaningful_change`. -/
def meaningfulChange (row : QueueRow) : Bool :=
  (row.entry.bind TriageEntry.whatChanged).any fun changed =>
    !"no change".toList.isPrefixOf (Text.lower changed)

/-- The rows whose band column holds a text. -/
def countBand (rows : List QueueRow) (band : Band) : Nat :=
  rows.countP fun row => (row.entry.bind TriageEntry.band) == some band.text

/-- Source `TriageRepository.summary`. -/
def summary (filters : QueueFilters) : QueueSummary :=
  let rows := buildStatement book scope filters none none
  let exposures := rows.filterMap fun row => row.entry.bind TriageEntry.exposure
  { total := rows.countP fun row => row.entry.isSome
    act := countBand rows .act
    amber := countBand rows .amber
    watch := countBand rows .watch
    whatChanged := rows.countP meaningfulChange
    exposureTotal := if exposures = [] then none else some ((exposures.map Decimal.value).sum) }

end TriageRepository

end Queue

end CovenantRadar
