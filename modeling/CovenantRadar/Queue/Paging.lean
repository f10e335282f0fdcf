import CovenantRadar.Misc.Keyset
import CovenantRadar.Queue.Repository

/-!
# Reading the queue page by page

The statement lists the matching entries of the newest ranked run in the order of their positions,
and a cursor is the position of the last entry shown: the pages of the queue are the pages of that
list by key.
-/

namespace CovenantRadar

namespace Queue

open Cases (CaseState Scope)

/-! ## Which entries match -/

/-- Whether a portfolio is the one a filter names. -/
def PortfolioValue.Names (value : PortfolioValue) (portfolio : Portfolio) : Prop :=
  match value with
  | .uuid id => portfolio.id = id
  | .text written _ => portfolio.code = written.text ∨ portfolio.path = written.text

/-- Whether the state of a borrower's latest case, if it has one, is the one a filter asks for. -/
def CaseFilter.Accepts (filter : CaseFilter) (state : Option CaseState) : Prop :=
  match filter with
  | .none => state = Option.none
  | .state known => state = some known

/-- An entry of the newest ranked run, inside the scope, that every filter accepts. -/
def Matches (book : Book) (scope : Scope) (filters : QueueFilters) (entry : TriageEntry) : Prop :=
  ∃ run borrower portfolio, latestRun book = some run ∧ entry.runId = run.id ∧
    book.borrowers.find entry.borrowerId = some borrower ∧
    book.portfolios.find borrower.portfolioId = some portfolio ∧
    scope.includes portfolio.path = true ∧
    (∀ band ∈ filters.band, entry.band = some band.text) ∧
    (∀ band ∈ filters.smaBand, entry.smaBand = some band.value) ∧
    (∀ industry ∈ filters.industry, borrower.industryCode = some industry.text) ∧
    (∀ value ∈ filters.portfolio, value.Names portfolio) ∧
    (∀ filter ∈ filters.caseState,
      filter.Accepts ((latestCase book entry.borrowerId).map CaseRow.state)) ∧
    (∀ assignee ∈ filters.assignee,
      (latestCase book entry.borrowerId).bind CaseRow.assigneeId = some assignee) ∧
    (∀ family ∈ filters.signalFamily, ∃ signal ∈ book.signals,
      signal.borrowerId = entry.borrowerId ∧ signal.family = family.value)

variable {book : Book} {scope : Scope} {filters : QueueFilters}

/-- The borrower of an entry and its portfolio, which the foreign keys promise. -/
theorem borrower_of_entry {entry : TriageEntry} (listed : entry ∈ book.entries.rows) :
    ∃ borrower portfolio, book.borrowers.find entry.borrowerId = some borrower ∧
      book.portfolios.find borrower.portfolioId = some portfolio ∧ portfolio.id = borrower.portfolioId := by
  obtain ⟨borrower, found⟩ := Option.isSome_iff_exists.mp (book.borrowerKnown entry listed)
  have known := (KeyedTable.find_eq_some_iff.mp found).1
  obtain ⟨portfolio, found'⟩ := Option.isSome_iff_exists.mp (book.portfolioKnown borrower known)
  exact ⟨borrower, portfolio, found, found', (KeyedTable.find_eq_some_iff.mp found').2⟩

/-- The statement joins the entries that match. -/
theorem joins_iff {run : ForecastRun} {entry : TriageEntry} (latest : latestRun book = some run)
    (listed : entry ∈ book.entries.rows) :
    joins book scope filters run entry = true ↔ Matches book scope filters entry := by
  obtain ⟨borrower, portfolio, found, found', same⟩ := borrower_of_entry listed
  have place : portfolioOfEntry book entry = some portfolio := by
    simp [portfolioOfEntry, found, found']
  have names : ∀ value, portfolioMatches book value entry = true ↔ value.Names portfolio := by
    intro value
    cases value with
    | uuid id => simp [portfolioMatches, PortfolioValue.Names, found, same]
    | text written named => simp [portfolioMatches, PortfolioValue.Names, place]
  have accepts : ∀ filter, caseMatches book filter entry = true ↔
      filter.Accepts ((latestCase book entry.borrowerId).map CaseRow.state) := by
    intro filter
    cases filter with
    | none => simp [caseMatches, CaseFilter.Accepts]
    | state known =>
      cases latest' : latestCase book entry.borrowerId <;>
        simp [caseMatches, CaseFilter.Accepts, latest']
  have assigned : ∀ assignee, ((latestCase book entry.borrowerId).any fun case =>
      case.assigneeId == some assignee) = true ↔
      (latestCase book entry.borrowerId).bind CaseRow.assigneeId = some assignee := by
    intro assignee
    cases latestCase book entry.borrowerId <;> simp
  constructor
  · intro joined
    simp only [joins, scopeExists, place, found, Option.any_some, Bool.and_eq_true, beq_iff_eq,
      Option.all_eq_true, names, accepts, assigned, List.any_eq_true] at joined
    obtain ⟨⟨⟨⟨⟨⟨⟨⟨sameRun, inScope⟩, band⟩, sma⟩, industry⟩, portfolio'⟩, case⟩, assignee⟩, family⟩ :=
      joined
    exact ⟨run, borrower, portfolio, latest, sameRun, found, found', inScope, band, sma, industry,
      portfolio', case, assignee, family⟩
  · rintro ⟨run', borrower', portfolio', latest', sameRun, found₁, found₂, inScope, band, sma,
      industry, portfolio'', case, assignee, family⟩
    cases latest.symm.trans latest'
    cases found.symm.trans found₁
    cases found'.symm.trans found₂
    simp only [joins, scopeExists, place, found, Option.any_some, Bool.and_eq_true, beq_iff_eq,
      Option.all_eq_true, names, accepts, assigned, List.any_eq_true]
    exact ⟨⟨⟨⟨⟨⟨⟨⟨sameRun, inScope⟩, band⟩, sma⟩, industry⟩, portfolio''⟩, case⟩, assignee⟩, family⟩

/-! ## The ordered entries -/

/-- The entries of a run that a scope and filters leave, in the order of their positions. -/
def ordered (book : Book) (scope : Scope) (filters : QueueFilters) (run : ForecastRun) :
    List TriageEntry :=
  (book.entries.rows.filter fun entry => joins book scope filters run entry).insertionSort
    fun a b => a.position ≤ b.position

theorem mem_ordered {run : ForecastRun} {entry : TriageEntry} :
    entry ∈ ordered book scope filters run ↔
      entry ∈ book.entries.rows ∧ joins book scope filters run entry = true := by
  unfold ordered
  rw [List.mem_insertionSort, List.mem_filter]

theorem runId_of_joins {run : ForecastRun} {entry : TriageEntry}
    (joined : joins book scope filters run entry = true) : entry.runId = run.id := by
  simp only [joins, Bool.and_eq_true, beq_iff_eq] at joined
  obtain ⟨⟨⟨⟨⟨⟨⟨⟨sameRun, _⟩, _⟩, _⟩, _⟩, _⟩, _⟩, _⟩, _⟩ := joined
  exact sameRun

/-- Two entries of one run do not stand in one place: a run ranks a borrower once. -/
theorem position_injective {a b : TriageEntry} (listedA : a ∈ book.entries.rows)
    (listedB : b ∈ book.entries.rows) (sameRun : a.runId = b.runId)
    (samePosition : a.position = b.position) : a = b := by
  have places : (a.rank, a.borrowerId.int) = (b.rank, b.borrowerId.int) := toLex.injective samePosition
  have borrower : a.borrowerId = b.borrowerId := Uuid.ext (Prod.mk.inj places).2
  have found := KeyedTable.find_of_mem listedA
  rw [sameRun, borrower, KeyedTable.find_of_mem listedB] at found
  exact (Option.some.inj found).symm

theorem sorted_ordered (run : ForecastRun) :
    (ordered book scope filters run).Pairwise fun a b => a.position < b.position := by
  have total : Std.Total (fun a b : TriageEntry => a.position ≤ b.position) :=
    ⟨fun a b => le_total a.position b.position⟩
  have transitive : IsTrans TriageEntry (fun a b => a.position ≤ b.position) :=
    ⟨fun _ _ _ => le_trans⟩
  have weak : (ordered book scope filters run).Pairwise fun a b => a.position ≤ b.position :=
    List.pairwise_insertionSort _ _
  have distinct : (ordered book scope filters run).Nodup := by
    have rows : book.entries.rows.Nodup := book.entries.distinct.of_map
    exact ((List.perm_insertionSort _ _).nodup_iff).mpr (rows.filter _)
  refine (weak.and distinct).imp_of_mem fun {a b} listedA listedB ⟨before, differ⟩ => ?_
  obtain ⟨rowA, joinedA⟩ := mem_ordered.mp listedA
  obtain ⟨rowB, joinedB⟩ := mem_ordered.mp listedB
  refine lt_of_le_of_ne before fun samePosition => differ ?_
  exact position_injective rowA rowB ((runId_of_joins joinedA).trans (runId_of_joins joinedB).symm)
    samePosition

/-- The position a cursor stands for. -/
def QueueCursor.position (cursor : QueueCursor) : Nat ×ₗ Nat :=
  toLex (cursor.rank, cursor.borrowerId.int)

/-- The condition of the cursor is the order of the positions. -/
theorem isAfter_iff (cursor : QueueCursor) (entry : TriageEntry) :
    isAfter cursor entry = decide (cursor.position < entry.position) := by
  unfold isAfter QueueCursor.position TriageEntry.position
  simp only [Prod.Lex.toLex_lt_toLex]

/-- The rows of the statement: the entries after the cursor, or one row without an entry. -/
def rowsOf (run : ForecastRun) (entries : List TriageEntry) : List QueueRow :=
  if entries = [] then [⟨run, none⟩] else entries.map fun entry => ⟨run, some entry⟩

theorem buildStatement_eq {run : ForecastRun} (latest : latestRun book = some run)
    (cursor : Option QueueCursor) (limit : Option Nat) :
    buildStatement book scope filters cursor limit =
      let rows := rowsOf run (Keyset.itemsAfter TriageEntry.position
        (cursor.map QueueCursor.position) (ordered book scope filters run))
      limit.elim rows rows.take := by
  have total : Std.Total (fun a b : TriageEntry => a.position ≤ b.position) :=
    ⟨fun a b => le_total a.position b.position⟩
  have transitive : IsTrans TriageEntry (fun a b => a.position ≤ b.position) :=
    ⟨fun _ _ _ => le_trans⟩
  have conditions : (fun entry => joins book scope filters run entry &&
      cursor.all fun cursor => isAfter cursor entry) =
      fun entry => (cursor.map QueueCursor.position).all (fun last => decide (last < entry.position)) &&
        joins book scope filters run entry := by
    funext entry
    cases cursor with
    | none => simp
    | some cursor => simp [isAfter_iff, Bool.and_comm]
  unfold buildStatement
  rw [latest]
  simp only [conditions]
  rw [← List.filter_filter, ← filter_insertionSort]
  rfl

/-! ## One page -/

/-- An entry of the book is shown, in its place and of its run. -/
theorem queueEntry_ok {entry : TriageEntry} (listed : entry ∈ book.entries.rows) :
    ∃ shown, queueEntry book (some entry) = .ok shown ∧ shown.runId = entry.runId ∧
      shown.rank = entry.rank ∧ shown.borrowerId = entry.borrowerId := by
  obtain ⟨borrower, portfolio, found, found', _⟩ := borrower_of_entry listed
  have place : portfolioOfEntry book entry = some portfolio := by
    simp [portfolioOfEntry, found, found']
  have texts : text (some borrower.reference) = some borrower.reference ∧
      text (some borrower.legalName) = some borrower.legalName ∧
      text (some portfolio.code) = some portfolio.code ∧
      text (some portfolio.path) = some portfolio.path := by
    simp [text, borrower.named, portfolio.named]
  obtain ⟨reference, legalName, code, path⟩ := texts
  have step {α β : Type} (a : α) (f : α → Except QueueError β) : (Except.ok a >>= f) = f a := rfl
  have some' {α : Type} (field : String) (a : α) : required field (some a) = .ok a := rfl
  unfold queueEntry
  simp only [some', step, found, place, Option.map_some, reference, legalName, code, path]
  exact ⟨_, rfl, rfl, rfl, rfl⟩

/-- The last of two lists in step are in step. -/
theorem getLast?_of_forall₂ {α β : Type} {R : α → β → Prop} {xs : List α} {ys : List β}
    (pairs : List.Forall₂ R xs ys) {x : α} (last : xs.getLast? = some x) :
    ∃ y, ys.getLast? = some y ∧ R x y := by
  induction pairs with
  | nil => cases last
  | @cons a b as bs head rest ih =>
    cases rest with
    | nil =>
      cases last
      exact ⟨b, rfl, head⟩
    | cons _ _ =>
      rw [List.getLast?_cons_cons] at last ⊢
      exact ih last

/-- A cursor that names the run and the filters, and a position in their order. -/
def Reads (repository : TriageRepository) (filters : QueueFilters) (run : ForecastRun)
    (input : Option CursorInput) (position : Option (Nat ×ₗ Nat)) : Prop :=
  ∃ cursor : Option QueueCursor, repository.decodeCursor input = .ok cursor ∧
    cursor.map QueueCursor.position = position ∧
    ∀ c ∈ cursor, c.runId = run.id ∧ c.filtersDigest = some (repository.filtersDigest filters)

variable {repository : TriageRepository} {size : PageSize}

/-- The page of rows that were found: an entry for each but a row that only says there are more,
    and the cursor of the last one shown. -/
theorem pageOf_ok {run : ForecastRun} {left : List TriageEntry}
    (listed : ∀ entry ∈ left, entry ∈ book.entries.rows) :
    ∃ page, repository.pageOf book filters size.size run
        ((left.map fun entry => (⟨run, some entry⟩ : QueueRow)).take (size.size + 1)) = .ok page ∧
      List.Forall₂ (fun entry shown => queueEntry book (some entry) = .ok shown)
        (left.take size.size) page.entries ∧
      page.nextCursor = if size.size < left.length then
        page.entries.getLast?.map fun last =>
          QueueCursor.encode repository.hmac repository.cursorSecret
            ⟨run.id, last.rank, last.borrowerId, some (repository.filtersDigest filters),
              last.positive⟩
      else none := by
  have returns : ∃ shown, (left.take size.size).mapM (fun entry => queueEntry book (some entry)) =
      .ok shown := by
    rw [mapM_returns_iff]
    intro entry member
    obtain ⟨shown, read, _⟩ := queueEntry_ok (listed entry (List.mem_of_mem_take member))
    exact ⟨shown, read⟩
  obtain ⟨shown, read⟩ := returns
  have front : ((left.map fun entry => (⟨run, some entry⟩ : QueueRow)).take (size.size + 1)).take
      size.size = (left.take size.size).map fun entry => ⟨run, some entry⟩ := by
    rw [List.take_take, min_eq_left (by omega), List.map_take]
  have found : (((left.map fun entry => (⟨run, some entry⟩ : QueueRow)).take
      (size.size + 1)).take size.size).mapM (fun row => queueEntry book row.entry) = .ok shown := by
    rw [front, List.mapM_map]
    exact read
  have more : size.size < ((left.map fun entry => (⟨run, some entry⟩ : QueueRow)).take
      (size.size + 1)).length ↔ size.size < left.length := by
    rw [List.length_take, List.length_map]
    omega
  unfold TriageRepository.pageOf
  rw [found]
  refine ⟨_, rfl, mapM_eq_ok_iff.mp read, ?_⟩
  simp only [more]

theorem decodeCursor_token {token : Text} {cursor : QueueCursor}
    (decoded : QueueCursor.decode repository.hmac repository.cursorSecret token = .ok cursor) :
    repository.decodeCursor (some (.token token)) = .ok (some cursor) := by
  simp [TriageRepository.decodeCursor, decoded]

/-- A read with such a cursor shows the page of its position, and its own cursor names the next
    one. -/
theorem query_page {run : ForecastRun} (latest : latestRun book = some run)
    {input : Option CursorInput} {position : Option (Nat ×ₗ Nat)}
    (reads : Reads repository filters run input position) :
    ∃ page, repository.query book scope filters size input = .ok page ∧
      List.Forall₂ (fun entry shown => queueEntry book (some entry) = .ok shown)
        (Keyset.page TriageEntry.position size.size (ordered book scope filters run) position).1
        page.entries ∧
      (∀ next, (Keyset.page TriageEntry.position size.size (ordered book scope filters run)
        position).2 = some next → ∃ token, page.nextCursor = some token ∧
          Reads repository filters run (some (.token token)) (some next)) ∧
      ((Keyset.page TriageEntry.position size.size (ordered book scope filters run)
        position).2 = none → page.nextCursor = none) := by
  obtain ⟨cursor, decoded, rfl, bound⟩ := reads
  have rows := @buildStatement_eq _ scope filters _ latest cursor (some (size.size + 1))
  have sameDigest : (cursor.any fun c =>
      c.filtersDigest.any (· ≠ repository.filtersDigest filters)) = false := by
    cases cursor with
    | none => rfl
    | some c => simp [(bound c rfl).2]
  have sameRun : (cursor.any fun c => decide (c.runId ≠ run.id)) = false := by
    cases cursor with
    | none => rfl
    | some c => simp [(bound c rfl).1]
  have query : repository.query book scope filters size input =
      repository.pageFrom book scope filters size cursor := by
    unfold TriageRepository.query
    rw [decoded]
    rfl
  have listed : ∀ entry ∈ Keyset.itemsAfter TriageEntry.position (cursor.map QueueCursor.position)
      (ordered book scope filters run), entry ∈ book.entries.rows := fun entry member =>
    (mem_ordered.mp (List.mem_of_mem_filter member)).1
  rw [query]
  unfold TriageRepository.pageFrom Keyset.page
  simp only
  rw [if_neg (by rw [sameDigest]; decide), rows]
  generalize Keyset.itemsAfter TriageEntry.position (cursor.map QueueCursor.position)
    (ordered book scope filters run) = left at listed
  cases left with
  | nil =>
    refine ⟨⟨some run.id, some run.asOfDate, [], none, none⟩, ?_, ?_, ?_, fun _ => rfl⟩
    · have shown : ¬ (cursor.any fun c => decide (c.runId ≠ run.id)) = true := by
        rw [sameRun]
        decide
      exact if_neg shown
    · rw [List.take_nil]
      exact List.Forall₂.nil
    · intro next more
      cases more
  | cons entry left =>
    have shown : ¬ (cursor.any fun c => decide (c.runId ≠ run.id)) = true := by
      rw [sameRun]
      decide
    obtain ⟨page, read, entries, nextCursor⟩ := @pageOf_ok book filters repository
      size run _ listed
    refine ⟨page, ?_, entries, ?_, ?_⟩
    · exact (if_neg shown).trans read
    · intro next more
      split_ifs at more with longer
      obtain ⟨lastEntry, isLast, rfl⟩ := Option.map_eq_some_iff.mp more
      obtain ⟨last, isLast', shown'⟩ := getLast?_of_forall₂ entries isLast
      have inBook := listed lastEntry (List.mem_of_mem_take (List.mem_of_getLast? isLast))
      obtain ⟨other, shown'', _, rank, borrower⟩ := queueEntry_ok inBook
      cases shown'.symm.trans shown''
      rw [if_pos longer, isLast', Option.map_some] at nextCursor
      refine ⟨_, nextCursor, some ⟨run.id, last.rank, last.borrowerId,
        some (repository.filtersDigest filters), last.positive⟩, ?_, ?_, ?_⟩
      · have small : last.rank < 10 ^ 19 := by
          have := lastEntry.small
          rw [rank]
          omega
        exact decodeCursor_token (QueueCursor.decode_encode _ _ small)
      · have position : toLex (last.rank, last.borrowerId.int) = lastEntry.position := by
          rw [TriageEntry.position, rank, borrower]
        exact congrArg some position
      · intro c same
        cases same
        exact ⟨rfl, rfl⟩
    · intro stops
      split_ifs at stops with longer
      · have nonempty : (entry :: left).take size.size ≠ [] := by
          rw [← List.length_pos_iff, List.length_take]
          have := size.positive
          omega
        rw [List.getLast?_eq_some_getLast nonempty] at stops
        cases stops
      · rw [nextCursor, if_neg longer]

/-! ## Following the cursors -/

/-- The pages read from a cursor on, each with the cursor the one before it returned, up to the
    first that returns none. -/
inductive Followed (repository : TriageRepository) (book : Book) (scope : Scope)
    (filters : QueueFilters) (size : PageSize) : Option CursorInput → List QueuePage → Prop
  | last {cursor : Option CursorInput} {page : QueuePage}
      (read : repository.query book scope filters size cursor = .ok page)
      (stops : page.nextCursor = none) :
      Followed repository book scope filters size cursor [page]
  | more {cursor : Option CursorInput} {page : QueuePage} {token : Text} {rest : List QueuePage}
      (read : repository.query book scope filters size cursor = .ok page)
      (goesOn : page.nextCursor = some token)
      (followed : Followed repository book scope filters size (some (.token token)) rest) :
      Followed repository book scope filters size cursor (page :: rest)

/-- What following the cursors reads is determined. -/
theorem Followed.unique {cursor : Option CursorInput} {pages others : List QueuePage}
    (followed : Followed repository book scope filters size cursor pages)
    (other : Followed repository book scope filters size cursor others) : pages = others := by
  induction followed generalizing others with
  | last read stops =>
    cases other with
    | last read' _ =>
      cases read.symm.trans read'
      rfl
    | more read' goesOn _ =>
      cases read.symm.trans read'
      rw [stops] at goesOn
      cases goesOn
  | more read goesOn _ ih =>
    cases other with
    | last read' stops =>
      cases read.symm.trans read'
      rw [stops] at goesOn
      cases goesOn
    | more read' goesOn' followed' =>
      cases read.symm.trans read'
      cases goesOn.symm.trans goesOn'
      rw [ih followed']

/-- The entries that pages show. -/
def visited (pages : List QueuePage) : List QueueEntry := pages.flatMap QueuePage.entries

/-- The repository's pages are the pages by key of the ordered entries. -/
theorem followed_of_keyset {run : ForecastRun} (latest : latestRun book = some run)
    {position : Option (Nat ×ₗ Nat)} {keyset : List (List TriageEntry)}
    (followed : Keyset.Followed TriageEntry.position size.size (ordered book scope filters run)
      position keyset) {input : Option CursorInput}
    (reads : Reads repository filters run input position) :
    ∃ pages, Followed repository book scope filters size input pages ∧
      List.Forall₂ (fun entry shown => queueEntry book (some entry) = .ok shown) keyset.flatten
        (visited pages) := by
  induction followed generalizing input with
  | last stops =>
    obtain ⟨page, read, entries, _, ends⟩ := @query_page _ scope _ _ size _ latest _ _ reads
    refine ⟨[page], .last read (ends stops), ?_⟩
    simpa [visited] using entries
  | more goesOn _ ih =>
    obtain ⟨page, read, entries, next, _⟩ := @query_page _ scope _ _ size _ latest _ _ reads
    obtain ⟨token, cursor, reads'⟩ := next _ goesOn
    obtain ⟨rest, followed', entries'⟩ := ih reads'
    refine ⟨page :: rest, .more read cursor followed', ?_⟩
    rw [List.flatten_cons, visited, List.flatMap_cons]
    exact List.rel_append entries entries'

/-- Where every listed entry is shown as it stands. -/
theorem pairwise_visited {entries : List TriageEntry} {shown : List QueueEntry}
    (listed : ∀ entry ∈ entries, entry ∈ book.entries.rows)
    (pairs : List.Forall₂ (fun entry shown => queueEntry book (some entry) = .ok shown) entries shown)
    (sorted : entries.Pairwise fun a b => a.position < b.position) :
    shown.Pairwise fun a b => a.position < b.position := by
  have same : entries.map TriageEntry.position = shown.map QueueEntry.position := by
    induction pairs with
    | nil => rfl
    | @cons entry q entries shown head rest ih =>
      obtain ⟨other, read, _, rank, borrower⟩ := queueEntry_ok (listed entry List.mem_cons_self)
      cases head.symm.trans read
      rw [List.map_cons, List.map_cons, ih (fun e member => listed e (List.mem_cons_of_mem _ member))
        (List.Pairwise.of_cons sorted), TriageEntry.position, QueueEntry.position, rank, borrower]
  rw [← List.pairwise_map, same, List.pairwise_map] at sorted
  exact sorted

theorem runId_of_queueEntry {entry : Option TriageEntry} {shown : QueueEntry}
    (read : queueEntry book entry = .ok shown) : ∃ e ∈ entry, shown.runId = e.runId := by
  cases entry with
  | none => cases read
  | some entry =>
    refine ⟨entry, rfl, ?_⟩
    simp only [queueEntry, required, Except.bind_eq_ok_iff] at read
    obtain ⟨e, same, reference, _, legalName, _, portfolioId, _, code, _, path, _, made⟩ := read
    cases same
    cases made
    rfl

/-- The rows of the statement are of the newest ranked run. -/
theorem run_of_row {cursor : Option QueueCursor} {limit : Option Nat} {row : QueueRow}
    (member : row ∈ buildStatement book scope filters cursor limit) :
    latestRun book = some row.run ∧ ∀ entry ∈ row.entry, entry.runId = row.run.id := by
  cases latest : latestRun book with
  | none =>
    unfold buildStatement at member
    rw [latest] at member
    cases member
  | some run =>
    rw [buildStatement_eq latest] at member
    have inRows : row ∈ rowsOf run (Keyset.itemsAfter TriageEntry.position
        (cursor.map QueueCursor.position) (ordered book scope filters run)) := by
      cases limit with
      | none => exact member
      | some limit => exact List.mem_of_mem_take member
    unfold rowsOf at inRows
    split_ifs at inRows with empty
    · rw [List.mem_singleton.mp inRows]
      exact ⟨rfl, fun entry none => by cases none⟩
    · obtain ⟨entry, kept, rfl⟩ := List.mem_map.mp inRows
      refine ⟨rfl, fun other same => ?_⟩
      cases same
      exact runId_of_joins (mem_ordered.mp (List.mem_of_mem_filter kept)).2

/-- A page shows the entries of its own run, and answers only a cursor of that run. -/
theorem pageFrom_same_run {position : Option QueueCursor} {page : QueuePage}
    (read : repository.pageFrom book scope filters size position = .ok page) :
    (∀ shown ∈ page.entries, some shown.runId = page.runId) ∧
      ∀ cursor ∈ position, page.runId = some cursor.runId := by
  unfold TriageRepository.pageFrom at read
  simp only at read
  split at read
  · cases read
  have rows := fun row => @run_of_row book scope filters position
    (some (size.size + 1)) row
  split at read
  · split_ifs at read with resumed
    cases read
    refine ⟨fun shown member => absurd member List.not_mem_nil, fun cursor present => ?_⟩
    rw [Option.mem_def] at present
    rw [present] at resumed
    exact absurd rfl resumed
  · next first others found =>
    split_ifs at read with otherRun noEntry
    · cases read
      refine ⟨fun shown member => absurd member List.not_mem_nil, fun cursor present => ?_⟩
      rw [Option.mem_def] at present
      rw [present] at otherRun
      simp only [Option.any_some, decide_eq_true_eq, ne_eq, not_not] at otherRun
      rw [otherRun]
    · unfold TriageRepository.pageOf at read
      obtain ⟨entries, listed, read⟩ := Except.bind_eq_ok_iff.mp read
      cases read
      refine ⟨fun shown member => ?_, fun cursor present => ?_⟩
      · obtain ⟨row, inFront, shown'⟩ := (forall₂_exists (mapM_eq_ok_iff.mp listed)).2 shown member
        have inRows := List.mem_of_mem_take inFront
        rw [← found] at inRows
        have firstRow : first ∈ buildStatement book scope filters position (some (size.size + 1)) := by
          rw [found]
          exact List.mem_cons_self
        obtain ⟨latest, sameRun⟩ := rows row inRows
        have same := (rows first firstRow).1.symm.trans latest
        obtain ⟨entry, present, shownRun⟩ := runId_of_queueEntry shown'
        rw [shownRun, sameRun entry present, Option.some.inj same]
      · rw [Option.mem_def] at present
        rw [present] at otherRun
        simp only [Option.any_some, decide_eq_true_eq, ne_eq, not_not] at otherRun
        rw [otherRun]

/-- A cursor of another run than the newest ranked one is refused. -/
theorem query_other_run {input : Option CursorInput} {cursor : QueueCursor}
    (decoded : repository.decodeCursor input = .ok (some cursor))
    (other : (latestRun book).map ForecastRun.id ≠ some cursor.runId) :
    repository.query book scope filters size input = .error reloadRequired := by
  have query : repository.query book scope filters size input =
      repository.pageFrom book scope filters size (some cursor) := by
    unfold TriageRepository.query
    rw [decoded]
    rfl
  rw [query]
  unfold TriageRepository.pageFrom
  simp only
  split
  · rfl
  · split
    · rfl
    · next first others found =>
      have firstRow : first ∈ buildStatement book scope filters (some cursor)
          (some (size.size + 1)) := by
        rw [found]
        exact List.mem_cons_self
      have latest := (run_of_row firstRow).1
      rw [latest] at other
      have differs : cursor.runId ≠ first.run.id := fun same => other (by rw [same]; rfl)
      exact if_pos (by simpa using differs)

/-- The summary counts the ordered entries. -/
theorem summary_total {run : ForecastRun} (latest : latestRun book = some run) :
    (TriageRepository.summary book scope filters).total = (ordered book scope filters run).length := by
  have rows := @buildStatement_eq _ scope filters _ latest none none
  unfold TriageRepository.summary
  simp only [rows, Option.map_none, Keyset.itemsAfter_none, Option.elim_none]
  unfold rowsOf
  split_ifs with empty
  · rw [empty]
    rfl
  · rw [List.countP_map, List.countP_eq_length]
    simp

/-- Following the cursors from the first page shows every matching entry once, in the order of rank
    and borrower, and ends; the pages are of one run, a cursor of another run is refused, and the
    summary counts what is shown. -/
theorem pages_show_matching (repository : TriageRepository) (book : Book) (scope : Scope)
    (filters : QueueFilters) (size : PageSize) :
    (∃ pages, Followed repository book scope filters size none pages ∧
      (∀ others, Followed repository book scope filters size none others → others = pages) ∧
      ((visited pages).Pairwise fun a b => a.position < b.position) ∧
      (∀ shown, shown ∈ visited pages ↔ ∃ entry ∈ book.entries.rows,
        Matches book scope filters entry ∧ queueEntry book (some entry) = .ok shown) ∧
      (TriageRepository.summary book scope filters).total = (visited pages).length) ∧
    (∀ input page, repository.query book scope filters size input = .ok page →
      (∀ shown ∈ page.entries, some shown.runId = page.runId) ∧
      ∀ cursor, repository.decodeCursor input = .ok (some cursor) →
        page.runId = some cursor.runId) ∧
    (∀ input cursor, repository.decodeCursor input = .ok (some cursor) →
      (latestRun book).map ForecastRun.id ≠ some cursor.runId →
      repository.query book scope filters size input = .error reloadRequired) := by
  refine ⟨?_, ?_, fun input cursor decoded other => query_other_run decoded other⟩
  · cases latest : latestRun book with
    | none =>
      have read : repository.query book scope filters size none = .ok .noCompleteRun := by
        unfold TriageRepository.query TriageRepository.pageFrom buildStatement
        rw [latest]
        rfl
      have followed : Followed repository book scope filters size none [.noCompleteRun] :=
        .last read rfl
      refine ⟨_, followed, fun others other => other.unique followed, List.Pairwise.nil, ?_, ?_⟩
      · intro shown
        constructor
        · intro member
          cases member
        · rintro ⟨entry, _, ⟨run, _, _, latest', _⟩, _⟩
          rw [latest] at latest'
          cases latest'
      · unfold TriageRepository.summary buildStatement
        rw [latest]
        rfl
    | some run =>
      obtain ⟨keyset, followed, shownAll⟩ := Keyset.exists_followed size.positive
        (@sorted_ordered book scope filters run)
      have start : Reads repository filters run none none :=
        ⟨none, rfl, rfl, fun c none => by cases none⟩
      obtain ⟨pages, followed', entries⟩ := followed_of_keyset latest followed start
      rw [shownAll] at entries
      have listed : ∀ entry ∈ ordered book scope filters run, entry ∈ book.entries.rows :=
        fun entry member => (mem_ordered.mp member).1
      refine ⟨pages, followed', fun others other => other.unique followed',
        pairwise_visited listed entries (sorted_ordered run), ?_, ?_⟩
      · intro shown
        constructor
        · intro member
          obtain ⟨entry, inOrder, read⟩ := (forall₂_exists entries).2 shown member
          obtain ⟨inBook, joined⟩ := mem_ordered.mp inOrder
          exact ⟨entry, inBook, (joins_iff latest inBook).mp joined, read⟩
        · rintro ⟨entry, inBook, matched, read⟩
          have inOrder := mem_ordered.mpr ⟨inBook, (joins_iff latest inBook).mpr matched⟩
          obtain ⟨other, member, read'⟩ := (forall₂_exists entries).1 entry inOrder
          cases read.symm.trans read'
          exact member
      · rw [summary_total latest, entries.length_eq]
  · intro input page read
    obtain ⟨position, decoded, read⟩ := Except.bind_eq_ok_iff.mp read
    obtain ⟨ofRun, ofCursor⟩ := pageFrom_same_run read
    refine ⟨ofRun, fun cursor decoded' => ?_⟩
    cases decoded.symm.trans decoded'
    exact ofCursor cursor rfl

end Queue

end CovenantRadar
