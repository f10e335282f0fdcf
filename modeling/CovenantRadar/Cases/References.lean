import CovenantRadar.Cases.Histories
import CovenantRadar.Cases.Numbering

/-!
# Case references

The references that the case service mints over a run of its calls, and those that the nightly case
step mints: when they are new and short enough for the column.
-/

namespace CovenantRadar

namespace Cases

open Security

/-- The borrower and the reference of every case, in the order of the table. -/
def mintedIn (book : CaseBook) : List (Uuid × Text) :=
  book.cases.rows.map fun row => (row.borrowerId, row.reference)

/-- A reference that a call mints, before the case is inserted. -/
structure Mint where
  borrowerId : Uuid
  reference : Text
  deriving DecidableEq

namespace Call

/-- The borrower for whom `open_or_update` comes to open a case, as it decides before it mints the
    reference: authorised, in scope, without an open case, with an assignee and a deadline. -/
def opens (service : CaseService) (book : CaseBook) : Call → Option Borrower
  | openOrUpdate directory principal source assigneeId scope instant _ =>
    match service.authorizedContext principal scope .updateCase with
    | .error _ => none
    | .ok scope =>
      match CaseService.triageDetails directory scope source with
      | .error _ => none
      | .ok details =>
        if details.band = .watch then none
        else
          match CaseBook.lockBorrower directory scope details.borrowerId with
          | none => none
          | some borrower =>
            match CaseBook.openCasesForBorrower directory scope book borrower.id with
            | [] =>
              if (service.assignment directory borrower details.band assigneeId).toOption.isSome &&
                  (deriveSla details.band instant service.slaThresholds
                    service.calendar).toOption.isSome then
                some borrower
              else none
            | _ => none
  | _ => none

/-- The borrower for whom the nightly step with one triage row comes to open a case. -/
def opensNightly (book : CaseBook) : Call → Option Uuid
  | updateCases _ _ [nightly] =>
    if nightly.entry.band = .act ∧ ¬ book.cases.rows.any fun case =>
        case.borrowerId = nightly.entry.borrowerId && case.state != .closed then
      some nightly.entry.borrowerId
    else none
  | _ => none

/-- The reference a call mints, if it comes to open a case. -/
def mint (service : CaseService) (book : CaseBook) (call : Call) : Option Mint :=
  match call.opens service book with
  | some borrower => some ⟨borrower.id,
      nextReference (referenceBase borrower) (book.referencesForBorrower borrower.id)⟩
  | none => (call.opensNightly book).map fun id =>
      ⟨id, nightlyReference id ((book.referencesForBorrower id).length + 1)⟩

/-- A nightly step with many triage rows is that many nightly steps with one. -/
def single : Call → List Call
  | updateCases assigneeId instant entries =>
    entries.map fun nightly => updateCases assigneeId instant [nightly]
  | call => [call]

end Call

/-- A reference minted at a call is new, and fits its column. -/
def MintsNew (service : CaseService) (book : CaseBook) (call : Call) : Prop :=
  ∀ mint, call.mint service book = some mint →
    mint.reference ∉ book.cases.rows.map Case.reference ∧
      mint.reference.length ≤ caseReferenceMaxLength

/-! ## What calls add to the references -/

theorem referencesForBorrower_eq (book : CaseBook) (id : Uuid) :
    book.referencesForBorrower id =
      ((mintedIn book).filter fun mint => mint.1 = id).map Prod.snd := by
  simp [CaseBook.referencesForBorrower, mintedIn, List.filter_map, Function.comp_def]

theorem mintedIn_of_rewritten {book after : CaseBook} {row row' : Case}
    {payload : CaseEventPayload} (rewriting : Rewritten book after row row' payload) :
    mintedIn after = mintedIn book := by
  unfold mintedIn
  rw [rewriting.cases, KeyedTable.rows_put, List.map_map]
  refine List.map_congr_left fun other listed => ?_
  by_cases same : other.id = row'.id
  · have present := (KeyedTable.find_eq_some_iff.mp rewriting.found).1
    have equal := CaseBook.row_eq_of_id present listed (same.trans rewriting.id)
    rw [Function.comp_apply, if_pos same, rewriting.borrowerId, rewriting.reference, equal]
  · simp [same]

theorem mintedIn_of_opened {book after : CaseBook} {row : Case} (opening : Opened book after row) :
    mintedIn after = mintedIn book ++ [(row.borrowerId, row.reference)] := by
  unfold mintedIn
  rw [opening.rows, List.map_append]
  rfl

theorem mintedIn_of_breaches {book after : CaseBook}
    (run : Relation.ReflTransGen Breach book after) : mintedIn after = mintedIn book := by
  induction run with
  | refl => rfl
  | tail reached breach ih =>
    obtain ⟨row, row', due, overdueAt, assignee, moving⟩ := breach
    rw [mintedIn_of_rewritten moving.toRewritten, ih]

theorem openCase_needs {service : CaseService} {directory : Directory} {book after : CaseBook}
    {borrower : Borrower} {band : Band} {runId assigneeId : Option Uuid} {actorId : Uuid}
    {instant : UtcInstant} {id : Uuid} {case : Case}
    (written : service.openCase directory borrower band runId assigneeId actorId instant id book =
      .ok (case, after)) :
    (service.assignment directory borrower band assigneeId).toOption.isSome = true ∧
      (deriveSla band instant service.slaThresholds service.calendar).toOption.isSome = true := by
  unfold CaseService.openCase at written
  obtain ⟨assignment, assigned, written⟩ := Except.bind_eq_ok_iff.mp written
  obtain ⟨deadline, derived, _⟩ := Except.bind_eq_ok_iff.mp written
  rw [assigned, derived]
  exact ⟨rfl, rfl⟩

/-- A single step leaves the references, or adds the one it minted. -/
theorem Call.mintedIn_after (service : CaseService) (book : CaseBook) {call : Call}
    (single : call.single = [call]) :
    mintedIn (call.after service book) = mintedIn book ∨
      ∃ mint, call.mint service book = some mint ∧
        mintedIn (call.after service book) =
          mintedIn book ++ [(mint.borrowerId, mint.reference)] := by
  unfold after
  cases ran : call.run service book with
  | error error => exact .inl rfl
  | ok written =>
    cases call with
    | openOrUpdate directory principal source assigneeId scope instant id =>
      obtain ⟨⟨result, tables⟩, returned, rfl⟩ := Except.map_eq_ok_iff.mp ran
      rcases openOrUpdate_cases returned with same |
        ⟨resolved, details, borrower, case, context, read, watch, locked, rows, opening⟩ |
        ⟨resolved, details, borrower, current, updated, _, _, _, _, rows, _, updating⟩
      · rw [same]
        exact .inl rfl
      · obtain ⟨opened, owner, reference⟩ :=
          openCase_effect (noneOpen_of_openCases_nil locked rows) opening
        obtain ⟨assigned, derived⟩ := openCase_needs opening
        refine .inr ⟨⟨borrower.id, nextReference (referenceBase borrower)
          (book.referencesForBorrower borrower.id)⟩, ?_, ?_⟩
        · simp [mint, opens, context, read, watch, locked, rows, assigned, derived]
        · rw [mintedIn_of_opened opened, owner, reference]
      · have member : current ∈
            CaseBook.openCasesForBorrower directory resolved book borrower.id := by
          rw [rows]
          exact List.mem_singleton_self current
        obtain ⟨listed, _, notClosed, _⟩ := mem_openCasesForBorrower.mp member
        obtain ⟨deadline, _, _, rewriting⟩ :=
          updateBand_rewritten (KeyedTable.find_of_mem listed) notClosed updating
        exact .inl (mintedIn_of_rewritten rewriting)
    | transitionCase directory principal key target reason note expectedVersion scope instant =>
      obtain ⟨⟨result, tables⟩, returned, rfl⟩ := Except.map_eq_ok_iff.mp ran
      obtain ⟨row, row', payload, moving⟩ := transitionCase_moved returned
      exact .inl (mintedIn_of_rewritten moving.toRewritten)
    | escalateOverdue directory principal scope instant =>
      obtain ⟨⟨result, tables⟩, returned, rfl⟩ := Except.map_eq_ok_iff.mp ran
      exact .inl (mintedIn_of_breaches (escalateOverdue_breaches returned))
    | updateCases assigneeId instant entries =>
      cases ran
      match entries with
      | [] => exact .inl rfl
      | first :: second :: rest => cases single
      | [nightly] =>
        by_cases act : nightly.entry.band = .act
        · have stepped : runUpdateCases assigneeId instant [nightly] book =
              nightlyStep assigneeId instant book nightly := by simp [runUpdateCases, act]
          rw [stepped]
          rcases @nightlyStep_effect book assigneeId instant nightly with same | opened
          · rw [same]
            exact .inl rfl
          · refine .inr ⟨⟨nightly.entry.borrowerId, nightlyReference nightly.entry.borrowerId
              ((book.referencesForBorrower nightly.entry.borrowerId).length + 1)⟩, ?_,
              mintedIn_of_opened opened⟩
            have noneOpen : (book.cases.rows.any fun case =>
                case.borrowerId = nightly.entry.borrowerId && case.state != .closed) = false := by
              rw [List.any_eq_false]
              intro row listed
              have closed : row.borrowerId = nightly.entry.borrowerId → row.state = .closed :=
                opened.noneOpen row listed
              simpa using closed
            simp [mint, opens, opensNightly, act, noneOpen]
        · have stepped : runUpdateCases assigneeId instant [nightly] book = book := by
            simp [runUpdateCases, act]
          rw [stepped]
          exact .inl rfl

/-! ## References of the service -/

/-- A call of the service, which reads the given borrowers. -/
def Call.OfService (borrowers : KeyedTable Borrower.id) : Call → Prop
  | openOrUpdate directory _ _ _ _ _ _ => directory.borrowers = borrowers
  | updateCases _ _ _ => False
  | _ => True

/-- The references of each borrower are the first ones of its base. -/
structure ServiceBook (borrowers : KeyedTable Borrower.id) (book : CaseBook) : Prop where
  known : ∀ mint ∈ mintedIn book, ∃ borrower ∈ borrowers.rows, borrower.id = mint.1
  ordered : ∀ borrower ∈ borrowers.rows, book.referencesForBorrower borrower.id =
    firstReferences (referenceBase borrower) (book.referencesForBorrower borrower.id).length

theorem referencesForBorrower_append {book after : CaseBook} {id : Uuid} {reference : Text}
    (added : mintedIn after = mintedIn book ++ [(id, reference)]) (other : Uuid) :
    after.referencesForBorrower other =
      book.referencesForBorrower other ++ if id = other then [reference] else [] := by
  rw [referencesForBorrower_eq, referencesForBorrower_eq, added, List.filter_append,
    List.map_append]
  by_cases same : id = other <;> simp [same]

section

variable {service : CaseService} {borrowers : KeyedTable Borrower.id} {book : CaseBook} {call : Call}

theorem Call.OfService.single (ofService : call.OfService borrowers) : call.single = [call] := by
  cases call with
  | updateCases => cases ofService
  | openOrUpdate | transitionCase | escalateOverdue => rfl

theorem Call.opens_listed (ofService : call.OfService borrowers) {borrower : Borrower}
    (opens : call.opens service book = some borrower) : borrower ∈ borrowers.rows := by
  cases call with
  | transitionCase | escalateOverdue | updateCases => cases opens
  | openOrUpdate directory principal source assigneeId scope instant id =>
    cases context : service.authorizedContext principal scope .updateCase with
    | error error => simp [Call.opens, context] at opens
    | ok resolved =>
      cases read : CaseService.triageDetails directory resolved source with
      | error error => simp [Call.opens, context, read] at opens
      | ok details =>
        by_cases watch : details.band = .watch
        · simp [Call.opens, context, read, watch] at opens
        cases locked : CaseBook.lockBorrower directory resolved details.borrowerId with
        | none => simp [Call.opens, context, read, locked] at opens
        | some found =>
          simp only [Call.opens, context, read, if_neg watch, locked] at opens
          match rows : CaseBook.openCasesForBorrower directory resolved book found.id with
          | first :: rest => simp [rows] at opens
          | [] =>
            simp only [rows] at opens
            obtain ⟨_, same⟩ := Option.ite_none_right_eq_some.mp opens
            cases same
            have listed := (Option.filter_eq_some_iff.mp locked).1
            have ofService : directory.borrowers = borrowers := ofService
            rw [ofService] at listed
            exact (KeyedTable.find_eq_some_iff.mp listed).1

theorem Call.mint_of_service (ofService : call.OfService borrowers) {mint : Mint}
    (minted : call.mint service book = some mint) :
    ∃ borrower, call.opens service book = some borrower ∧ mint = ⟨borrower.id,
      nextReference (referenceBase borrower) (book.referencesForBorrower borrower.id)⟩ := by
  unfold Call.mint at minted
  cases opens : call.opens service book with
  | some borrower =>
    simp only [opens] at minted
    exact ⟨borrower, rfl, (Option.some.inj minted).symm⟩
  | none =>
    cases call with
    | updateCases => cases ofService
    | openOrUpdate | transitionCase | escalateOverdue => simp [opens, Call.opensNightly] at minted

theorem ServiceBook.after (known : ServiceBook borrowers book)
    (ofService : call.OfService borrowers) : ServiceBook borrowers (call.after service book) := by
  rcases call.mintedIn_after service book ofService.single with same | ⟨mint, minted, added⟩
  · have references (id : Uuid) : (call.after service book).referencesForBorrower id =
        book.referencesForBorrower id := by
      rw [referencesForBorrower_eq, same, ← referencesForBorrower_eq]
    refine ⟨by rw [same]; exact known.known, fun borrower listed => ?_⟩
    rw [references]
    exact known.ordered borrower listed
  · obtain ⟨borrower, opens, rfl⟩ := Call.mint_of_service ofService minted
    have listed := Call.opens_listed ofService opens
    constructor
    · intro mint member
      rw [added, List.mem_append, List.mem_singleton] at member
      rcases member with old | rfl
      · exact known.known mint old
      · exact ⟨borrower, listed, rfl⟩
    · intro other listed'
      rw [referencesForBorrower_append added]
      by_cases same : borrower.id = other.id
      · have equal : other = borrower := Option.some.inj
          ((KeyedTable.find_of_mem listed').symm.trans
            (same ▸ KeyedTable.find_of_mem listed))
        subst equal
        rw [if_pos rfl, List.length_append, List.length_singleton, firstReferences,
          ← known.ordered other listed]
      · rw [if_neg same, List.append_nil]
        exact known.ordered other listed'

/-- The next reference of a borrower fits: its number has at most nineteen digits, and it is none
    of the references that the numbers used by another borrower give. -/
def ServiceFits (borrowers : KeyedTable Borrower.id) (book : CaseBook) (borrower : Borrower) :
    Prop :=
  let number := caseNumber (referenceBase borrower) (book.referencesForBorrower borrower.id).length
  number < 10 ^ 19 ∧
    ∀ other ∈ borrowers.rows, other.id ≠ borrower.id → ∀ number', 1 ≤ number' →
      number' ≤ usedNumber (referenceBase other) (book.referencesForBorrower other.id).length →
        numbered (referenceBase borrower) number ≠ numbered (referenceBase other) number'

theorem mem_mintedIn_iff {id : Uuid} {reference : Text} :
    (id, reference) ∈ mintedIn book ↔ reference ∈ book.referencesForBorrower id := by
  rw [referencesForBorrower_eq]
  simp

theorem references_eq_mintedIn (book : CaseBook) :
    book.cases.rows.map Case.reference = (mintedIn book).map Prod.snd := by
  simp [mintedIn, Function.comp_def]

/-- At one call of the service: its reference is new and short exactly when it fits. -/
theorem mintsNew_iff_serviceFits (known : ServiceBook borrowers book)
    (ofService : call.OfService borrowers) :
    MintsNew service book call ↔
      ∀ borrower, call.opens service book = some borrower → ServiceFits borrowers book borrower := by
  have step {borrower : Borrower} (opens : call.opens service book = some borrower) :
      (nextReference (referenceBase borrower) (book.referencesForBorrower borrower.id) ∉
          book.cases.rows.map Case.reference ∧
        (nextReference (referenceBase borrower)
          (book.referencesForBorrower borrower.id)).length ≤ caseReferenceMaxLength) ↔
      ServiceFits borrowers book borrower := by
    have listed := Call.opens_listed ofService opens
    obtain ⟨_, next, fresh⟩ := firstReferences_spec (referenceBase borrower)
      (book.referencesForBorrower borrower.id).length
    rw [← known.ordered borrower listed] at next fresh
    rw [next, length_numbered_le_iff (length_referenceBase borrower), and_comm, ServiceFits,
      references_eq_mintedIn]
    refine and_congr_right fun _ => ?_
    constructor
    · intro new other listed' differs number' positive le same
      have member : numbered (referenceBase other) number' ∈
          book.referencesForBorrower other.id := by
        rw [known.ordered other listed']
        exact ((firstReferences_spec _ _).1 _).mpr ⟨number', positive, le, rfl⟩
      rw [← same] at member
      exact new (List.mem_map.mpr ⟨_, mem_mintedIn_iff.mpr member, rfl⟩)
    · intro apart member
      obtain ⟨⟨id, reference⟩, minted, same⟩ := List.mem_map.mp member
      change reference = _ at same
      subst same
      obtain ⟨other, listed', named⟩ := known.known _ minted
      change other.id = id at named
      subst named
      have member := mem_mintedIn_iff.mp minted
      by_cases differs : other.id = borrower.id
      · rw [differs] at member
        exact fresh member
      · rw [known.ordered other listed'] at member
        obtain ⟨number', positive, le, equal⟩ := ((firstReferences_spec _ _).1 _).mp member
        exact apart other listed' differs number' positive le equal
  constructor
  · intro new borrower opens
    have minted : call.mint service book = some ⟨borrower.id,
        nextReference (referenceBase borrower) (book.referencesForBorrower borrower.id)⟩ := by
      simp only [Call.mint, opens]
    exact (step opens).mp (new _ minted)
  · intro fits mint minted
    obtain ⟨borrower, opens, rfl⟩ := Call.mint_of_service ofService minted
    exact (step opens).mpr (fits borrower opens)

end

/-! ## References of the nightly step -/

/-- A call of a run in which only the nightly step opens cases. -/
def Call.OfNightly : Call → Prop
  | openOrUpdate _ _ _ _ _ _ _ => False
  | _ => True

theorem length_hexBase (id : Uuid) : (hexBase id).length = 14 := by
  unfold hexBase
  rw [List.length_append, Text.upper, List.length_map, List.length_take, Text.length_hex]
  rfl

theorem nightlyReference_inj {id other : Uuid} {number number' : Nat} (positive : 1 ≤ number)
    (positive' : 1 ≤ number')
    (same : nightlyReference id number = nightlyReference other number') :
    hexBase id = hexBase other ∧ number = number' := by
  unfold nightlyReference at same
  have lengths : (hexBase id).length = (hexBase other).length := by
    rw [length_hexBase, length_hexBase]
  by_cases one : number ≤ 1
  · rw [if_pos one] at same
    by_cases one' : number' ≤ 1
    · rw [if_pos one'] at same
      exact ⟨same, by omega⟩
    · rw [if_neg one'] at same
      have length := congrArg List.length same
      simp [length_hexBase] at length
  · rw [if_neg one] at same
    by_cases one' : number' ≤ 1
    · rw [if_pos one'] at same
      have length := congrArg List.length same
      simp [length_hexBase] at length
    · rw [if_neg one'] at same
      obtain ⟨bases, endings⟩ := List.append_inj same lengths
      exact ⟨bases, Text.ofNat_injective (List.cons.inj endings).2⟩

theorem nightlyReference_congr {id other : Uuid} (same : hexBase id = hexBase other)
    (number : Nat) : nightlyReference id number = nightlyReference other number := by
  unfold nightlyReference
  rw [same]

theorem length_nightlyReference_le_iff {id : Uuid} {number : Nat} :
    (nightlyReference id number).length ≤ caseReferenceMaxLength ↔ number < 10 ^ 5 := by
  have max : caseReferenceMaxLength = 20 := rfl
  have digits := @Nat.length_toDigits_le_iff 10 number 5 (by norm_num) (by norm_num)
  have length : (Text.ofNat number).length = (Nat.toDigits 10 number).length := rfl
  unfold nightlyReference
  by_cases one : number ≤ 1
  · have bounded : number < 10 ^ 5 := lt_of_le_of_lt one (by norm_num)
    rw [if_pos one, length_hexBase, max]
    simp only [bounded, iff_true]
    norm_num
  · rw [if_neg one, ← digits, List.length_append, length_hexBase, List.length_cons, length]
    omega

/-- The references of each borrower are those of its first numbers, and no two are the same. -/
structure NightlyBook (book : CaseBook) : Prop where
  ordered : ∀ id, book.referencesForBorrower id =
    (List.range' 1 (book.referencesForBorrower id).length).map (nightlyReference id)
  distinct : ((mintedIn book).map Prod.snd).Nodup

/-- The next reference of a borrower fits: its number has at most five digits, and no other
    borrower with a case has the first twelve hexadecimal digits of its identifier. -/
def NightlyFits (book : CaseBook) (id : Uuid) : Prop :=
  (book.referencesForBorrower id).length + 1 < 10 ^ 5 ∧
    ∀ row ∈ book.cases.rows, row.borrowerId ≠ id → hexBase row.borrowerId ≠ hexBase id

theorem references_distinct (service : CaseService) {book : CaseBook} (call : Call)
    (distinct : ((mintedIn book).map Prod.snd).Nodup) :
    ((mintedIn (call.after service book)).map Prod.snd).Nodup := by
  have run := call.effects service book
  generalize call.after service book = after at run
  induction run with
  | refl => exact distinct
  | tail reached effect ih =>
    cases effect with
    | opened opening =>
      rw [mintedIn_of_opened opening, List.map_append, List.nodup_append]
      refine ⟨ih, List.nodup_singleton _, ?_⟩
      intro reference member other last
      rw [List.map_singleton, List.mem_singleton] at last
      rw [last]
      rintro rfl
      rw [← references_eq_mintedIn] at member
      exact opening.unused member
    | banded rewriting => rwa [mintedIn_of_rewritten rewriting]
    | moved moving => rwa [mintedIn_of_rewritten moving.toRewritten]

section

variable {service : CaseService} {book : CaseBook} {call : Call}

theorem Call.mint_of_nightly (ofNightly : call.OfNightly) {mint : Mint} :
    call.mint service book = some mint ↔ ∃ id, call.opensNightly book = some id ∧
      mint = ⟨id, nightlyReference id ((book.referencesForBorrower id).length + 1)⟩ := by
  have none' : call.opens service book = none := by
    cases call with
    | openOrUpdate => cases ofNightly
    | transitionCase | escalateOverdue | updateCases => rfl
  unfold Call.mint
  simp only [none', Option.map_eq_some_iff]
  constructor
  · rintro ⟨id, opens, same⟩
    exact ⟨id, opens, same.symm⟩
  · rintro ⟨id, opens, same⟩
    exact ⟨id, opens, same.symm⟩

theorem NightlyBook.after (known : NightlyBook book) (ofNightly : call.OfNightly)
    (single : call.single = [call]) : NightlyBook (call.after service book) := by
  refine ⟨?_, references_distinct service call known.distinct⟩
  intro other
  rcases call.mintedIn_after service book single with same | ⟨mint, minted, added⟩
  · have references : (call.after service book).referencesForBorrower other =
        book.referencesForBorrower other := by
      rw [referencesForBorrower_eq, same, ← referencesForBorrower_eq]
    rw [references]
    exact known.ordered other
  · obtain ⟨id, _, rfl⟩ := (Call.mint_of_nightly ofNightly).mp minted
    rw [referencesForBorrower_append added]
    by_cases same : id = other
    · subst same
      rw [if_pos rfl, List.length_append, List.length_singleton, List.range'_concat,
        List.map_append, ← known.ordered id]
      simp [Nat.add_comm]
    · rw [if_neg same, List.append_nil]
      exact known.ordered other

theorem mem_nightly_references (known : NightlyBook book) {id : Uuid} {reference : Text} :
    reference ∈ book.referencesForBorrower id ↔ ∃ number, 1 ≤ number ∧
      number ≤ (book.referencesForBorrower id).length ∧ nightlyReference id number = reference := by
  rw [known.ordered id]
  simp only [List.mem_map, List.mem_range'_1, List.length_map, List.length_range']
  constructor
  · rintro ⟨number, ⟨lower, upper⟩, same⟩
    exact ⟨number, lower, by omega, same⟩
  · rintro ⟨number, lower, upper, same⟩
    exact ⟨number, ⟨lower, by omega⟩, same⟩

/-- At one nightly step: its reference is new and short exactly when it fits. -/
theorem mintsNew_iff_nightlyFits (known : NightlyBook book) (ofNightly : call.OfNightly) :
    MintsNew service book call ↔
      ∀ id, call.opensNightly book = some id → NightlyFits book id := by
  have step (id : Uuid) :
      (nightlyReference id ((book.referencesForBorrower id).length + 1) ∉
          book.cases.rows.map Case.reference ∧
        (nightlyReference id ((book.referencesForBorrower id).length + 1)).length ≤
          caseReferenceMaxLength) ↔ NightlyFits book id := by
    rw [length_nightlyReference_le_iff, and_comm, NightlyFits, references_eq_mintedIn]
    refine and_congr_right fun _ => ?_
    constructor
    · intro new row listed differs same
      have owned : (row.borrowerId, row.reference) ∈ mintedIn book :=
        List.mem_map.mpr ⟨row, listed, rfl⟩
      obtain ⟨first, positive, le, _⟩ :=
        (mem_nightly_references known).mp (mem_mintedIn_iff.mp owned)
      by_cases behind : (book.referencesForBorrower id).length + 1 ≤
          (book.referencesForBorrower row.borrowerId).length
      · have member := (mem_nightly_references known).mpr
          ⟨_, Nat.le_add_left 1 _, behind, (nightlyReference_congr same _)⟩
        exact new (List.mem_map.mpr ⟨_, mem_mintedIn_iff.mpr member, rfl⟩)
      · -- both borrowers have a first case, and those have one reference
        have mine : (id, nightlyReference id 1) ∈ mintedIn book :=
          mem_mintedIn_iff.mpr ((mem_nightly_references known).mpr ⟨1, le_refl 1, by omega, rfl⟩)
        have other : (row.borrowerId, nightlyReference id 1) ∈ mintedIn book :=
          mem_mintedIn_iff.mpr ((mem_nightly_references known).mpr
            ⟨1, le_refl 1, by omega, nightlyReference_congr same 1⟩)
        have equal := List.inj_on_of_nodup_map known.distinct mine other rfl
        exact differs (Prod.mk.inj equal).1.symm
    · intro apart member
      obtain ⟨⟨other, reference⟩, minted, same⟩ := List.mem_map.mp member
      change reference = _ at same
      subst same
      obtain ⟨row, listed, pair⟩ := List.mem_map.mp minted
      obtain ⟨number, positive, le, equal⟩ :=
        (mem_nightly_references known).mp (mem_mintedIn_iff.mp minted)
      obtain ⟨bases, numbers⟩ := nightlyReference_inj positive (Nat.le_add_left 1 _) equal
      by_cases differs : other = id
      · rw [differs] at le
        omega
      · refine apart row listed ?_ ?_
        · rw [(Prod.mk.inj pair).1]
          exact differs
        · rw [(Prod.mk.inj pair).1]
          exact bases
  constructor
  · intro new id opens
    exact (step id).mp (new _ ((Call.mint_of_nightly ofNightly).mpr ⟨id, opens, rfl⟩))
  · intro fits mint minted
    obtain ⟨id, opens, rfl⟩ := (Call.mint_of_nightly ofNightly).mp minted
    exact (step id).mpr (fits id opens)

end

/-! ## Whole runs -/

theorem serviceBook_run (service : CaseService) {borrowers : KeyedTable Borrower.id}
    {calls : List Call} (ofService : ∀ call ∈ calls, call.OfService borrowers) :
    ServiceBook borrowers (runCalls service .empty calls) := by
  unfold runCalls
  refine List.foldlRecOn (motive := ServiceBook borrowers) calls _ ?_ ?_
  · exact ⟨fun mint member => (List.not_mem_nil member).elim, fun borrower _ => rfl⟩
  · intro book known call member
    exact known.after (ofService call member)

theorem nightlyBook_run (service : CaseService) {steps : List Call}
    (ofNightly : ∀ call ∈ steps, call.OfNightly ∧ call.single = [call]) :
    NightlyBook (runCalls service .empty steps) := by
  unfold runCalls
  refine List.foldlRecOn (motive := NightlyBook) steps _ ?_ ?_
  · exact ⟨fun id => rfl, List.nodup_nil⟩
  · intro book known call member
    exact known.after (ofNightly call member).1 (ofNightly call member).2

theorem single_ofNightly {calls : List Call} (ofNightly : ∀ call ∈ calls, call.OfNightly) :
    ∀ step ∈ calls.flatMap Call.single, step.OfNightly ∧ step.single = [step] := by
  intro step member
  obtain ⟨call, listed, part⟩ := List.mem_flatMap.mp member
  have nightly := ofNightly call listed
  cases call with
  | openOrUpdate => cases nightly
  | transitionCase | escalateOverdue =>
    obtain rfl := List.mem_singleton.mp part
    exact ⟨trivial, rfl⟩
  | updateCases assigneeId instant entries =>
    obtain ⟨entry, _, rfl⟩ := List.mem_map.mp part
    exact ⟨trivial, rfl⟩

/-- Over every run of the service, and over the single steps of every run in which the nightly step
    opens the cases, every reference minted is new and short exactly when each one fits. -/
theorem references_minted_iff (service : CaseService) {borrowers : KeyedTable Borrower.id}
    {calls nightly : List Call} (ofService : ∀ call ∈ calls, call.OfService borrowers)
    (ofNightly : ∀ call ∈ nightly, call.OfNightly) :
    ((∀ before call later, calls = before ++ call :: later →
        MintsNew service (runCalls service .empty before) call) ↔
      ∀ before call later, calls = before ++ call :: later → ∀ borrower,
        call.opens service (runCalls service .empty before) = some borrower →
          ServiceFits borrowers (runCalls service .empty before) borrower) ∧
    ((∀ before call later, nightly.flatMap Call.single = before ++ call :: later →
        MintsNew service (runCalls service .empty before) call) ↔
      ∀ before call later, nightly.flatMap Call.single = before ++ call :: later → ∀ id,
        call.opensNightly (runCalls service .empty before) = some id →
          NightlyFits (runCalls service .empty before) id) := by
  constructor
  · refine forall_congr' fun before => forall_congr' fun call => forall_congr' fun later =>
      forall_congr' fun split => ?_
    rw [split] at ofService
    exact mintsNew_iff_serviceFits
      (serviceBook_run service fun call member => ofService call (List.mem_append_left _ member))
      (ofService call (by simp))
  · have steps := single_ofNightly ofNightly
    refine forall_congr' fun before => forall_congr' fun call => forall_congr' fun later =>
      forall_congr' fun split => ?_
    rw [split] at steps
    exact mintsNew_iff_nightlyFits
      (nightlyBook_run service fun call member => steps call (List.mem_append_left _ member))
      (steps call (by simp)).1

theorem namesakes_distinct :
    ([sampleBorrower 1 "ACME", sampleBorrower 2 "ACME-2"].map Borrower.id).Nodup := by decide

/-- Two borrowers, the reference of one of which ends like a second case of the other. -/
def namesakes : Directory :=
  { sampleDirectory with
    borrowers := ⟨[sampleBorrower 1 "ACME", sampleBorrower 2 "ACME-2"], namesakes_distinct⟩ }

/-- The officer opens a case of a namesake. -/
def namesakeWarning (borrower id : Nat) : Call :=
  .openOrUpdate namesakes sampleOfficer
    (.details (some (Uuid.ofInt borrower)) (some "act".toList) none) (some (Uuid.ofInt 50))
    sampleScope (workday ⟨0, workday_first⟩) (Uuid.ofInt id)

/-- The officer closes a case. -/
def namesakeClosure (id : Nat) : Call :=
  .transitionCase namesakes sampleOfficer (.id (Uuid.ofInt id)) "closed".toList
    (some "repaid".toList) none none sampleScope (workday ⟨1, workday_second⟩)

theorem references_minted_iff_sample :
    ((∀ before call later, [namesakeWarning 1 101] = before ++ call :: later →
        MintsNew sampleService (runCalls sampleService .empty before) call) ↔
      ∀ before call later, [namesakeWarning 1 101] = before ++ call :: later → ∀ borrower,
        call.opens sampleService (runCalls sampleService .empty before) = some borrower →
          ServiceFits namesakes.borrowers (runCalls sampleService .empty before) borrower) ∧
    ((∀ before call later, [namesakeClosure 1].flatMap Call.single = before ++ call :: later →
        MintsNew sampleService (runCalls sampleService .empty before) call) ↔
      ∀ before call later, [namesakeClosure 1].flatMap Call.single = before ++ call :: later →
        ∀ id, call.opensNightly (runCalls sampleService .empty before) = some id →
          NightlyFits (runCalls sampleService .empty before) id) :=
  references_minted_iff sampleService
    (fun call member => by rw [List.mem_singleton] at member; subst member; rfl)
    (fun call member => by rw [List.mem_singleton] at member; subst member; exact trivial)

/-- The second case of the one namesake gets the reference of the other's first. -/
theorem reference_minted_twice :
    ¬ ∀ before call later,
      [namesakeWarning 2 102, namesakeWarning 1 101, namesakeClosure 101, namesakeWarning 1 103] =
        before ++ call :: later →
      MintsNew sampleService (runCalls sampleService .empty before) call := by
  intro new
  have minted : (namesakeWarning 1 103).mint sampleService (runCalls sampleService .empty
      [namesakeWarning 2 102, namesakeWarning 1 101, namesakeClosure 101]) =
      some ⟨Uuid.ofInt 1, "C-ACME-2".toList⟩ := by decide
  have taken : "C-ACME-2".toList ∈ (runCalls sampleService .empty
      [namesakeWarning 2 102, namesakeWarning 1 101, namesakeClosure 101]).cases.rows.map
        Case.reference := by decide
  exact (new [namesakeWarning 2 102, namesakeWarning 1 101, namesakeClosure 101] _ [] rfl _
    minted).1 taken

end Cases

end CovenantRadar
