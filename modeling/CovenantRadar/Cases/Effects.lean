import CovenantRadar.Cases.Runs

/-!
# What each call does

Every write of the case service and of the nightly case step is one of the effects, and a sweep is
a run of breaches.
-/

namespace CovenantRadar

namespace Cases

open Security

variable {service : CaseService} {directory : Directory} {scope : Scope} {book after : CaseBook}

/-! ## Queues write notifications only -/

@[simp] theorem cases_queueFor (case : Case) (template : Template) (payload : NotificationPayload)
    (instant : UtcInstant) (book : CaseBook) (recipientId : Uuid) :
    (queueFor case template payload instant book recipientId).cases = book.cases := by
  unfold queueFor
  split_ifs <;> rfl

@[simp] theorem events_queueFor (case : Case) (template : Template) (payload : NotificationPayload)
    (instant : UtcInstant) (book : CaseBook) (recipientId : Uuid) :
    (queueFor case template payload instant book recipientId).events = book.events := by
  unfold queueFor
  split_ifs <;> rfl

theorem queueAndNotify_eq_ok {case : Case} {template : Template} {recipientIds : List Uuid}
    {payload : NotificationPayload} {instant : UtcInstant}
    (queued : service.queueAndNotify case template recipientIds payload instant book = .ok after) :
    after.cases = book.cases ∧ after.events = book.events := by
  unfold CaseService.queueAndNotify at queued
  simp only at queued
  split_ifs at queued with noneLeft
  obtain ⟨_, _, rfl⟩ := Except.map_eq_ok_iff.mp queued
  refine List.foldlRecOn (motive := fun book' : CaseBook => book'.cases = book.cases ∧
    book'.events = book.events) _ _ ⟨rfl, rfl⟩ ?_
  rintro book' ⟨cases, events⟩ recipientId _
  rw [cases_queueFor, events_queueFor]
  exact ⟨cases, events⟩

/-! ## What the reads find -/

theorem getForUpdate_eq_some {id : Uuid} {case : Case}
    (found : CaseBook.getForUpdate directory scope book id = some case) :
    book.cases.find case.id = some case ∧ case.id = id ∧
      CaseBook.inScope directory scope case = true := by
  obtain ⟨found, visible⟩ := Option.filter_eq_some_iff.mp found
  have same := (KeyedTable.find_eq_some_iff.mp found).2
  subst same
  exact ⟨found, rfl, visible⟩

theorem byReference_eq_some {reference : Text} {case : Case}
    (found : CaseBook.byReference directory scope book reference = some case) :
    book.cases.find case.id = some case :=
  KeyedTable.find_of_mem (List.mem_of_find?_eq_some found)

theorem lockedCase_eq_ok {key : CaseKey} {case : Case}
    (locked : CaseService.lockedCase directory scope key book = .ok case) :
    book.cases.find case.id = some case := by
  cases key with
  | id caseId =>
    cases found : CaseBook.getForUpdate directory scope book caseId with
    | none => simp [CaseService.lockedCase, found] at locked
    | some row =>
      have same : row = case := by simpa [CaseService.lockedCase, found] using locked
      subst same
      exact (getForUpdate_eq_some found).1
  | reference text =>
    by_cases blank : Text.strip text = []
    · simp [CaseService.lockedCase, blank] at locked
    · cases found : CaseBook.byReference directory scope book (Text.strip text) with
      | none => simp [CaseService.lockedCase, blank, found] at locked
      | some row =>
        have same : row = case := by simpa [CaseService.lockedCase, blank, found] using locked
        subst same
        exact byReference_eq_some found

theorem mem_openCasesForBorrower {borrowerId : Uuid} {case : Case} :
    case ∈ CaseBook.openCasesForBorrower directory scope book borrowerId ↔
      case ∈ book.cases.rows ∧ case.borrowerId = borrowerId ∧ case.state ≠ .closed ∧
        CaseBook.inScope directory scope case = true := by
  unfold CaseBook.openCasesForBorrower
  rw [List.mem_insertionSort, List.mem_filter]
  simp [and_assoc]

/-- A locked borrower's cases are in the scope of the lock. -/
theorem noneOpen_of_openCases_nil {id : Uuid} {borrower : Borrower}
    (locked : CaseBook.lockBorrower directory scope id = some borrower)
    (none' : CaseBook.openCasesForBorrower directory scope book borrower.id = []) :
    ∀ other ∈ book.cases.rows, other.borrowerId = borrower.id → other.state = .closed := by
  intro other listed owned
  obtain ⟨found, visible⟩ := Option.filter_eq_some_iff.mp locked
  have same := (KeyedTable.find_eq_some_iff.mp found).2
  have inScope : CaseBook.inScope directory scope other = true := by
    unfold CaseBook.inScope
    rw [owned, same, found]
    exact visible
  by_contra notClosed
  have member := mem_openCasesForBorrower.mpr ⟨listed, owned, notClosed, inScope⟩
  rw [none'] at member
  cases member

/-! ## One write -/

theorem appended_events {row : Case} {payload : CaseEventPayload} {actorId : Uuid}
    {instant : UtcInstant} :
    (appendEvent book row payload actorId instant).events =
      book.events ++ [⟨row.id, payload, actorId, instant⟩] := rfl

theorem announceFallback_eq_ok {case : Case} {assignment : Assignment} {actorId : Uuid}
    {instant : UtcInstant}
    (announced : service.announceFallback case assignment actorId instant book = .ok after) :
    after.cases = book.cases ∧ ∃ added, after.events = book.events ++ added ∧
      ∀ event ∈ added, event.caseId = case.id ∧ event.payload.isStateChange = false := by
  unfold CaseService.announceFallback at announced
  by_cases fallback : assignment.usedFallback = true
  · rw [if_pos fallback] at announced
    obtain ⟨cases, events⟩ := queueAndNotify_eq_ok announced
    refine ⟨cases, _, events, ?_⟩
    intro event member
    rw [List.mem_singleton] at member
    subst member
    exact ⟨rfl, rfl⟩
  · rw [if_neg fallback] at announced
    rw [← Except.ok.inj announced]
    exact ⟨rfl, [], (List.append_nil _).symm, by simp⟩

theorem openCase_effect {borrower : Borrower} {band : Band} {runId assigneeId : Option Uuid}
    {actorId : Uuid} {instant : UtcInstant} {id : Uuid} {case : Case}
    (noneOpen : ∀ other ∈ book.cases.rows, other.borrowerId = borrower.id → other.state = .closed)
    (written : service.openCase directory borrower band runId assigneeId actorId instant id book =
      .ok (case, after)) :
    Opened book after case ∧ case.borrowerId = borrower.id ∧
      case.reference = nextReference (referenceBase borrower)
        (book.referencesForBorrower borrower.id) := by
  unfold CaseService.openCase at written
  obtain ⟨assignment, _, written⟩ := Except.bind_eq_ok_iff.mp written
  obtain ⟨deadline, _, written⟩ := Except.bind_eq_ok_iff.mp written
  obtain ⟨inserted, insertion, written⟩ := Except.bind_eq_ok_iff.mp written
  obtain ⟨announced, announcement, written⟩ := Except.bind_eq_ok_iff.mp written
  obtain ⟨fresh, extended, unused⟩ := CaseBook.insertCase_eq_ok insertion
  obtain ⟨rfl, rfl⟩ := Prod.mk.inj (Except.ok.inj written)
  obtain ⟨cases, added, events, neutral⟩ := announceFallback_eq_ok announcement
  have opening (prior : Option Case) :
      (CaseService.openingPayload band runId deadline assignment.assigneeId
        prior).isStateChange = false := by cases prior <;> rfl
  refine ⟨⟨KeyedTable.find_eq_none_iff.mp fresh, ?_, rfl, noneOpen, unused, ?_⟩, rfl, rfl⟩
  · rw [cases, extended]
    rfl
  · rw [events, appended_events, extended, List.append_assoc]
    refine ⟨_, rfl, ?_⟩
    intro event member
    rcases List.mem_append.mp member with first | later
    · rw [List.mem_singleton] at first
      subst first
      exact ⟨rfl, opening _⟩
    · exact neutral event later

theorem updateBand_rewritten {case updated : Case} {band : Band} {runId : Option Uuid}
    {actorId : Uuid} {instant : UtcInstant} (found : book.cases.find case.id = some case)
    (notClosed : case.state ≠ .closed)
    (written : service.updateBand case band runId actorId instant book = .ok (updated, after)) :
    ∃ deadline, deriveSla band instant service.slaThresholds service.calendar = .ok deadline ∧
      updated = CaseService.bandedRow case band deadline instant ∧
      Rewritten book after case updated
        (.bandChanged case.bandAtOpen band runId deadline.hours deadline.dueAt) := by
  unfold CaseService.updateBand at written
  obtain ⟨deadline, derived, written⟩ := Except.bind_eq_ok_iff.mp written
  obtain ⟨rows, tables⟩ := Prod.mk.inj (Except.ok.inj written)
  refine ⟨deadline, derived, rows.symm, ?_⟩
  rw [← tables, ← rows]
  exact ⟨found, rfl, rfl, rfl, rfl, notClosed, rfl, actorId, instant, appended_events⟩

theorem updateBand_effect {case updated : Case} {band : Band} {runId : Option Uuid}
    {actorId : Uuid} {instant : UtcInstant} (found : book.cases.find case.id = some case)
    (notClosed : case.state ≠ .closed) (differs : case.bandAtOpen ≠ band)
    (written : service.updateBand case band runId actorId instant book = .ok (updated, after)) :
    Effect service instant book after := by
  obtain ⟨deadline, derived, same, rewriting⟩ := updateBand_rewritten found notClosed written
  rw [same] at rewriting
  exact .banded rewriting rfl differs derived rfl

/-- `open_or_update` changes nothing, opens a case, or updates the band of the one open case. -/
theorem openOrUpdate_cases {principal : Principal} {source : TriageSource}
    {assigneeId : Option Uuid} {scope : Option Scope} {instant : UtcInstant} {id : Uuid}
    {result : Option Case}
    (written : service.openOrUpdate directory principal source assigneeId scope instant id book =
      .ok (result, after)) :
    after = book ∨
      (∃ resolved details borrower case,
        service.authorizedContext principal scope .updateCase = .ok resolved ∧
        CaseService.triageDetails directory resolved source = .ok details ∧
        details.band ≠ .watch ∧
        CaseBook.lockBorrower directory resolved details.borrowerId = some borrower ∧
        CaseBook.openCasesForBorrower directory resolved book borrower.id = [] ∧
        service.openCase directory borrower details.band details.runId assigneeId principal.id
          instant id book = .ok (case, after)) ∨
      ∃ resolved details borrower current updated,
        service.authorizedContext principal scope .updateCase = .ok resolved ∧
        CaseService.triageDetails directory resolved source = .ok details ∧
        details.band ≠ .watch ∧
        CaseBook.lockBorrower directory resolved details.borrowerId = some borrower ∧
        CaseBook.openCasesForBorrower directory resolved book borrower.id = [current] ∧
        current.bandAtOpen ≠ details.band ∧
        service.updateBand current details.band details.runId principal.id instant book =
          .ok (updated, after) := by
  unfold CaseService.openOrUpdate at written
  obtain ⟨resolved, context, written⟩ := Except.bind_eq_ok_iff.mp written
  obtain ⟨details, read, written⟩ := Except.bind_eq_ok_iff.mp written
  by_cases watch : details.band = .watch
  · rw [if_pos watch] at written
    cases written
    exact .inl rfl
  rw [if_neg watch] at written
  cases locked : CaseBook.lockBorrower directory resolved details.borrowerId with
  | none => simp [locked] at written
  | some borrower =>
    simp only [locked] at written
    obtain ⟨⟨case, book'⟩, locked', same⟩ := Except.map_eq_ok_iff.mp written
    cases same
    unfold CaseService.openOrUpdateLocked at locked'
    match rows : CaseBook.openCasesForBorrower directory resolved book borrower.id with
    | [] =>
      simp only [rows] at locked'
      exact .inr (.inl ⟨resolved, details, borrower, case, context, read, watch, locked, rows,
        locked'⟩)
    | [current] =>
      simp only [rows] at locked'
      by_cases same : current.bandAtOpen = details.band
      · rw [if_pos same] at locked'
        cases locked'
        exact .inl rfl
      · rw [if_neg same] at locked'
        exact .inr (.inr ⟨resolved, details, borrower, current, case, context, read, watch, locked,
          rows, same, locked'⟩)
    | first :: second :: rest => simp [rows] at locked'

theorem openOrUpdate_effect {principal : Principal} {source : TriageSource}
    {assigneeId : Option Uuid} {scope : Option Scope} {instant : UtcInstant} {id : Uuid}
    {result : Option Case}
    (written : service.openOrUpdate directory principal source assigneeId scope instant id book =
      .ok (result, after)) :
    after = book ∨ Effect service instant book after := by
  rcases openOrUpdate_cases written with same |
    ⟨resolved, details, borrower, case, _, _, _, locked, rows, opening⟩ |
    ⟨resolved, details, borrower, current, updated, _, _, _, _, rows, differs, updating⟩
  · exact .inl same
  · exact .inr (.opened (openCase_effect (noneOpen_of_openCases_nil locked rows) opening).1)
  · have member : current ∈ CaseBook.openCasesForBorrower directory resolved book borrower.id := by
      rw [rows]
      exact List.mem_singleton_self current
    obtain ⟨listed, _, notClosed, _⟩ := mem_openCasesForBorrower.mp member
    exact .inr (updateBand_effect (KeyedTable.find_of_mem listed) notClosed differs updating)

/-- Closing sets columns that no other transition writes; the rest is common. -/
theorem transitioned_spec (case : Case) (change : CaseTransition) (reason note : Option Text)
    (instant : UtcInstant) :
    let row := CaseService.transitioned case change reason note instant
    row.id = case.id ∧ row.borrowerId = case.borrowerId ∧ row.reference = case.reference ∧
      row.state = change.toState ∧ row.dueAt = case.dueAt ∧ row.bandAtOpen = case.bandAtOpen := by
  unfold CaseService.transitioned
  split_ifs <;> exact ⟨rfl, rfl, rfl, rfl, rfl, rfl⟩

theorem transitioned_moved {case : Case} {change : CaseTransition} {reason note : Option Text}
    {actorId : Uuid} {instant : UtcInstant} (found : book.cases.find case.id = some case)
    (source : change.fromState = case.state) :
    Moved book
      (appendEvent (book.putCase (CaseService.transitioned case change reason note instant))
        (CaseService.transitioned case change reason note instant)
        (.stateChanged change.fromState change.toState (change.toState = .closed)) actorId instant)
      case (CaseService.transitioned case change reason note instant)
      (.stateChanged change.fromState change.toState (change.toState = .closed)) := by
  obtain ⟨id, borrowerId, reference, state, due, band⟩ :=
    transitioned_spec case change reason note instant
  refine ⟨⟨found, id, borrowerId, reference, rfl, ?_, ?_, actorId, instant, ?_⟩, rfl, due, band⟩
  · rw [← source]
    exact change.fromState_ne_closed
  · rw [state]
    exact if_pos ⟨source, source ▸ change.permitted⟩
  · rw [appended_events, id]
    rfl

theorem transitionCase_moved {principal : Principal} {key : CaseKey} {target : Text}
    {reason note : Option Text} {expectedVersion : Option Int} {scope : Option Scope}
    {instant : UtcInstant} {updated : Case}
    (written : service.transitionCase directory principal key target reason note expectedVersion
      scope instant book = .ok (updated, after)) :
    ∃ row row' payload, Moved book after row row' payload := by
  unfold CaseService.transitionCase at written
  obtain ⟨resolved, _, written⟩ := Except.bind_eq_ok_iff.mp written
  obtain ⟨case, locked, written⟩ := Except.bind_eq_ok_iff.mp written
  obtain ⟨_, _, written⟩ := Except.bind_eq_ok_iff.mp written
  obtain ⟨reason', _, written⟩ := Except.bind_eq_ok_iff.mp written
  obtain ⟨note', _, written⟩ := Except.bind_eq_ok_iff.mp written
  obtain ⟨target', _, written⟩ := Except.bind_eq_ok_iff.mp written
  obtain ⟨change, changed, written⟩ := Except.bind_eq_ok_iff.mp written
  rw [← (Prod.mk.inj (Except.ok.inj written)).2]
  exact ⟨_, _, _, transitioned_moved (lockedCase_eq_ok locked) (transitionResult_eq_ok changed).1⟩

/-- A breach escalates one case. -/
def Breach (book after : CaseBook) : Prop :=
  ∃ (row row' : Case) (due overdueAt : UtcInstant) (assignee : Uuid),
    Moved book after row row' (.slaBreached due overdueAt assignee)

theorem escalateCase_breach {case updated : Case} {due : UtcInstant} {actorId : Uuid}
    {instant : UtcInstant} (found : book.cases.find case.id = some case)
    (notClosed : case.state ≠ .closed)
    (written : service.escalateCase case due actorId instant book = .ok (updated, after)) :
    Breach book after := by
  unfold CaseService.escalateCase at written
  obtain ⟨change, changed, written⟩ := Except.bind_eq_ok_iff.mp written
  obtain ⟨source, target⟩ := transitionResult_eq_ok changed
  cases assigned : case.assigneeId with
  | none => simp [assigned] at written
  | some assignee =>
    simp only [assigned] at written
    obtain ⟨book', queued, same⟩ := Except.map_eq_ok_iff.mp written
    cases same
    obtain ⟨cases, events⟩ := queueAndNotify_eq_ok queued
    refine ⟨case, CaseService.escalatedRow case change instant, due, instant, assignee,
      ⟨found, rfl, rfl, rfl, cases, notClosed, ?_, actorId, instant, events⟩, rfl, rfl, rfl⟩
    have permitted := change.permitted
    rw [source, target] at permitted
    exact (if_pos permitted).trans (congrArg some target.symm)

theorem escalateStep_breach {actorId : Uuid} {instant : UtcInstant}
    {progress progress' : List Case × CaseBook} {candidate : Case}
    (written : service.escalateStep directory scope actorId instant progress candidate =
      .ok progress') :
    progress'.2 = progress.2 ∨ Breach progress.2 progress'.2 := by
  unfold CaseService.escalateStep at written
  cases found : CaseBook.getForUpdate directory scope progress.2 candidate.id with
  | none =>
    simp only [found] at written
    cases written
    exact .inl rfl
  | some case =>
    simp only [found] at written
    cases due : case.dueAt with
    | none =>
      simp only [due] at written
      cases written
      exact .inl rfl
    | some instant' =>
      simp only [due] at written
      by_cases skipped : case.state = .closed ∨ isOverdue instant' instant = false ∨
          case.state = .escalated
      · rw [if_pos skipped] at written
        cases written
        exact .inl rfl
      · rw [if_neg skipped] at written
        obtain ⟨⟨updated, book'⟩, escalation, same⟩ := Except.map_eq_ok_iff.mp written
        cases same
        exact .inr (escalateCase_breach (getForUpdate_eq_some found).1
          (fun closed => skipped (.inl closed)) escalation)

/-- A sweep is a run of breaches. -/
theorem escalateOverdue_breaches {principal : Principal} {scope : Option Scope}
    {instant : UtcInstant} {escalated : List Case}
    (written : service.escalateOverdue directory principal scope instant book =
      .ok (escalated, after)) :
    Relation.ReflTransGen Breach book after := by
  unfold CaseService.escalateOverdue at written
  obtain ⟨resolved, _, written⟩ := Except.bind_eq_ok_iff.mp written
  refine foldlM_invariant (fun progress : List Case × CaseBook =>
    Relation.ReflTransGen Breach book progress.2) ?_ .refl written
  intro progress candidate progress' _ reached step
  rcases escalateStep_breach step with same | breach
  · rw [same]
    exact reached
  · exact reached.tail breach

theorem nightlyStep_effect {assigneeId : Option Uuid} {instant : UtcInstant}
    {nightly : NightlyEntry} :
    nightlyStep assigneeId instant book nightly = book ∨
      Opened book (nightlyStep assigneeId instant book nightly)
        (nightlyCase assigneeId instant book nightly) := by
  unfold nightlyStep
  split_ifs with openCase
  · exact .inl rfl
  · cases inserted : book.insertCase (nightlyCase assigneeId instant book nightly) with
    | error error => exact .inl rfl
    | ok after =>
      obtain ⟨fresh, rfl, unused⟩ := CaseBook.insertCase_eq_ok inserted
      refine .inr ⟨KeyedTable.find_eq_none_iff.mp fresh, rfl, rfl, ?_, unused, [], by simp, by simp⟩
      intro other listed owned
      by_contra notClosed
      refine openCase (List.any_eq_true.mpr ⟨other, listed, ?_⟩)
      simpa using ⟨owned, notClosed⟩

/-- The nightly case step is a run of openings. -/
theorem runUpdateCases_opened {assigneeId : Option Uuid} {instant : UtcInstant}
    {entries : List NightlyEntry} :
    Relation.ReflTransGen (fun book after => ∃ row, Opened book after row) book
      (runUpdateCases assigneeId instant entries book) := by
  unfold runUpdateCases
  refine List.foldlRecOn _ _ .refl ?_
  intro book' reached nightly _
  rcases nightlyStep_effect with same | opening
  · rw [same]
    exact reached
  · exact reached.tail ⟨_, opening⟩

/-- Every call is a run of effects. -/
theorem Call.effects (service : CaseService) (book : CaseBook) (call : Call) :
    Relation.ReflTransGen (Effect service call.instant) book (call.after service book) := by
  unfold Call.after
  cases ran : call.run service book with
  | error error => exact .refl
  | ok after =>
    cases call with
    | openOrUpdate directory principal source assigneeId scope instant id =>
      obtain ⟨⟨result, after'⟩, written, rfl⟩ := Except.map_eq_ok_iff.mp ran
      rcases openOrUpdate_effect written with rfl | effect
      · exact .refl
      · exact .single effect
    | transitionCase directory principal key target reason note expectedVersion scope instant =>
      obtain ⟨⟨result, after'⟩, written, rfl⟩ := Except.map_eq_ok_iff.mp ran
      obtain ⟨row, row', payload, moving⟩ := transitionCase_moved written
      exact .single (.moved moving)
    | escalateOverdue directory principal scope instant =>
      obtain ⟨⟨result, after'⟩, written, rfl⟩ := Except.map_eq_ok_iff.mp ran
      refine @Relation.ReflTransGen.mono _ Breach (Effect service instant) ?_ _ _
        (escalateOverdue_breaches written)
      rintro book after ⟨row, row', due, overdueAt, assignee, moving⟩
      exact .moved moving
    | updateCases assigneeId instant entries =>
      cases ran
      exact @Relation.ReflTransGen.mono _ (fun book after => ∃ row, Opened book after row)
        (Effect service instant) (fun _ _ opening => opening.elim fun _ => .opened) _ _
        runUpdateCases_opened

end Cases

end CovenantRadar
