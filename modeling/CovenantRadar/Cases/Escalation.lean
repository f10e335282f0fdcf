import CovenantRadar.Cases.Histories

/-!
# The overdue sweep

A sweep escalates the overdue cases one after the other in one savepoint: what it leaves when every
one of them can be escalated, and that it leaves nothing otherwise.
-/

namespace CovenantRadar

namespace Cases

open Security

variable {service : CaseService} {directory : Directory} {scope : Scope} {book : CaseBook}

/-! ## One case of a sweep -/

/-- What the notification of a breach says. -/
def breachPayload (case : Case) (due instant : UtcInstant) : NotificationPayload :=
  ⟨case.reference, case.id, case.borrowerId, none, some due, some instant⟩

/-- A case that a sweep can escalate by itself: it has an assignee, and a notifier, if there is
    one, takes the notification. -/
def Escalatable (service : CaseService) (instant : UtcInstant) (case : Case) : Prop :=
  ∃ assignee due, case.assigneeId = some assignee ∧ case.dueAt = some due ∧
    service.notify .slaBreach [assignee] (breachPayload case due instant) = .ok ()

/-- The history row of a breach. -/
def breachEvent (actorId : Uuid) (instant : UtcInstant) (case : Case) : Option CaseEvent :=
  case.assigneeId.bind fun assignee => case.dueAt.map fun due =>
    ⟨case.id, .slaBreached due instant assignee, actorId, instant⟩

/-- The notification of a breach, unless one was queued for the assignee before. -/
def breachNotice (book : CaseBook) (instant : UtcInstant) (case : Case) : Option Notification :=
  case.assigneeId.bind fun assignee => case.dueAt.bind fun due =>
    if queued book assignee .slaBreach case.id then none
    else some ⟨assignee, .slaBreach, case.id, breachPayload case due instant, instant⟩

theorem transitionResult_escalated {source : CaseState} (notEscalated : source ≠ .escalated)
    (notClosed : source ≠ .closed) : transitionResult source .escalated none =
      .ok ⟨source, .escalated, escalated_permitted notEscalated notClosed⟩ :=
  dif_pos (escalated_permitted notEscalated notClosed)

/-- What a sweep makes of one case. -/
structure Escalated (actorId : Uuid) (instant : UtcInstant) (book after : CaseBook) (case : Case) :
    Prop where
  row : ∃ row', row'.id = case.id ∧ row'.state = .escalated ∧ after.cases = book.cases.put row'
  events : after.events = book.events ++ (breachEvent actorId instant case).toList
  notifications : after.notifications = book.notifications ++ (breachNotice book instant case).toList

theorem escalateCase_returns {case : Case} {due : UtcInstant} (actorId : Uuid) (instant : UtcInstant)
    (dueAt : case.dueAt = some due) (notEscalated : case.state ≠ .escalated)
    (notClosed : case.state ≠ .closed) (escalatable : Escalatable service instant case) :
    ∃ updated after, service.escalateCase case due actorId instant book = .ok (updated, after) ∧
      Escalated actorId instant book after case := by
  obtain ⟨assignee, due', assigned, dueAt', accepts⟩ := escalatable
  have same : due' = due := Option.some.inj (dueAt'.symm.trans dueAt)
  subst same
  have changed := transitionResult_escalated notEscalated notClosed
  let updated := CaseService.escalatedRow case
    ⟨case.state, .escalated, escalated_permitted notEscalated notClosed⟩ instant
  refine ⟨updated, queueFor updated .slaBreach (breachPayload case due' instant) instant
    (appendEvent (book.putCase updated) updated (.slaBreached due' instant assignee) actorId instant)
    assignee, ?_, ?_⟩
  · unfold CaseService.escalateCase
    rw [Except.bind_eq_ok_iff]
    refine ⟨_, changed, ?_⟩
    simp only [assigned]
    rw [Except.map_eq_ok_iff]
    refine ⟨_, ?_, rfl⟩
    unfold CaseService.queueAndNotify
    simp [List.eraseDups_cons, breachPayload] at accepts ⊢
    rw [accepts]
    rfl
  · refine ⟨⟨updated, rfl, rfl, ?_⟩, ?_, ?_⟩
    · rw [cases_queueFor]
      rfl
    · rw [events_queueFor, appended_events]
      simp [breachEvent, assigned, dueAt, updated, CaseService.escalatedRow]
    · have before : queued (appendEvent (book.putCase updated) updated
          (.slaBreached due' instant assignee) actorId instant) assignee .slaBreach updated.id =
          queued book assignee .slaBreach case.id := rfl
      unfold queueFor
      rw [before]
      by_cases old : queued book assignee .slaBreach case.id = true
      · simp [breachNotice, assigned, dueAt, old, appendEvent]
      · simp [breachNotice, assigned, dueAt, old, appendEvent, updated, CaseService.escalatedRow]

theorem escalatable_of_escalateCase {case : Case} {due : UtcInstant} {actorId : Uuid}
    {instant : UtcInstant} {result : Case × CaseBook} (dueAt : case.dueAt = some due)
    (written : service.escalateCase case due actorId instant book = .ok result) :
    Escalatable service instant case := by
  unfold CaseService.escalateCase at written
  obtain ⟨change, _, written⟩ := Except.bind_eq_ok_iff.mp written
  cases assigned : case.assigneeId with
  | none => simp [assigned] at written
  | some assignee =>
    simp only [assigned] at written
    obtain ⟨after, notified, _⟩ := Except.map_eq_ok_iff.mp written
    unfold CaseService.queueAndNotify at notified
    simp only [List.eraseDups_cons, List.filter_nil, List.eraseDups_nil, List.cons_ne_nil,
      if_false] at notified
    obtain ⟨_, accepts, _⟩ := Except.map_eq_ok_iff.mp notified
    exact ⟨assignee, due, assigned, dueAt, accepts⟩

/-! ## The loop of a sweep -/

/-- A row that a sweep reads. -/
structure Candidate (directory : Directory) (scope : Scope) (instant : UtcInstant)
    (book : CaseBook) (case : Case) : Prop where
  found : CaseBook.getForUpdate directory scope book case.id = some case
  notClosed : case.state ≠ .closed
  due : CaseBook.isDue case instant = true

theorem escalateStep_escalated {actorId : Uuid} {instant : UtcInstant} {escalated : List Case}
    {case : Case} (candidate : Candidate directory scope instant book case)
    (already : case.state = .escalated) :
    service.escalateStep directory scope actorId instant (escalated, book) case =
      .ok (escalated, book) := by
  obtain ⟨due, dueAt, _⟩ := CaseBook.isDue_eq_true_iff.mp candidate.due
  simp [CaseService.escalateStep, candidate.found, dueAt, already]

theorem escalateStep_target {actorId : Uuid} {instant : UtcInstant} {escalated : List Case}
    {case : Case} {due : UtcInstant} (candidate : Candidate directory scope instant book case)
    (dueAt : case.dueAt = some due) (target : case.state ≠ .escalated) :
    service.escalateStep directory scope actorId instant (escalated, book) case =
      (service.escalateCase case due actorId instant book).map fun result =>
        (escalated ++ [result.1], result.2) := by
  obtain ⟨due', dueAt', passed⟩ := CaseBook.isDue_eq_true_iff.mp candidate.due
  have same : due' = due := Option.some.inj (dueAt'.symm.trans dueAt)
  subst same
  have overdue : isOverdue due' instant = true := by simpa [isOverdue] using passed
  simp [CaseService.escalateStep, candidate.found, dueAt, candidate.notClosed, overdue, target]

/-- The rows of the other cases stay as they were. -/
theorem Escalated.candidate {actorId : Uuid} {instant : UtcInstant} {after : CaseBook}
    {case other : Case} (escalated : Escalated actorId instant book after case)
    (here : Candidate directory scope instant book case)
    (candidate : Candidate directory scope instant book other) (differs : other.id ≠ case.id) :
    Candidate directory scope instant after other := by
  obtain ⟨row', id, _, cases⟩ := escalated.row
  refine ⟨?_, candidate.notClosed, candidate.due⟩
  have found := (getForUpdate_eq_some here.found).1
  have present : book.cases.find row'.id = some case := by rw [id, found]
  unfold CaseBook.getForUpdate
  rw [cases, KeyedTable.find_put present, if_neg (by rw [id]; exact differs)]
  exact candidate.found

theorem Escalated.breachNotice {actorId : Uuid} {instant : UtcInstant} {after : CaseBook}
    {case other : Case} (escalated : Escalated actorId instant book after case)
    (differs : other.id ≠ case.id) :
    breachNotice after instant other = breachNotice book instant other := by
  have same (assignee : Uuid) : queued after assignee .slaBreach other.id =
      queued book assignee .slaBreach other.id := by
    unfold queued
    rw [escalated.notifications, List.any_append]
    have others : (Cases.breachNotice book instant case).toList.any (fun row =>
        row.recipientId = assignee && row.template = .slaBreach && row.subjectId = other.id) =
        false := by
      rw [List.any_eq_false]
      intro notice member
      have named : notice.subjectId = case.id := by
        rw [Option.mem_toList] at member
        obtain ⟨assignee', _, rest⟩ := Option.bind_eq_some_iff.mp member
        obtain ⟨due, _, last⟩ := Option.bind_eq_some_iff.mp rest
        split_ifs at last
        rw [← Option.some.inj last]
      simp [named, Ne.symm differs]
    rw [others, Bool.or_false]
  unfold Cases.breachNotice
  simp only [same]

/-- What a sweep leaves when every case it is to escalate can be escalated. -/
theorem sweep_returns {actorId : Uuid} {instant : UtcInstant} {candidates escalated : List Case}
    (distinct : (candidates.map Case.id).Nodup)
    (reads : ∀ case ∈ candidates, Candidate directory scope instant book case)
    (escalatable : ∀ case ∈ candidates, case.state ≠ .escalated → Escalatable service instant case) :
    ∃ escalated' after, candidates.foldlM (service.escalateStep directory scope actorId instant)
        (escalated, book) = .ok (escalated', after) ∧
      after.events = book.events ++ (candidates.filter fun case =>
        case.state != .escalated).filterMap (breachEvent actorId instant) ∧
      after.notifications = book.notifications ++ (candidates.filter fun case =>
        case.state != .escalated).filterMap (breachNotice book instant) ∧
      ∀ case ∈ book.cases.rows, (case.state = .escalated ∨ case ∈ candidates) →
        ∃ row' ∈ after.cases.rows, row'.id = case.id ∧ row'.state = .escalated := by
  induction candidates generalizing book escalated with
  | nil =>
    refine ⟨escalated, book, rfl, by simp, by simp, ?_⟩
    intro case listed state
    exact ⟨case, listed, rfl, state.resolve_right List.not_mem_nil⟩
  | cons candidate rest ih =>
    rw [List.map_cons, List.nodup_cons] at distinct
    have here := reads candidate List.mem_cons_self
    have later := fun case member => reads case (List.mem_cons_of_mem candidate member)
    have able := fun case member => escalatable case (List.mem_cons_of_mem candidate member)
    have differs : ∀ case ∈ rest, case.id ≠ candidate.id := fun case member same =>
      distinct.1 (same ▸ List.mem_map_of_mem member)
    by_cases already : candidate.state = .escalated
    · obtain ⟨escalated', after, returned, events, notifications, states⟩ :=
        @ih book escalated distinct.2 later able
      have skipped : (candidate :: rest).filter (fun case => case.state != .escalated) =
          rest.filter fun case => case.state != .escalated :=
        List.filter_cons_of_neg (by simp [already])
      rw [skipped]
      refine ⟨escalated', after, foldlM_cons_eq_ok_iff.mpr
        ⟨_, escalateStep_escalated here already, returned⟩, events, notifications, ?_⟩
      intro case listed state
      refine states case listed ?_
      rcases state with old | member
      · exact .inl old
      · rcases List.mem_cons.mp member with rfl | member
        · exact .inl already
        · exact .inr member
    · obtain ⟨due, dueAt, _⟩ := CaseBook.isDue_eq_true_iff.mp here.due
      obtain ⟨updated, middle, written, one⟩ := @escalateCase_returns service book candidate due
        actorId instant dueAt already here.notClosed (escalatable candidate List.mem_cons_self already)
      have found := (getForUpdate_eq_some here.found).1
      have stepped : service.escalateStep directory scope actorId instant (escalated, book)
          candidate = .ok (escalated ++ [updated], middle) := by
        rw [escalateStep_target here dueAt already, written]
        rfl
      obtain ⟨escalated', after, returned, events, notifications, states⟩ :=
        @ih middle (escalated ++ [updated]) distinct.2
          (fun case member => one.candidate here (later case member) (differs case member)) able
      have taken : (candidate :: rest).filter (fun case => case.state != .escalated) =
          candidate :: rest.filter fun case => case.state != .escalated :=
        List.filter_cons_of_pos (by simp [already])
      have notices : (rest.filter fun case => case.state != .escalated).filterMap
          (breachNotice middle instant) =
          (rest.filter fun case => case.state != .escalated).filterMap (breachNotice book instant) :=
        List.filterMap_congr fun case member =>
          one.breachNotice (differs case (List.mem_of_mem_filter member))
      rw [taken]
      refine ⟨escalated', after, foldlM_cons_eq_ok_iff.mpr ⟨_, stepped, returned⟩, ?_, ?_, ?_⟩
      · rw [events, one.events, List.append_assoc, List.filterMap_cons]
        cases breachEvent actorId instant candidate <;> simp
      · rw [notifications, one.notifications, notices, List.append_assoc, List.filterMap_cons]
        cases breachNotice book instant candidate <;> simp
      · obtain ⟨row', id, escalatedRow, cases⟩ := one.row
        intro case listed state
        by_cases same : case.id = candidate.id
        · have listed' : row' ∈ middle.cases.rows := by
            rw [cases]
            exact (mem_put_iff found id).mpr (.inl rfl)
          obtain ⟨row'', listed'', id', final⟩ := states row' listed' (.inl escalatedRow)
          exact ⟨row'', listed'', id'.trans (id.trans same.symm), final⟩
        · have listed' : case ∈ middle.cases.rows := by
            rw [cases]
            exact (mem_put_iff found id).mpr (.inr ⟨listed, same⟩)
          refine states case listed' (state.imp_right fun member => ?_)
          rcases List.mem_cons.mp member with rfl | member
          · exact absurd rfl same
          · exact member

/-- A sweep that returns could escalate every case it was to escalate. -/
theorem escalatable_of_sweep {actorId : Uuid} {instant : UtcInstant}
    {candidates escalated : List Case} {result : List Case × CaseBook}
    (distinct : (candidates.map Case.id).Nodup)
    (reads : ∀ case ∈ candidates, Candidate directory scope instant book case)
    (returned : candidates.foldlM (service.escalateStep directory scope actorId instant)
      (escalated, book) = .ok result) :
    ∀ case ∈ candidates, case.state ≠ .escalated → Escalatable service instant case := by
  induction candidates generalizing book escalated with
  | nil =>
    intro case member
    cases member
  | cons candidate rest ih =>
    rw [List.map_cons, List.nodup_cons] at distinct
    have here := reads candidate List.mem_cons_self
    have later := fun case member => reads case (List.mem_cons_of_mem candidate member)
    obtain ⟨⟨escalated', middle⟩, stepped, rest'⟩ := foldlM_cons_eq_ok_iff.mp returned
    by_cases already : candidate.state = .escalated
    · rw [escalateStep_escalated here already] at stepped
      cases stepped
      intro case member notEscalated
      rcases List.mem_cons.mp member with rfl | member
      · exact absurd already notEscalated
      · exact ih distinct.2 later rest' case member notEscalated
    · obtain ⟨due, dueAt, _⟩ := CaseBook.isDue_eq_true_iff.mp here.due
      rw [escalateStep_target here dueAt already] at stepped
      obtain ⟨written, ran, same⟩ := Except.map_eq_ok_iff.mp stepped
      have able := escalatable_of_escalateCase dueAt ran
      obtain ⟨updated, after, ran', one⟩ := @escalateCase_returns service book candidate due
        actorId instant dueAt already here.notClosed able
      have equal : middle = after := by
        rw [ran, Except.ok.injEq] at ran'
        rw [← (Prod.mk.inj same).2, ran']
      subst equal
      intro case member notEscalated
      rcases List.mem_cons.mp member with rfl | member
      · exact able
      · refine ih distinct.2 (fun other member' => one.candidate here (later other member') ?_) rest'
          case member notEscalated
        exact fun same => distinct.1 (same ▸ List.mem_map_of_mem member')

/-! ## Whole sweeps -/

theorem mem_overdue {instant : UtcInstant} {case : Case} :
    case ∈ CaseBook.overdue directory scope book instant ↔
      case ∈ book.cases.rows ∧ case.state ≠ .closed ∧ CaseBook.isDue case instant = true ∧
        CaseBook.inScope directory scope case = true := by
  unfold CaseBook.overdue
  rw [List.mem_insertionSort, List.mem_filter]
  simp [and_assoc]

theorem overdue_distinct (instant : UtcInstant) :
    ((CaseBook.overdue directory scope book instant).map Case.id).Nodup := by
  unfold CaseBook.overdue
  rw [((List.perm_insertionSort _ _).map Case.id).nodup_iff]
  exact (List.filter_sublist.map Case.id).nodup book.cases.distinct

theorem overdue_candidate {instant : UtcInstant} {case : Case}
    (member : case ∈ CaseBook.overdue directory scope book instant) :
    Candidate directory scope instant book case := by
  obtain ⟨listed, notClosed, due, visible⟩ := mem_overdue.mp member
  exact ⟨Option.filter_eq_some_iff.mpr ⟨KeyedTable.find_of_mem listed, visible⟩, notClosed, due⟩

/-- The cases a sweep is to escalate: overdue, in scope, and not escalated before. -/
def IsTarget (directory : Directory) (scope : Scope) (book : CaseBook) (instant : UtcInstant)
    (case : Case) : Prop :=
  case ∈ CaseBook.overdue directory scope book instant ∧ case.state ≠ .escalated

/-- What a sweep is for: every target that can be escalated is, and each breach it records has a
    notification of its own. -/
def SweepDelivers (service : CaseService) (directory : Directory) (scope : Scope)
    (instant : UtcInstant) (book after : CaseBook) : Prop :=
  (∀ case, IsTarget directory scope book instant case → Escalatable service instant case →
    ∃ row' ∈ after.cases.rows, row'.id = case.id ∧ row'.state = .escalated) ∧
  ∀ event ∈ after.events.drop book.events.length, ∀ due overdueAt assignee,
    event.payload = .slaBreached due overdueAt assignee →
      ∃ notice ∈ after.notifications.drop book.notifications.length,
        notice.recipientId = assignee ∧ notice.template = .slaBreach ∧
          notice.subjectId = event.caseId

theorem breachEvent_eq_some {actorId : Uuid} {instant : UtcInstant} {case : Case}
    {event : CaseEvent} (some' : breachEvent actorId instant case = some event) :
    ∃ assignee due, case.assigneeId = some assignee ∧ case.dueAt = some due ∧
      event = ⟨case.id, .slaBreached due instant assignee, actorId, instant⟩ := by
  obtain ⟨assignee, assigned, rest⟩ := Option.bind_eq_some_iff.mp some'
  obtain ⟨due, dueAt, same⟩ := Option.map_eq_some_iff.mp rest
  exact ⟨assignee, due, assigned, dueAt, same.symm⟩

theorem breachNotice_eq_some {instant : UtcInstant} {case : Case} {notice : Notification}
    (some' : breachNotice book instant case = some notice) :
    ∃ assignee, case.assigneeId = some assignee ∧ notice.recipientId = assignee ∧
      notice.template = .slaBreach ∧ notice.subjectId = case.id ∧
        queued book assignee .slaBreach case.id = false := by
  obtain ⟨assignee, assigned, rest⟩ := Option.bind_eq_some_iff.mp some'
  obtain ⟨due, _, last⟩ := Option.bind_eq_some_iff.mp rest
  split_ifs at last with old
  rw [← Option.some.inj last]
  exact ⟨assignee, assigned, rfl, rfl, rfl, by simpa using old⟩

theorem mem_targets {instant : UtcInstant} {case : Case} :
    case ∈ (CaseBook.overdue directory scope book instant).filter
      (fun case => case.state != .escalated) ↔ IsTarget directory scope book instant case := by
  simp [IsTarget, List.mem_filter]

/-- The sweep of an authorised caller, on tables from which every target can be escalated. -/
theorem delivers_iff_of_able {instant : UtcInstant} {actorId : Uuid} {after : CaseBook}
    {escalated : List Case}
    (able : ∀ case, IsTarget directory scope book instant case → Escalatable service instant case)
    (returned : (CaseBook.overdue directory scope book instant).foldlM
      (service.escalateStep directory scope actorId instant) ([], book) = .ok (escalated, after)) :
    SweepDelivers service directory scope instant book after ↔
      ∀ case, IsTarget directory scope book instant case → ∀ assignee,
        case.assigneeId = some assignee → queued book assignee .slaBreach case.id = false := by
  obtain ⟨escalated', after', returned', events, notifications, states⟩ :=
    @sweep_returns service directory scope book actorId instant _ [] (overdue_distinct instant)
      (fun case => overdue_candidate) fun case member target => able case ⟨member, target⟩
  have same : after = after' := by
    rw [returned', Except.ok.injEq] at returned
    exact (Prod.mk.inj returned).2.symm
  subst same
  unfold SweepDelivers
  rw [events, notifications, List.drop_left, List.drop_left]
  constructor
  · rintro ⟨_, notified⟩ case target assignee assigned
    obtain ⟨assignee', due, assigned', dueAt, _⟩ := able case target
    have named : assignee' = assignee := Option.some.inj (assigned'.symm.trans assigned)
    subst named
    have event : breachEvent actorId instant case =
        some ⟨case.id, .slaBreached due instant assignee', actorId, instant⟩ := by
      simp [breachEvent, assigned, dueAt]
    obtain ⟨notice, member, recipient, _, subject⟩ := notified _
      (List.mem_filterMap.mpr ⟨case, mem_targets.mpr target, event⟩) due instant assignee' rfl
    obtain ⟨other, listed, some'⟩ := List.mem_filterMap.mp member
    obtain ⟨_, _, recipient', _, subject', fresh⟩ := breachNotice_eq_some some'
    have rows := (mem_overdue.mp target.1).1
    have rows' := (mem_overdue.mp (mem_targets.mp listed).1).1
    have equal := CaseBook.row_eq_of_id rows rows' (subject'.symm.trans subject)
    subst equal
    rwa [← recipient', recipient] at fresh
  · intro fresh
    constructor
    · intro case target _
      exact states case (mem_overdue.mp target.1).1 (.inr target.1)
    · intro event member due overdueAt assignee breach
      obtain ⟨case, listed, some'⟩ := List.mem_filterMap.mp member
      obtain ⟨assignee', due', assigned, dueAt, rfl⟩ := breachEvent_eq_some some'
      cases breach
      refine ⟨⟨assignee, .slaBreach, case.id, breachPayload case due instant, instant⟩,
        List.mem_filterMap.mpr ⟨case, listed, ?_⟩, rfl, rfl, rfl⟩
      simp [breachNotice, assigned, dueAt, fresh case (mem_targets.mp listed) assignee assigned]

/-- The sweep of an authorised caller delivers exactly when no target can be escalated, or every
    target can and none has had a breach notification before. -/
theorem sweep_delivers_iff {principal : Principal} {given : Option Scope} {resolved : Scope}
    (authorised : service.authorizedContext principal given .updateCase = .ok resolved)
    (directory : Directory) (instant : UtcInstant) (book : CaseBook) :
    SweepDelivers service directory resolved instant book
        ((Call.escalateOverdue directory principal given instant).after service book) ↔
      (∀ case, IsTarget directory resolved book instant case →
        ¬ Escalatable service instant case) ∨
      ∀ case, IsTarget directory resolved book instant case →
        Escalatable service instant case ∧ ∀ assignee, case.assigneeId = some assignee →
          queued book assignee .slaBreach case.id = false := by
  have context (result : List Case × CaseBook) :
      service.escalateOverdue directory principal given instant book = .ok result ↔
        (CaseBook.overdue directory resolved book instant).foldlM
          (service.escalateStep directory resolved principal.id instant) ([], book) = .ok result := by
    unfold CaseService.escalateOverdue
    rw [authorised]
    rfl
  by_cases able : ∀ case, IsTarget directory resolved book instant case →
      Escalatable service instant case
  · obtain ⟨escalated, after, returned, _⟩ :=
      @sweep_returns service directory resolved book principal.id instant _ []
        (overdue_distinct instant) (fun case => overdue_candidate)
        fun case member target => able case ⟨member, target⟩
    have left' : (Call.escalateOverdue directory principal given instant).after service book =
        after := by
      simp [Call.after, Call.run, (context _).mpr returned, Except.map]
    rw [left', delivers_iff_of_able able returned]
    constructor
    · intro fresh
      exact .inr fun case target => ⟨able case target, fresh case target⟩
    · rintro (nobody | each) case target
      · exact absurd (able case target) (nobody case target)
      · exact (each case target).2
  · have left' : (Call.escalateOverdue directory principal given instant).after service book =
        book := by
      simp only [Call.after, Call.run]
      cases ran : service.escalateOverdue directory principal given instant book with
      | error error => rfl
      | ok result =>
        refine absurd (fun case target => ?_) able
        exact escalatable_of_sweep (overdue_distinct instant) (fun case => overdue_candidate)
          ((context result).mp ran) case target.1 target.2
    rw [left']
    constructor
    · rintro ⟨escalates, _⟩
      refine .inl fun case target possible => ?_
      obtain ⟨row', listed, id, state⟩ := escalates case target possible
      rw [CaseBook.row_eq_of_id (mem_overdue.mp target.1).1 listed id] at state
      exact target.2 state
    · rintro (nobody | each)
      · refine ⟨fun case target possible => absurd possible (nobody case target), ?_⟩
        intro event member
        rw [List.drop_length] at member
        cases member
      · exact absurd (fun case target => (each case target).1) able

/-- The nightly case of the first borrower, for whom no assignee is configured. -/
def unassignedCase : Call :=
  .updateCases none (workday ⟨0, workday_first⟩)
    [⟨⟨Uuid.ofInt 60, Uuid.ofInt 1, .act, Uuid.ofInt 61⟩, Uuid.ofInt 101⟩]

/-- The nightly case gets a deadline with its band, and another case is overdue with it. -/
def mixedBook : CaseBook :=
  runCalls sampleService .empty
    [unassignedCase, sampleWarning 1 "amber" ⟨0, workday_first⟩,
      sampleWarning 2 "act" ⟨0, workday_first⟩]

/-- A sweep of a book with one overdue case. -/
theorem sweep_delivers_iff_sample :
    SweepDelivers sampleService sampleDirectory ⟨Uuid.ofInt 40, ["retail/".toList], []⟩ (workday 1)
        (runCalls sampleService .empty [sampleWarning 2 "act" 0])
        ((sampleSweep 1).after sampleService
          (runCalls sampleService .empty [sampleWarning 2 "act" 0])) ↔
      (∀ case, IsTarget sampleDirectory ⟨Uuid.ofInt 40, ["retail/".toList], []⟩
        (runCalls sampleService .empty [sampleWarning 2 "act" 0]) (workday 1) case →
        ¬ Escalatable sampleService (workday 1) case) ∨
      ∀ case, IsTarget sampleDirectory ⟨Uuid.ofInt 40, ["retail/".toList], []⟩
        (runCalls sampleService .empty [sampleWarning 2 "act" 0]) (workday 1) case →
        Escalatable sampleService (workday 1) case ∧ ∀ assignee, case.assigneeId = some assignee →
          queued (runCalls sampleService .empty [sampleWarning 2 "act" 0]) assignee .slaBreach
            case.id = false :=
  sweep_delivers_iff rfl sampleDirectory (workday 1) _

/-- One overdue case without an assignee keeps the other from being escalated. -/
theorem sweep_blocked :
    ¬ SweepDelivers sampleService sampleDirectory ⟨Uuid.ofInt 40, ["retail/".toList], []⟩
      (workday 5) mixedBook ((sampleSweep 5).after sampleService mixedBook) := by
  rintro ⟨escalates, _⟩
  have target : ∃ case ∈ CaseBook.overdue sampleDirectory
      ⟨Uuid.ofInt 40, ["retail/".toList], []⟩ mixedBook (workday 5), case.id = Uuid.ofInt 102 ∧
        case.state = .open' ∧ case.assigneeId = some (Uuid.ofInt 50) ∧ case.dueAt.isSome := by decide
  obtain ⟨case, overdue, id, state, assigned, due⟩ := target
  obtain ⟨due, dueAt⟩ := Option.isSome_iff_exists.mp due
  obtain ⟨row', listed, id', escalated⟩ := escalates case ⟨overdue, by rw [state]; decide⟩
    ⟨Uuid.ofInt 50, due, assigned, dueAt, rfl⟩
  rw [id] at id'
  have blocked : ∀ row ∈ ((sampleSweep 5).after sampleService mixedBook).cases.rows,
      row.id = Uuid.ofInt 102 → row.state ≠ .escalated := by decide
  exact blocked row' listed id' escalated

end Cases

end CovenantRadar
