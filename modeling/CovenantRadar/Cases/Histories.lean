import CovenantRadar.Cases.Effects

/-!
# Case histories

Over every run a borrower has at most one case that is not closed, a closed case does not change,
and the history rows of a case replay the path of its states from open.
-/

namespace CovenantRadar

namespace Cases

/-! ## Replaying history rows -/

/-- The payloads of one case, in the order they were appended. -/
def historyIn (events : List CaseEvent) (caseId : Uuid) : List CaseEventPayload :=
  (events.filter fun event => event.caseId = caseId).map CaseEvent.payload

/-- The state that history rows lead to, if each is permitted where it stands. -/
def replay (source : CaseState) (payloads : List CaseEventPayload) : Option CaseState :=
  payloads.foldlM CaseEventPayload.advance source

theorem historyIn_append (events later : List CaseEvent) (caseId : Uuid) :
    historyIn (events ++ later) caseId = historyIn events caseId ++ historyIn later caseId := by
  simp [historyIn]

theorem historyIn_of_other {events : List CaseEvent} {caseId : Uuid}
    (other : ∀ event ∈ events, event.caseId ≠ caseId) : historyIn events caseId = [] := by
  unfold historyIn
  rw [List.filter_eq_nil_iff.mpr, List.map_nil]
  intro event member
  simpa using other event member

theorem historyIn_singleton (event : CaseEvent) : historyIn [event] event.caseId =
    [event.payload] := by
  simp [historyIn]

theorem mem_historyIn {events : List CaseEvent} {caseId : Uuid} {payload : CaseEventPayload} :
    payload ∈ historyIn events caseId ↔
      ∃ event ∈ events, event.caseId = caseId ∧ event.payload = payload := by
  simp [historyIn, and_assoc]

@[simp] theorem replay_nil (source : CaseState) : replay source [] = some source := rfl

theorem replay_append (source : CaseState) (first later : List CaseEventPayload) :
    replay source (first ++ later) = (replay source first).bind fun state => replay state later := by
  simp [replay, List.foldlM_append]

theorem replay_singleton (source : CaseState) (payload : CaseEventPayload) :
    replay source [payload] = payload.advance source := by
  simp [replay]

theorem replay_cons (source : CaseState) (payload : CaseEventPayload)
    (later : List CaseEventPayload) :
    replay source (payload :: later) = (payload.advance source).bind fun state =>
      replay state later := rfl

theorem replay_of_neutral {payloads : List CaseEventPayload} (source : CaseState)
    (neutral : ∀ payload ∈ payloads, payload.isStateChange = false) :
    replay source payloads = some source := by
  induction payloads with
  | nil => rfl
  | cons payload rest ih =>
    rw [replay_cons, CaseEventPayload.advance_of_not_stateChange source
      (neutral payload List.mem_cons_self)]
    exact ih fun later member => neutral later (List.mem_cons_of_mem _ member)

/-- Whether a history row records a breach. -/
def CaseEventPayload.isBreach : CaseEventPayload → Bool
  | .slaBreached _ _ _ => true
  | _ => false

/-- Escalation does not repeat without a transition between. -/
theorem replay_breaches {payloads : List CaseEventPayload} {source target : CaseState}
    (breaches : ∀ payload ∈ payloads, payload.isBreach = true)
    (replayed : replay source payloads = some target) : payloads.length ≤ 1 := by
  have escalates {payload : CaseEventPayload} {from' to' : CaseState}
      (breach : payload.isBreach = true) (advanced : payload.advance from' = some to') :
      from' ≠ .escalated ∧ to' = .escalated := by
    cases payload with
    | slaBreached dueAt overdueAt assigneeId =>
      obtain ⟨permitted, same⟩ := Option.ite_none_right_eq_some.mp advanced
      cases same
      refine ⟨?_, rfl⟩
      rintro rfl
      simp [permittedTransitions] at permitted
    | opened | reopened | assigneeFallback | bandChanged | stateChanged => cases breach
  cases payloads with
  | nil => exact Nat.zero_le 1
  | cons first rest =>
    cases rest with
    | nil => exact le_refl 1
    | cons second rest =>
      rw [replay_cons] at replayed
      obtain ⟨middle, advanced, replayed⟩ := Option.bind_eq_some_iff.mp replayed
      rw [replay_cons] at replayed
      obtain ⟨next, again, _⟩ := Option.bind_eq_some_iff.mp replayed
      obtain ⟨_, rfl⟩ := escalates (breaches first (by simp)) advanced
      exact absurd rfl (escalates (breaches second (by simp)) again).1

/-! ## What calls keep of the rows and of the history -/

/-- The rows of the start are there with the states that the added history leads to. -/
structure Progress (book after : CaseBook) (added : List CaseEvent) : Prop where
  events : after.events = book.events ++ added
  rows : ∀ row ∈ book.cases.rows, ∃ row' ∈ after.cases.rows, row'.id = row.id ∧
    row'.borrowerId = row.borrowerId ∧
      replay row.state (historyIn added row.id) = some row'.state ∧
        (row.state = .closed → row' = row)

theorem Progress.refl (book : CaseBook) : Progress book book [] where
  events := (List.append_nil _).symm
  rows := fun row listed => ⟨row, listed, rfl, rfl, rfl, fun _ => rfl⟩

theorem Progress.trans {book middle after : CaseBook} {first later : List CaseEvent}
    (progress : Progress book middle first) (progress' : Progress middle after later) :
    Progress book after (first ++ later) where
  events := by rw [progress'.events, progress.events, List.append_assoc]
  rows := by
    intro row listed
    obtain ⟨row', listed', id, borrower, replayed, kept⟩ := progress.rows row listed
    obtain ⟨row'', listed'', id', borrower', replayed', kept'⟩ := progress'.rows row' listed'
    refine ⟨row'', listed'', id'.trans id, borrower'.trans borrower, ?_, ?_⟩
    · rw [historyIn_append, replay_append, replayed]
      rw [id] at replayed'
      exact replayed'
    · intro closed
      have same := kept closed
      subst same
      exact kept' closed

theorem mem_put_iff {book : CaseBook} {row row' other : Case}
    (found : book.cases.find row.id = some row) (id : row'.id = row.id) :
    other ∈ (book.cases.put row').rows ↔
      other = row' ∨ other ∈ book.cases.rows ∧ other.id ≠ row.id := by
  have present : book.cases.find row'.id = some row := by rw [id, found]
  constructor
  · intro member
    have located := KeyedTable.find_of_mem member
    rw [KeyedTable.find_put present] at located
    by_cases same : other.id = row'.id
    · rw [if_pos same, Option.some.injEq] at located
      exact .inl located.symm
    · rw [if_neg same] at located
      exact .inr ⟨(KeyedTable.find_eq_some_iff.mp located).1, fun equal => same (equal.trans id.symm)⟩
  · rintro (rfl | ⟨member, differs⟩)
    · exact (KeyedTable.find_eq_some_iff.mp
        ((KeyedTable.find_put present other.id).trans (if_pos rfl))).1
    · refine (KeyedTable.find_eq_some_iff.mp
        ((KeyedTable.find_put present other.id).trans ?_)).1
      rw [if_neg (by rw [id]; exact differs)]
      exact KeyedTable.find_of_mem member

theorem Rewritten.progress {book after : CaseBook} {row row' : Case} {payload : CaseEventPayload}
    (rewriting : Rewritten book after row row' payload) :
    ∃ actorId instant, Progress book after [⟨row.id, payload, actorId, instant⟩] := by
  obtain ⟨actorId, instant, events⟩ := rewriting.events
  refine ⟨actorId, instant, events, ?_⟩
  intro other listed
  by_cases same : other.id = row.id
  · have equal : other = row := Option.some.inj
      ((KeyedTable.find_of_mem listed).symm.trans (by rw [same]; exact rewriting.found))
    subst equal
    refine ⟨row', ?_, rewriting.id, rewriting.borrowerId, ?_, ?_⟩
    · rw [rewriting.cases]
      exact (mem_put_iff rewriting.found rewriting.id).mpr (.inl rfl)
    · rw [historyIn_singleton ⟨other.id, payload, actorId, instant⟩, replay_singleton]
      exact rewriting.advanced
    · exact fun closed => absurd closed rewriting.notClosed
  · refine ⟨other, ?_, rfl, rfl, ?_, fun _ => rfl⟩
    · rw [rewriting.cases]
      exact (mem_put_iff rewriting.found rewriting.id).mpr (.inr ⟨listed, same⟩)
    · rw [historyIn_of_other fun event member => by
        rw [List.mem_singleton] at member
        rw [member]
        exact Ne.symm same]
      rfl

theorem Opened.progress {book after : CaseBook} {row : Case} (opening : Opened book after row) :
    ∃ added, Progress book after added ∧
      ∀ event ∈ added, event.caseId = row.id ∧ event.payload.isStateChange = false := by
  obtain ⟨added, events, neutral⟩ := opening.events
  refine ⟨added, ⟨events, ?_⟩, neutral⟩
  intro other listed
  refine ⟨other, ?_, rfl, rfl, ?_, fun _ => rfl⟩
  · rw [opening.rows]
    exact List.mem_append_left _ listed
  · refine replay_of_neutral _ ?_
    intro payload member
    obtain ⟨event, added', _, rfl⟩ := mem_historyIn.mp member
    exact (neutral event added').2

/-- The history rows that a step adds: none, or one, for each case there was. -/
def AtMostOne (book : CaseBook) (added : List CaseEvent) : Prop :=
  ∀ row ∈ book.cases.rows, (historyIn added row.id).length ≤ 1

theorem Opened.atMostOne {book after : CaseBook} {row : Case} (opening : Opened book after row)
    {added : List CaseEvent} (owned : ∀ event ∈ added, event.caseId = row.id) :
    ∀ other ∈ book.cases.rows, historyIn added other.id = [] := by
  intro other listed
  refine historyIn_of_other fun event member => ?_
  rw [owned event member]
  rintro same
  exact opening.fresh (List.mem_map.mpr ⟨other, listed, same.symm⟩)

theorem Rewritten.atMostOne {book : CaseBook} (row : Case) (payload : CaseEventPayload)
    (actorId : Uuid) (instant : UtcInstant) :
    AtMostOne book [⟨row.id, payload, actorId, instant⟩] := by
  intro other _
  unfold historyIn
  rw [List.length_map]
  exact List.length_filter_le _ _

theorem Effect.progress {service : CaseService} {instant : UtcInstant} {book after : CaseBook}
    (effect : Effect service instant book after) :
    ∃ added, Progress book after added ∧ AtMostOne book added := by
  cases effect with
  | opened opening =>
    obtain ⟨added, progress, owned⟩ := opening.progress
    refine ⟨added, progress, fun other listed => ?_⟩
    rw [opening.atMostOne (fun event member => (owned event member).1) other listed]
    exact Nat.zero_le 1
  | banded rewriting neutral differs derived due =>
    obtain ⟨actorId, at', progress⟩ := rewriting.progress
    exact ⟨_, progress, Rewritten.atMostOne _ _ _ _⟩
  | moved moving =>
    obtain ⟨actorId, at', progress⟩ := moving.toRewritten.progress
    exact ⟨_, progress, Rewritten.atMostOne _ _ _ _⟩

theorem breaches_progress {book after : CaseBook}
    (run : Relation.ReflTransGen Breach book after) :
    ∃ added, Progress book after added ∧ ∀ event ∈ added, event.payload.isBreach = true := by
  induction run with
  | refl => exact ⟨[], Progress.refl book, by simp⟩
  | tail reached breach ih =>
    obtain ⟨added, progress, breaches⟩ := ih
    obtain ⟨row, row', due, overdueAt, assignee, moving⟩ := breach
    obtain ⟨actorId, at', progress'⟩ := moving.toRewritten.progress
    refine ⟨_, progress.trans progress', ?_⟩
    intro event member
    rcases List.mem_append.mp member with first | last
    · exact breaches event first
    · rw [List.mem_singleton] at last
      rw [last]
      rfl

theorem openings_progress {book after : CaseBook}
    (run : Relation.ReflTransGen (fun book after => ∃ row, Opened book after row) book after) :
    ∃ added, Progress book after added ∧
      ∀ row ∈ book.cases.rows, historyIn added row.id = [] := by
  induction run with
  | refl => exact ⟨[], Progress.refl book, fun _ _ => rfl⟩
  | tail reached opening ih =>
    obtain ⟨added, progress, untouched⟩ := ih
    obtain ⟨row, opening⟩ := opening
    obtain ⟨added', progress', owned⟩ := opening.progress
    refine ⟨_, progress.trans progress', ?_⟩
    intro other listed
    obtain ⟨other', listed', id, _⟩ := progress.rows other listed
    rw [historyIn_append, untouched other listed, ← id,
      opening.atMostOne (fun event member => (owned event member).1) other' listed']
    rfl

/-- A call adds at most one history row to a case there was. -/
theorem Call.progress (service : CaseService) (book : CaseBook) (call : Call) :
    ∃ added, Progress book (call.after service book) added ∧ AtMostOne book added := by
  have unchanged : ∃ added, Progress book book added ∧ AtMostOne book added :=
    ⟨[], Progress.refl book, fun _ _ => Nat.zero_le 1⟩
  unfold Call.after
  cases ran : call.run service book with
  | error error => exact unchanged
  | ok after =>
    cases call with
    | openOrUpdate directory principal source assigneeId scope instant id =>
      obtain ⟨⟨result, after'⟩, written, rfl⟩ := Except.map_eq_ok_iff.mp ran
      rcases openOrUpdate_effect written with rfl | effect
      · exact unchanged
      · exact effect.progress
    | transitionCase directory principal key target reason note expectedVersion scope instant =>
      obtain ⟨⟨result, after'⟩, written, rfl⟩ := Except.map_eq_ok_iff.mp ran
      obtain ⟨row, row', payload, moving⟩ := transitionCase_moved written
      exact (@Effect.moved service instant _ _ _ _ _ moving).progress
    | escalateOverdue directory principal scope instant =>
      obtain ⟨⟨result, after'⟩, written, rfl⟩ := Except.map_eq_ok_iff.mp ran
      obtain ⟨added, progress, breaches⟩ := breaches_progress (escalateOverdue_breaches written)
      refine ⟨added, progress, fun row listed => ?_⟩
      obtain ⟨row', _, _, _, replayed, _⟩ := progress.rows row listed
      refine replay_breaches ?_ replayed
      intro payload member
      obtain ⟨event, added', _, rfl⟩ := mem_historyIn.mp member
      exact breaches event added'
    | updateCases assigneeId instant entries =>
      cases ran
      obtain ⟨added, progress, untouched⟩ := openings_progress
        (@runUpdateCases_opened book assigneeId instant entries)
      refine ⟨added, progress, fun row listed => ?_⟩
      rw [untouched row listed]
      exact Nat.zero_le 1

/-! ## What every run keeps -/

/-- A borrower has at most one case that is not closed. -/
def OneOpen (book : CaseBook) : Prop :=
  ∀ row ∈ book.cases.rows, ∀ other ∈ book.cases.rows, row.borrowerId = other.borrowerId →
    row.state ≠ .closed → other.state ≠ .closed → row = other

/-- Every history row is of a case, and each history replays to the state of its case. -/
structure Faithful (book : CaseBook) : Prop where
  owned : ∀ event ∈ book.events, event.caseId ∈ book.cases.rows.map Case.id
  replayed : ∀ row ∈ book.cases.rows, replay .open' (historyIn book.events row.id) = some row.state

theorem Opened.oneOpen {book after : CaseBook} {row : Case} (opening : Opened book after row)
    (oneOpen : OneOpen book) : OneOpen after := by
  intro first listed second listed' same notClosed notClosed'
  rw [opening.rows, List.mem_append, List.mem_singleton] at listed listed'
  rcases listed with old | rfl
  · rcases listed' with old' | rfl
    · exact oneOpen first old second old' same notClosed notClosed'
    · exact absurd (opening.noneOpen first old same) notClosed
  · rcases listed' with old' | rfl
    · exact absurd (opening.noneOpen second old' same.symm) notClosed'
    · rfl

theorem Rewritten.oneOpen {book after : CaseBook} {row row' : Case} {payload : CaseEventPayload}
    (rewriting : Rewritten book after row row' payload) (oneOpen : OneOpen book) :
    OneOpen after := by
  have listed := (KeyedTable.find_eq_some_iff.mp rewriting.found).1
  -- the only open row of the borrower, if any, is the one rewritten
  have alone : ∀ other ∈ book.cases.rows, other.id ≠ row.id → other.borrowerId = row'.borrowerId →
      other.state = .closed := by
    intro other listed' differs same
    by_contra notClosed
    have equal := oneOpen other listed' row listed (same.trans rewriting.borrowerId) notClosed
      rewriting.notClosed
    rw [equal] at differs
    exact differs rfl
  intro first member second member' same notClosed notClosed'
  rw [rewriting.cases, mem_put_iff rewriting.found rewriting.id] at member member'
  rcases member with rfl | ⟨old, differs⟩
  · rcases member' with rfl | ⟨old', differs'⟩
    · rfl
    · exact absurd (alone second old' differs' same.symm) notClosed'
  · rcases member' with rfl | ⟨old', differs'⟩
    · exact absurd (alone first old differs same) notClosed
    · exact oneOpen first old second old' same notClosed notClosed'

theorem Opened.faithful {book after : CaseBook} {row : Case} (opening : Opened book after row)
    (faithful : Faithful book) : Faithful after := by
  obtain ⟨added, events, neutral⟩ := opening.events
  constructor
  · intro event member
    rw [events, List.mem_append] at member
    rw [opening.rows, List.map_append, List.mem_append]
    rcases member with old | new
    · exact .inl (faithful.owned event old)
    · refine .inr ?_
      rw [(neutral event new).1]
      exact List.mem_singleton_self _
  · intro other listed
    rw [opening.rows, List.mem_append, List.mem_singleton] at listed
    rw [events, historyIn_append]
    rcases listed with old | rfl
    · rw [opening.atMostOne (fun event member => (neutral event member).1) other old,
        List.append_nil]
      exact faithful.replayed other old
    · have none' : historyIn book.events other.id = [] := historyIn_of_other fun event member same =>
        opening.fresh (same ▸ faithful.owned event member)
      rw [none', List.nil_append, opening.state]
      refine replay_of_neutral _ ?_
      intro payload member
      obtain ⟨event, added', _, rfl⟩ := mem_historyIn.mp member
      exact (neutral event added').2

theorem Rewritten.faithful {book after : CaseBook} {row row' : Case} {payload : CaseEventPayload}
    (rewriting : Rewritten book after row row' payload) (faithful : Faithful book) :
    Faithful after := by
  obtain ⟨actorId, instant, events⟩ := rewriting.events
  have ids : after.cases.rows.map Case.id = book.cases.rows.map Case.id := by
    rw [rewriting.cases, KeyedTable.rows_put, KeyedTable.map_key_replace]
  have listed := (KeyedTable.find_eq_some_iff.mp rewriting.found).1
  constructor
  · intro event member
    rw [events, List.mem_append, List.mem_singleton] at member
    rw [ids]
    rcases member with old | rfl
    · exact faithful.owned event old
    · exact List.mem_map_of_mem listed
  · intro other member
    rw [rewriting.cases, mem_put_iff rewriting.found rewriting.id] at member
    rw [events, historyIn_append]
    rcases member with rfl | ⟨old, differs⟩
    · rw [rewriting.id, historyIn_singleton ⟨row.id, payload, actorId, instant⟩, replay_append,
        faithful.replayed row listed]
      exact (replay_singleton row.state payload).trans rewriting.advanced
    · have untouched : historyIn [⟨row.id, payload, actorId, instant⟩] other.id = [] :=
        historyIn_of_other fun event member => by
          rw [List.mem_singleton] at member
          rw [member]
          exact Ne.symm differs
      rw [untouched, List.append_nil]
      exact faithful.replayed other old

theorem Effect.preserves {service : CaseService} {instant : UtcInstant} {book after : CaseBook}
    (effect : Effect service instant book after) (oneOpen : OneOpen book)
    (faithful : Faithful book) : OneOpen after ∧ Faithful after := by
  cases effect with
  | opened opening => exact ⟨opening.oneOpen oneOpen, opening.faithful faithful⟩
  | banded rewriting neutral differs derived due =>
    exact ⟨rewriting.oneOpen oneOpen, rewriting.faithful faithful⟩
  | moved moving =>
    exact ⟨moving.toRewritten.oneOpen oneOpen, moving.toRewritten.faithful faithful⟩

theorem Call.preserves (service : CaseService) {book : CaseBook} (call : Call)
    (oneOpen : OneOpen book) (faithful : Faithful book) :
    OneOpen (call.after service book) ∧ Faithful (call.after service book) := by
  have run := call.effects service book
  generalize call.after service book = after at run
  induction run with
  | refl => exact ⟨oneOpen, faithful⟩
  | tail reached effect ih => exact effect.preserves ih.1 ih.2

theorem runCalls_preserves (service : CaseService) (calls : List Call) :
    OneOpen (runCalls service .empty calls) ∧ Faithful (runCalls service .empty calls) := by
  unfold runCalls
  refine List.foldlRecOn (motive := fun book => OneOpen book ∧ Faithful book) calls _ ?_ ?_
  · exact ⟨by simp [OneOpen, CaseBook.empty, KeyedTable.empty],
      by simp [CaseBook.empty], by simp [CaseBook.empty, KeyedTable.empty]⟩
  · rintro book ⟨oneOpen, faithful⟩ call _
    exact call.preserves service oneOpen faithful

/-- What a call does to the state of a case there was: a change of state has exactly one history
    row, which leads from the old state to the new one. -/
def RecordsChange (added : List CaseEvent) (row row' : Case) : Prop :=
  (row'.state ≠ row.state → ∃ payload, historyIn added row.id = [payload] ∧
    payload.isStateChange = true ∧ payload.advance row.state = some row'.state) ∧
  (row'.state = row.state → ∀ payload ∈ historyIn added row.id, payload.isStateChange = false)

theorem recordsChange_of_replay {added : List CaseEvent} {row row' : Case}
    (once : (historyIn added row.id).length ≤ 1)
    (replayed : replay row.state (historyIn added row.id) = some row'.state) :
    RecordsChange added row row' := by
  unfold RecordsChange
  match history : historyIn added row.id with
  | [] =>
    rw [history, replay_nil, Option.some.injEq] at replayed
    exact ⟨fun differs => absurd replayed.symm differs, by simp⟩
  | [payload] =>
    rw [history, replay_singleton] at replayed
    cases changes : payload.isStateChange with
    | true =>
      refine ⟨fun _ => ⟨payload, rfl, changes, replayed⟩, fun same => ?_⟩
      exact absurd same (CaseEventPayload.advance_ne changes replayed)
    | false =>
      rw [CaseEventPayload.advance_of_not_stateChange _ changes, Option.some.injEq] at replayed
      refine ⟨fun differs => absurd replayed.symm differs, fun _ other member => ?_⟩
      rw [List.mem_singleton] at member
      rw [member]
      exact changes
  | first :: second :: rest =>
    rw [history] at once
    simp at once

/-- In every run, and over every further call: at most one open case for each borrower, closed
    cases as they were, and one history row for each change of state. -/
theorem workflow_faithful (service : CaseService) (calls : List Call) (call : Call) :
    let book := runCalls service .empty calls
    let after := call.after service book
    OneOpen after ∧
    (∀ row ∈ book.cases.rows, row.state = .closed → row ∈ after.cases.rows) ∧
    (∃ added, after.events = book.events ++ added ∧
      ∀ row ∈ book.cases.rows, ∃ row' ∈ after.cases.rows, row'.id = row.id ∧
        RecordsChange added row row') ∧
    ∀ row ∈ after.cases.rows,
      replay .open' (historyIn after.events row.id) = some row.state := by
  intro book after
  obtain ⟨oneOpen, faithful⟩ := runCalls_preserves service calls
  obtain ⟨oneOpen', faithful'⟩ := call.preserves service oneOpen faithful
  obtain ⟨added, progress, once⟩ := call.progress service book
  refine ⟨oneOpen', ?_, ⟨added, progress.events, ?_⟩, faithful'.replayed⟩
  · intro row listed closed
    obtain ⟨row', listed', _, _, _, kept⟩ := progress.rows row listed
    rw [← kept closed]
    exact listed'
  · intro row listed
    obtain ⟨row', listed', id, _, replayed, _⟩ := progress.rows row listed
    exact ⟨row', listed', id, recordsChange_of_replay (once row listed) replayed⟩

/-- The history row of an escalation carries neither `from_state` nor `to_state`. -/
theorem escalation_without_states :
    let book := runCalls sampleService .empty [sampleWarning 1 "act" 0]
    let after := (sampleSweep 1).after sampleService book
    ∃ row ∈ book.cases.rows, ∃ row' ∈ after.cases.rows, row'.id = row.id ∧
      row.state = .open' ∧ row'.state = .escalated ∧
        ∀ payload ∈ historyIn after.events row.id, payload.states = none := by decide

end Cases

end CovenantRadar
