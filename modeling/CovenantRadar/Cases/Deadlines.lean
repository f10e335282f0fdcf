import CovenantRadar.Cases.Histories

/-!
# Deadlines under changes of the band

A change of the band restarts the clock of a case. A worsening keeps the deadline from slipping,
and an overdue case stays overdue, exactly in the runs whose changes of band come early enough.
-/

namespace CovenantRadar

namespace Cases

open Security

/-! ## Calls that change a band -/

/-- The case whose band a call changes and its new band, as `open_or_update` decides before it
    writes. Nothing is written when the new deadline is past the last date. -/
def Call.flip (service : CaseService) (book : CaseBook) : Call → Option (Case × Band)
  | openOrUpdate directory principal source _ scope instant _ =>
    match service.authorizedContext principal scope .updateCase with
    | .error _ => none
    | .ok scope =>
      match CaseService.triageDetails directory scope source with
      | .error _ => none
      | .ok details =>
        if details.band = .watch then none
        else
          match CaseBook.lockBorrower directory scope details.borrowerId with
          | none => none
          | some borrower =>
            match CaseBook.openCasesForBorrower directory scope book borrower.id with
            | [current] =>
              if current.bandAtOpen = details.band then none
              else if (instant.addHours (slaHours details.band service.slaThresholds)).isSome then
                some (current, details.band)
              else none
            | _ => none
  | _ => none

/-- A change of the band of one case. -/
structure Flipped (service : CaseService) (instant : UtcInstant) (book after : CaseBook)
    (row row' : Case) (band : Band) : Prop where
  listed : row ∈ book.cases.rows
  cases : after.cases = book.cases.put row'
  id : row'.id = row.id
  state : row'.state = row.state
  notClosed : row.state ≠ .closed
  flipped : row'.bandAtOpen = band
  differs : row.bandAtOpen ≠ band
  due : ∃ due, row'.dueAt = some due ∧
    due.ticks = instant.ticks + slaHours band service.slaThresholds * hourMicroseconds

/-- The cases there were keep their deadline and their band. -/
def KeepsDue (book after : CaseBook) : Prop :=
  ∀ row ∈ book.cases.rows, ∃ row' ∈ after.cases.rows, row'.id = row.id ∧
    row'.dueAt = row.dueAt ∧ row'.bandAtOpen = row.bandAtOpen

theorem KeepsDue.refl (book : CaseBook) : KeepsDue book book :=
  fun row listed => ⟨row, listed, rfl, rfl, rfl⟩

theorem KeepsDue.trans {book middle after : CaseBook} (keeps : KeepsDue book middle)
    (keeps' : KeepsDue middle after) : KeepsDue book after := by
  intro row listed
  obtain ⟨row', listed', id, due, band⟩ := keeps row listed
  obtain ⟨row'', listed'', id', due', band'⟩ := keeps' row' listed'
  exact ⟨row'', listed'', id'.trans id, due'.trans due, band'.trans band⟩

theorem keepsDue_of_run {step : CaseBook → CaseBook → Prop} {book after : CaseBook}
    (keeps : ∀ book after, step book after → KeepsDue book after)
    (run : Relation.ReflTransGen step book after) : KeepsDue book after := by
  induction run with
  | refl => exact .refl book
  | tail reached last ih => exact ih.trans (keeps _ _ last)

theorem Opened.keepsDue {book after : CaseBook} {row : Case} (opening : Opened book after row) :
    KeepsDue book after := by
  intro other listed
  refine ⟨other, ?_, rfl, rfl, rfl⟩
  rw [opening.rows]
  exact List.mem_append_left _ listed

theorem Moved.keepsDue {book after : CaseBook} {row row' : Case} {payload : CaseEventPayload}
    (moving : Moved book after row row' payload) : KeepsDue book after := by
  have present := (KeyedTable.find_eq_some_iff.mp moving.found).1
  intro other listed
  by_cases same : other.id = row.id
  · have equal := CaseBook.row_eq_of_id present listed same
    subst equal
    refine ⟨row', ?_, moving.id, moving.due, moving.band⟩
    rw [moving.cases]
    exact (mem_put_iff moving.found moving.id).mpr (.inl rfl)
  · refine ⟨other, ?_, rfl, rfl, rfl⟩
    rw [moving.cases]
    exact (mem_put_iff moving.found moving.id).mpr (.inr ⟨listed, same⟩)

section

variable {service : CaseService} {book : CaseBook} {call : Call}
  (elapsed : service.calendar = elapsedHoursCalendar)

include elapsed

/-- A call that changes a band rewrites the one case, with the clock restarted. -/
theorem Call.flip_spec {row : Case} {band : Band}
    (flipped : call.flip service book = some (row, band)) :
    ∃ row', Flipped service call.instant book (call.after service book) row row' band := by
  cases call with
  | transitionCase | escalateOverdue | updateCases => cases flipped
  | openOrUpdate directory principal source assigneeId scope instant id =>
    cases context : service.authorizedContext principal scope .updateCase with
    | error error => simp [flip, context] at flipped
    | ok resolved =>
      cases read : CaseService.triageDetails directory resolved source with
      | error error => simp [flip, context, read] at flipped
      | ok details =>
        by_cases watch : details.band = .watch
        · simp [flip, context, read, watch] at flipped
        cases locked : CaseBook.lockBorrower directory resolved details.borrowerId with
        | none => simp [flip, context, read, locked] at flipped
        | some borrower =>
          match rows : CaseBook.openCasesForBorrower directory resolved book borrower.id with
          | [] => simp [flip, context, read, locked, rows] at flipped
          | first :: second :: rest => simp [flip, context, read, locked, rows] at flipped
          | [current] =>
            by_cases same : current.bandAtOpen = details.band
            · simp [flip, context, read, locked, rows, same] at flipped
            cases shifted : instant.addHours (slaHours details.band service.slaThresholds) with
            | none => simp [flip, context, read, locked, rows, shifted] at flipped
            | some due =>
              have equal : current = row ∧ details.band = band := by
                simpa [flip, context, read, watch, locked, rows, same, shifted] using flipped
              obtain ⟨rfl, rfl⟩ := equal
              obtain ⟨deadline, derived, dueAt⟩ := deriveSla_elapsed_returns shifted
              have member : current ∈
                  CaseBook.openCasesForBorrower directory resolved book borrower.id := by
                rw [rows]
                exact List.mem_singleton_self current
              obtain ⟨listed, _, notClosed, _⟩ := mem_openCasesForBorrower.mp member
              rw [← elapsed] at derived
              have after : Call.after service book
                  (.openOrUpdate directory principal source assigneeId scope instant id) =
                  appendEvent (book.putCase (CaseService.bandedRow current details.band deadline
                    instant)) (CaseService.bandedRow current details.band deadline instant)
                    (.bandChanged current.bandAtOpen details.band details.runId deadline.hours
                      deadline.dueAt) principal.id instant := by
                simp [Call.after, Call.run, CaseService.openOrUpdate, context, read, watch, locked,
                  CaseService.openOrUpdateLocked, rows, same, CaseService.updateBand, derived,
                  Except.map, bind, Except.bind]
              refine ⟨CaseService.bandedRow current details.band deadline instant, listed, ?_, rfl,
                rfl, notClosed, rfl, same, due, ?_, UtcInstant.ticks_addHours shifted⟩
              · rw [after]
                rfl
              · rw [← dueAt]
                rfl

/-- Every other call keeps the deadlines and the bands. -/
theorem Call.keepsDue_of_no_flip
    (still : call.flip service book = none) : KeepsDue book (call.after service book) := by
  unfold Call.after
  cases ran : call.run service book with
  | error error => exact .refl book
  | ok after =>
    cases call with
    | openOrUpdate directory principal source assigneeId scope instant id =>
      obtain ⟨⟨result, after'⟩, written, rfl⟩ := Except.map_eq_ok_iff.mp ran
      rcases openOrUpdate_cases written with same |
        ⟨resolved, details, borrower, case, _, _, _, locked, rows, opening⟩ | ⟨resolved, details,
        borrower, current, updated, context, read, watch, locked, rows, differs, updating⟩
      · rw [same]
        exact .refl book
      · exact (openCase_effect (noneOpen_of_openCases_nil locked rows) opening).1.keepsDue
      · -- a band that was updated is a flip
        unfold CaseService.updateBand at updating
        obtain ⟨deadline, derived, _⟩ := Except.bind_eq_ok_iff.mp updating
        have added := (deriveSla_eq_ok derived).2
        rw [elapsed] at added
        have shifted := orOverflow_eq_ok_iff.mp added
        simp [flip, context, read, watch, locked, rows, differs, shifted] at still
    | transitionCase directory principal key target reason note expectedVersion scope instant =>
      obtain ⟨⟨result, after'⟩, written, rfl⟩ := Except.map_eq_ok_iff.mp ran
      obtain ⟨row, row', payload, moving⟩ := transitionCase_moved written
      exact moving.keepsDue
    | escalateOverdue directory principal scope instant =>
      obtain ⟨⟨result, after'⟩, written, rfl⟩ := Except.map_eq_ok_iff.mp ran
      refine keepsDue_of_run ?_ (escalateOverdue_breaches written)
      rintro book after ⟨row, row', due, overdueAt, assignee, moving⟩
      exact moving.keepsDue
    | updateCases assigneeId instant entries =>
      cases ran
      refine keepsDue_of_run ?_ runUpdateCases_opened
      rintro book after ⟨row, opening⟩
      exact opening.keepsDue

/-- A case that is not the one flipped keeps its deadline and its band. -/
theorem Call.keepsDue_or_flips (book : CaseBook) (call : Call) {row : Case}
    (listed : row ∈ book.cases.rows) :
    (∃ row' ∈ (call.after service book).cases.rows, row'.id = row.id ∧ row'.dueAt = row.dueAt ∧
      row'.bandAtOpen = row.bandAtOpen) ∨ ∃ band, call.flip service book = some (row, band) := by
  cases flipped : call.flip service book with
  | none => exact .inl (call.keepsDue_of_no_flip elapsed flipped row listed)
  | some pair =>
    obtain ⟨flippedRow, band⟩ := pair
    by_cases same : row.id = flippedRow.id
    · obtain ⟨row', flip⟩ := call.flip_spec elapsed flipped
      rw [CaseBook.row_eq_of_id flip.listed listed same]
      exact .inr ⟨band, rfl⟩
    · obtain ⟨row', flip⟩ := call.flip_spec elapsed flipped
      refine .inl ⟨row, ?_, rfl, rfl, rfl⟩
      rw [flip.cases]
      exact (mem_put_iff (KeyedTable.find_of_mem flip.listed) flip.id).mpr (.inr ⟨listed, same⟩)

end

/-! ## The property over runs -/

/-- Worsening the band of a case from amber to act does not make its deadline later. -/
def NeverLater (service : CaseService) (book : CaseBook) (call : Call) : Prop :=
  ∀ row ∈ book.cases.rows, ∀ row' ∈ (call.after service book).cases.rows, row'.id = row.id →
    row.bandAtOpen = .amber → row'.bandAtOpen = .act →
      ∀ due ∈ row.dueAt, ∀ due' ∈ row'.dueAt, due'.ticks ≤ due.ticks

/-- A case has been escalated or closed. -/
def Settled (book : CaseBook) (id : Uuid) : Prop :=
  ∃ row ∈ book.cases.rows, row.id = id ∧ (row.state = .escalated ∨ row.state = .closed)

/-- The deadline of a case has passed. -/
def Overdue (book : CaseBook) (id : Uuid) (now : UtcInstant) : Prop :=
  ∃ row ∈ book.cases.rows, row.id = id ∧ CaseBook.isDue row now = true

/-- A case that is overdue at a call of a run is overdue at all later instants, until it is
    escalated or closed. -/
def StaysOverdue (service : CaseService) (book : CaseBook) (calls : List Call) : Prop :=
  ∀ before call between later, calls = before ++ call :: (between ++ later) → ∀ id,
    Overdue (runCalls service book before) id call.instant →
    (∃ first last, call :: between = first ++ last ∧
      Settled (runCalls service book (before ++ first)) id) ∨
    ∀ now : UtcInstant, (∀ passed ∈ call :: between, passed.instant.ticks ≤ now.ticks) →
      Overdue (runCalls service book (before ++ call :: between)) id now

/-- A change of band comes early enough: from amber to act while the hours of act still fit before
    the deadline, and of a case that is not escalated before its deadline has passed. -/
def Timely (service : CaseService) (book : CaseBook) (call : Call) : Prop :=
  ∀ row band, call.flip service book = some (row, band) →
    (row.bandAtOpen = .amber → band = .act → ∀ due ∈ row.dueAt,
      call.instant.ticks + service.slaThresholds.actSlaHours * hourMicroseconds ≤ due.ticks) ∧
    (row.state ≠ .escalated → CaseBook.isDue row call.instant = false)

theorem isDue_of_le {row row' : Case} {now later : UtcInstant} (due : row'.dueAt = row.dueAt)
    (passed : CaseBook.isDue row now = true) (le : now.ticks ≤ later.ticks) :
    CaseBook.isDue row' later = true := by
  obtain ⟨instant, some', before⟩ := CaseBook.isDue_eq_true_iff.mp passed
  exact CaseBook.isDue_eq_true_iff.mpr ⟨instant, due.trans some', before.trans le⟩

theorem runCalls_append (service : CaseService) (book : CaseBook) (first last : List Call) :
    runCalls service book (first ++ last) = runCalls service (runCalls service book first) last :=
  List.foldl_append

section

variable {service : CaseService} {book : CaseBook}
  (elapsed : service.calendar = elapsedHoursCalendar)

include elapsed

theorem Timely.neverLater {call : Call} (timely : Timely service book call) :
    NeverLater service book call := by
  intro row listed row' listed' same amber act due hasDue due' hasDue'
  rcases call.keepsDue_or_flips elapsed book listed with
    ⟨kept, keptListed, keptId, keptDue, keptBand⟩ | ⟨band, flipped⟩
  · have equal := CaseBook.row_eq_of_id keptListed listed' (same.trans keptId.symm)
    rw [equal, keptBand, amber] at act
    cases act
  · obtain ⟨updated, flip⟩ := call.flip_spec elapsed flipped
    have updatedListed : updated ∈ (call.after service book).cases.rows := by
      rw [flip.cases]
      exact (mem_put_iff (KeyedTable.find_of_mem listed) flip.id).mpr (.inl rfl)
    have equal := CaseBook.row_eq_of_id updatedListed listed' (same.trans flip.id.symm)
    obtain ⟨restarted, restartedDue, ticks⟩ := flip.due
    rw [equal, restartedDue] at hasDue'
    rw [equal, flip.flipped] at act
    subst act
    rw [Option.mem_def, Option.some.injEq] at hasDue'
    rw [← hasDue', ticks]
    exact (timely row .act flipped).1 amber rfl due hasDue

/-- The deadline of an overdue case stands until the case is escalated or closed: no timely call
    restarts its clock. -/
theorem overdue_stands {row : Case} (listed : row ∈ book.cases.rows) {steps : List Call}
    (timely : ∀ first step last, steps = first ++ step :: last →
      Timely service (runCalls service book first) step)
    (overdue : ∀ step ∈ steps, CaseBook.isDue row step.instant = true) :
    (∃ first last, steps = first ++ last ∧ Settled (runCalls service book first) row.id) ∨
      ∃ row' ∈ (runCalls service book steps).cases.rows, row'.id = row.id ∧
        row'.dueAt = row.dueAt := by
  induction steps using List.reverseRecOn with
  | nil => exact .inr ⟨row, listed, rfl, rfl⟩
  | append_singleton steps step ih =>
    have earlier := ih
      (fun first step' last split => timely first step' (last ++ [step]) (by rw [split]; simp))
      (fun step' member => overdue step' (List.mem_append_left _ member))
    rcases earlier with ⟨first, last, split, settled⟩ | ⟨row', listed', id, due⟩
    · exact .inl ⟨first, last ++ [step], by rw [split]; simp, settled⟩
    · by_cases settled : row'.state = .escalated ∨ row'.state = .closed
      · exact .inl ⟨steps, [step], rfl, row', listed', id, settled⟩
      · rcases step.keepsDue_or_flips elapsed _ listed' with
          ⟨kept, keptListed, keptId, keptDue, _⟩ | ⟨band, flipped⟩
        · refine .inr ⟨kept, ?_, keptId.trans id, keptDue.trans due⟩
          rw [runCalls_append]
          exact keptListed
        · have late := isDue_of_le due (overdue step (by simp)) (le_refl step.instant.ticks)
          have early := (timely steps step [] rfl row' band flipped).2 fun escalated =>
            settled (.inl escalated)
          rw [early] at late
          cases late

theorem staysOverdue_of_timely {calls : List Call}
    (ordered : calls.Pairwise fun a b => a.instant.ticks ≤ b.instant.ticks)
    (timely : ∀ before call later, calls = before ++ call :: later →
      Timely service (runCalls service book before) call) :
    StaysOverdue service book calls := by
  intro before call between later split id overdue
  obtain ⟨row, listed, rfl, due⟩ := overdue
  -- the calls from this one on are no earlier
  have notEarlier : ∀ step ∈ call :: between, call.instant.ticks ≤ step.instant.ticks := by
    intro step member
    rw [split] at ordered
    have later' := (List.pairwise_append.mp ordered).2.1
    rcases List.mem_cons.mp member with rfl | after
    · exact le_refl _
    · exact (List.pairwise_cons.mp later').1 step (List.mem_append_left _ after)
  have stands := @overdue_stands service _ elapsed row listed (call :: between)
    (fun first step last steps => by
      rw [← runCalls_append]
      refine timely (before ++ first) step (last ++ later) ?_
      rw [split, ← List.cons_append, steps]
      simp)
    (fun step member => isDue_of_le rfl due (notEarlier step member))
  rcases stands with ⟨first, last, steps, settled⟩ | ⟨row', listed', id, sameDue⟩
  · refine .inl ⟨first, last, steps, ?_⟩
    rw [runCalls_append]
    exact settled
  · refine .inr fun now passed => ⟨row', ?_, id, ?_⟩
    · rw [runCalls_append]
      exact listed'
    · exact isDue_of_le sameDue due (passed call List.mem_cons_self)

/-- A flip that is not timely breaks the property at once. -/
theorem timely_of_holds {call : Call} (neverLater : NeverLater service book call)
    (stays : ∀ id, Overdue book id call.instant →
      Settled book id ∨ Settled (call.after service book) id ∨
        Overdue (call.after service book) id call.instant) :
    Timely service book call := by
  intro row band flipped
  obtain ⟨row', flip⟩ := call.flip_spec elapsed flipped
  obtain ⟨due', restarted, ticks⟩ := flip.due
  have listed' : row' ∈ (call.after service book).cases.rows := by
    rw [flip.cases]
    exact (mem_put_iff (KeyedTable.find_of_mem flip.listed) flip.id).mpr (.inl rfl)
  constructor
  · rintro amber rfl due hasDue
    have le := neverLater row flip.listed row' listed' flip.id amber flip.flipped due hasDue due'
      restarted
    rwa [ticks] at le
  · intro notEscalated
    by_contra due
    have overdue : CaseBook.isDue row call.instant = true := by simpa using due
    rcases stays row.id ⟨row, flip.listed, rfl, overdue⟩ with settled | settled | late
    · obtain ⟨other, listed, id, state⟩ := settled
      rw [CaseBook.row_eq_of_id flip.listed listed id] at state
      exact state.elim notEscalated flip.notClosed
    · obtain ⟨other, listed, id, state⟩ := settled
      rw [CaseBook.row_eq_of_id listed' listed (id.trans flip.id.symm), flip.state] at state
      exact state.elim notEscalated flip.notClosed
    · obtain ⟨other, listed, id, late⟩ := late
      rw [CaseBook.row_eq_of_id listed' listed (id.trans flip.id.symm)] at late
      obtain ⟨due'', hasDue, le⟩ := CaseBook.isDue_eq_true_iff.mp late
      rw [restarted, Option.some.injEq] at hasDue
      rw [← hasDue, ticks] at le
      have hours : 0 < slaHours band service.slaThresholds * hourMicroseconds :=
        Nat.mul_pos (slaHours_pos _ _) hourMicroseconds_pos
      have positive : (0 : ℤ) < slaHours band service.slaThresholds * hourMicroseconds := by
        exact_mod_cast hours
      linarith

/-- Over every run in order of time, a worsening never makes a deadline later and an overdue case
    stays overdue until it is escalated or closed, exactly when every change of band is timely. -/
theorem deadlines_hold_iff (book : CaseBook) {calls : List Call}
    (ordered : calls.Pairwise fun a b => a.instant.ticks ≤ b.instant.ticks) :
    ((∀ before call later, calls = before ++ call :: later →
        NeverLater service (runCalls service book before) call) ∧
      StaysOverdue service book calls) ↔
    ∀ before call later, calls = before ++ call :: later →
      Timely service (runCalls service book before) call := by
  constructor
  · rintro ⟨neverLater, stays⟩ before call later split
    refine timely_of_holds elapsed (neverLater before call later split) ?_
    intro id overdue
    have after : runCalls service book (before ++ [call]) =
        call.after service (runCalls service book before) := runCalls_append service book before [call]
    rcases stays before call [] later split id overdue with ⟨first, last, steps, settled⟩ | late
    · cases first with
      | nil =>
        rw [List.append_nil] at settled
        exact .inl settled
      | cons step rest =>
        obtain ⟨rfl, nothing⟩ := List.cons.inj steps
        rw [(List.append_eq_nil_iff.mp nothing.symm).1, after] at settled
        exact .inr (.inl settled)
    · rw [after] at late
      exact .inr (.inr (late call.instant (by simp)))
  · intro timely
    exact ⟨fun before call later split => (timely before call later split).neverLater elapsed,
      staysOverdue_of_timely elapsed ordered timely⟩

end

/-- A warning that worsens in time. -/
theorem deadlines_hold_iff_sample :
    ((∀ before call later,
        [sampleWarning 1 "amber" 0, sampleWarning 1 "act" 1] = before ++ call :: later →
        NeverLater sampleService (runCalls sampleService .empty before) call) ∧
      StaysOverdue sampleService .empty [sampleWarning 1 "amber" 0, sampleWarning 1 "act" 1]) ↔
    ∀ before call later,
      [sampleWarning 1 "amber" 0, sampleWarning 1 "act" 1] = before ++ call :: later →
      Timely sampleService (runCalls sampleService .empty before) call :=
  deadlines_hold_iff rfl .empty (by decide)

/-- A case that worsens on the day it is due gets a day more, and is not overdue any longer. -/
theorem worsening_moves_deadline :
    ¬ ((∀ before call later,
        [sampleWarning 1 "amber" 0, sampleWarning 1 "act" 3] = before ++ call :: later →
        NeverLater sampleService (runCalls sampleService .empty before) call) ∧
      StaysOverdue sampleService .empty [sampleWarning 1 "amber" 0, sampleWarning 1 "act" 3]) := by
  rintro ⟨neverLater, _⟩
  have kept := neverLater [sampleWarning 1 "amber" 0] (sampleWarning 1 "act" 3) [] rfl
  revert kept
  unfold NeverLater
  decide

end Cases

end CovenantRadar
