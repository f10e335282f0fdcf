import CovenantRadar.Signals.LedgerRuns
import CovenantRadar.Signals.SourceIdentity

/-!
# When the resolver returns

A call can raise in three places: building a candidate, merging past the limit on
source ids, and superseding a late candidate by an item that already has a
predecessor. On a ledger built from events these are exactly the calls that raise.
-/

namespace CovenantRadar.Signals.Supersession

/-- A candidate built for an event. -/
def FromEvent (candidate : IncomingCandidate) : Prop :=
  ∃ id event, eventCandidate id event = .ok candidate.score ∧ candidate.event = some event

/-- What holds before each iteration of a call on events: every item has an id, names a
    predecessor of the ledger, and no candidate's id is in use. -/
structure EventLoop (state : LoopState) (candidates : List IncomingCandidate) : Prop where
  identified : Identified state.current
  predecessors : PredecessorsPresent state.current
  fromEvents : ∀ candidate ∈ candidates, FromEvent candidate
  distinct : (ledgerIds state.current ++ candidates.filterMap (·.score.id)).Nodup

theorem FromEvent.own {candidate : IncomingCandidate} (fromEvent : FromEvent candidate) :
    ∃ id, candidate.score.id = some id ∧ candidate.score.supersedesId = none := by
  obtain ⟨id, event, built, -⟩ := fromEvent
  obtain ⟨own, -, unlinked, -⟩ := eventCandidate_eq_ok built
  exact ⟨id, own, unlinked⟩

theorem EventLoop.step {mint : IdFactory} {rules : List ContradictionRule}
    {state state' : LoopState} {candidate : IncomingCandidate} {rest : List IncomingCandidate}
    (loop : EventLoop state (candidate :: rest))
    (stepped : resolveStep mint rules state candidate = .ok state') : EventLoop state' rest := by
  obtain ⟨recorded, -, effect⟩ := resolveStep_effect stepped
  obtain ⟨id, own, unlinked⟩ := (loop.fromEvents candidate List.mem_cons_self).own
  exact {
    identified := effect.identified ⟨id, own⟩ loop.identified
    predecessors := effect.predecessorsPresent own unlinked loop.identified loop.predecessors
    fromEvents := fun other member => loop.fromEvents other (List.mem_cons_of_mem _ member)
    distinct := effect.distinct own loop.identified loop.distinct }

/-- A call on events, by one registry of rules, with an id factory that returns new ids. -/
structure EventCall (rules : RulesArgument) (ledger : List EvidenceFacts) (call : Call) : Prop where
  registry : call.rules = rules
  events : ∀ value ∈ call.incoming, ∃ event, value = .event event
  fresh : call.FreshIds ledger

theorem EventCall.newIds {rules : RulesArgument} {ledger : List EvidenceFacts} {call : Call}
    (allowed : EventCall rules ledger call) : call.NewIds ledger := by
  have none : explicitIds call.incoming = [] := by
    unfold explicitIds
    rw [List.filterMap_eq_nil_iff]
    intro value member
    obtain ⟨event, rfl⟩ := allowed.events value member
    rfl
  exact ⟨by simp [none], by simp [none]⟩

/-- The loop of a call on events starts as `EventLoop` asks. -/
theorem EventCall.loop {rules : RulesArgument} {ledger : List EvidenceFacts} {call : Call}
    {candidates : List IncomingCandidate} {drawn : Nat} (allowed : EventCall rules ledger call)
    (distinct : (ledgerIds ledger).Nodup) (identified : Identified ledger)
    (predecessors : PredecessorsPresent ledger)
    (built : incomingCandidates call.mint call.asOf call.incoming 0 = .ok (candidates, drawn)) :
    EventLoop ⟨ledger, [], drawn⟩ (sortCandidates candidates) where
  identified := identified
  predecessors := predecessors
  fromEvents := by
    intro candidate member
    obtain ⟨value, listed, origin⟩ := (incomingCandidates_eq_ok built).2.2 candidate
      (mem_sortCandidates.mp member)
    obtain ⟨event, rfl⟩ := allowed.events value listed
    cases origin with
    | event current above below made => exact ⟨_, _, made, rfl⟩
  distinct := call_ids_nodup allowed.fresh allowed.newIds distinct built

theorem PredecessorsPresent.sortItems {items : List EvidenceFacts}
    (present : PredecessorsPresent items) : PredecessorsPresent (sortItems items) := by
  intro item member id link
  exact (ledgerIds_sortItems items).mem_iff.mpr (present item (mem_sortItems.mp member) id link)

instance : DecidablePred fun value : Observation => ∃ event, value = .event event
  | .event event => .isTrue ⟨event, rfl⟩
  | .evidence _ => .isFalse fun ⟨_, same⟩ => nomatch same

instance (rules : RulesArgument) (ledger : List EvidenceFacts) (call : Call) :
    Decidable (EventCall rules ledger call) :=
  decidable_of_iff (call.rules = rules ∧
      (∀ value ∈ call.incoming, ∃ event, value = .event event) ∧ call.FreshIds ledger)
    ⟨fun ⟨registry, events, fresh⟩ => ⟨registry, events, fresh⟩,
      fun allowed => ⟨allowed.registry, allowed.events, allowed.fresh⟩⟩

theorem newYear_valid : 1 ≤ 2026 ∧ 2026 ≤ 9999 ∧ 1 ≤ 1 ∧ 1 ≤ 12 ∧
    1 ≤ 1 ∧ 1 ≤ daysInMonth 2026 1 := by decide

end CovenantRadar.Signals.Supersession
