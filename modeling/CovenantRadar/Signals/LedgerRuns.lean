import CovenantRadar.Signals.Resolution

/-!
# Runs of the resolver

A ledger is what any number of calls of `resolve_supersession` have built from the
empty one, each with its own batch, scoring date, rules and id factory; the trail
is the transitions those calls returned, in order.
-/

namespace CovenantRadar.Signals.Supersession

/-- The arguments of one call, apart from the ledger. -/
structure Call where
  mint : IdFactory
  incoming : List Observation
  asOf : Option Date
  rules : RulesArgument

/-- `resolve_supersession(ledger, incoming, ...)`. -/
def Call.resolve (call : Call) (ledger : List EvidenceFacts) : Except PyError SupersessionBatch :=
  resolveSupersession call.mint ledger call.incoming call.asOf call.rules

/-- The ids an incoming value brings with it: its own and the linked ones. -/
def mentionedIds : Observation → List Uuid
  | .evidence item => item.id.toList ++ item.supersededById.toList ++ item.supersedesId.toList
  | .event _ => []

/-- What `new_id` promises of the ids a call can draw, at most one for each incoming
    value: they differ, and neither the ledger nor the batch mentions one of them. -/
structure Call.FreshIds (call : Call) (ledger : List EvidenceFacts) : Prop where
  distinct : ∀ m < call.incoming.length, ∀ n < call.incoming.length,
    call.mint m = call.mint n → m = n
  unused : ∀ n < call.incoming.length, ∀ item ∈ ledger,
    call.mint n ∉ mentionedIds (.evidence item)
  unmentioned : ∀ n < call.incoming.length, ∀ value ∈ call.incoming,
    call.mint n ∉ mentionedIds value

/-- The ledgers and trails that calls with a given property build. -/
inductive Reachable (permitted : List EvidenceFacts → Call → Prop) :
    List EvidenceFacts → List EvidenceTransitionFacts → Prop
  | empty : Reachable permitted [] []
  | step {ledger : List EvidenceFacts} {trail : List EvidenceTransitionFacts} {call : Call}
      {batch : SupersessionBatch} (reached : Reachable permitted ledger trail)
      (allowed : permitted ledger call) (returned : call.resolve ledger = .ok batch) :
      Reachable permitted batch.items (trail ++ batch.transitions)

/-! ## Ids -/

/-- The ids of the items that have one. -/
def ledgerIds (ledger : List EvidenceFacts) : List Uuid := ledger.filterMap (·.id)

theorem mem_ledgerIds {ledger : List EvidenceFacts} {id : Uuid} :
    id ∈ ledgerIds ledger ↔ ∃ item ∈ ledger, item.id = some id := by
  simp [ledgerIds]

/-- Every item has an id. -/
def Identified (ledger : List EvidenceFacts) : Prop := ∀ item ∈ ledger, ∃ id, item.id = some id

theorem Revises.successor_id {old new : EvidenceFacts} {date : Date} {rule : ContradictionRule}
    {oldId successorId : Uuid} {revision : SupersessionResult}
    (revises : Revises old new date rule oldId successorId revision) :
    revision.successor.id = some successorId :=
  congrArg EvidenceFields.id revises.successor

theorem Revises.superseded_id {old new : EvidenceFacts} {date : Date} {rule : ContradictionRule}
    {oldId successorId : Uuid} {revision : SupersessionResult}
    (revises : Revises old new date rule oldId successorId revision) :
    revision.superseded.id = some oldId :=
  (congrArg EvidenceFields.id revises.superseded).trans revises.oldIdentified

/-- One candidate adds at most its own id, and removes none. -/
theorem Effect.ids {rules : List ContradictionRule} {incoming : IncomingCandidate}
    {current current' : List EvidenceFacts} {recorded : List SupersessionResult} {id : Uuid}
    (effect : Effect rules incoming current current' recorded)
    (own : incoming.score.id = some id) (identified : Identified current) :
    (ledgerIds current').Perm (ledgerIds current) ∨
      (ledgerIds current').Perm (id :: ledgerIds current) := by
  cases effect with
  | seen seen => exact Or.inl (List.Perm.refl _)
  | append unseen unmatched newIdentity =>
    right
    simp only [ledgerIds, List.filterMap_append, List.filterMap_cons, own, List.filterMap_nil]
    exact List.perm_append_comm
  | @merge front back item merged unseen unmatched same fields =>
    left
    have kept : merged.id = item.id := by rw [fields]; rfl
    simp only [ledgerIds, List.filterMap_append, List.filterMap_cons, kept]
    exact List.Perm.refl _
  | @onTime front back item rule revision oldId successorId unseen best order revises =>
    right
    have successor : successorId = id := by
      rcases revises.newIdentified with known | missing
      · exact Option.some.inj (known.symm.trans own)
      · rw [own] at missing
        cases missing
    subst successor
    simp only [ledgerIds, List.filterMap_append, List.filterMap_cons, revises.successor_id,
      revises.superseded_id, revises.oldIdentified, List.filterMap_nil, List.append_assoc,
      List.cons_append]
    refine List.perm_middle.trans (List.Perm.cons _ (List.Perm.append_left _ ?_))
    exact List.perm_append_comm
  | @late front back item rule reversed revision oldId successorId unseen best order reverse
      revises =>
    right
    have superseded : oldId = id := Option.some.inj (revises.oldIdentified.symm.trans own)
    subst superseded
    have successor : item.id = some successorId := by
      rcases revises.newIdentified with known | missing
      · exact known
      · obtain ⟨known, value⟩ := identified item (by simp)
        rw [value] at missing
        cases missing
    simp only [ledgerIds, List.filterMap_append, List.filterMap_cons, revises.successor_id,
      revises.superseded_id, successor, List.filterMap_nil]
    exact List.perm_append_comm

theorem Effect.identified {rules : List ContradictionRule} {incoming : IncomingCandidate}
    {current current' : List EvidenceFacts} {recorded : List SupersessionResult}
    (effect : Effect rules incoming current current' recorded)
    (own : ∃ id, incoming.score.id = some id) (identified : Identified current) :
    Identified current' := by
  cases effect with
  | seen seen => exact identified
  | append unseen unmatched newIdentity =>
    intro item member
    rcases List.mem_append.mp member with old | new
    · exact identified item old
    · exact List.mem_singleton.mp new ▸ own
  | @merge front back item merged unseen unmatched same fields =>
    intro other member
    rcases List.mem_append.mp member with before | rest
    · exact identified other (by simp [before])
    · rcases List.mem_cons.mp rest with rfl | after
      · obtain ⟨id, value⟩ := identified item (by simp)
        exact ⟨id, by rw [fields]; exact value⟩
      · exact identified other (by simp [after])
  | onTime unseen best order revises =>
    intro other member
    simp only [List.mem_append, List.mem_cons, List.not_mem_nil, or_false] at member
    rcases member with (before | rfl | after) | rfl
    · exact identified other (by simp [before])
    · exact ⟨_, revises.successor_id⟩
    · exact identified other (by simp [after])
    · exact ⟨_, revises.superseded_id⟩
  | late unseen best order reverse revises =>
    intro other member
    simp only [List.mem_append, List.mem_cons, List.not_mem_nil, or_false] at member
    rcases member with (before | rfl | after) | rfl
    · exact identified other (by simp [before])
    · exact ⟨_, revises.successor_id⟩
    · exact identified other (by simp [after])
    · exact ⟨_, revises.superseded_id⟩

/-- The predecessors that items name are in the ledger. -/
def PredecessorsPresent (ledger : List EvidenceFacts) : Prop :=
  ∀ item ∈ ledger, ∀ id, item.supersedesId = some id → id ∈ ledgerIds ledger

/-- An unlinked candidate only brings links to items of the ledger. -/
theorem Effect.predecessorsPresent {rules : List ContradictionRule} {incoming : IncomingCandidate}
    {current current' : List EvidenceFacts} {recorded : List SupersessionResult} {own : Uuid}
    (effect : Effect rules incoming current current' recorded)
    (identity : incoming.score.id = some own) (unlinked : incoming.score.supersedesId = none)
    (identified : Identified current) (present : PredecessorsPresent current) :
    PredecessorsPresent current' := by
  have grows : ∀ id ∈ ledgerIds current, id ∈ ledgerIds current' := by
    intro id member
    rcases effect.ids identity identified with same | added
    · exact same.mem_iff.mpr member
    · exact added.mem_iff.mpr (List.mem_cons_of_mem _ member)
  have old : ∀ item ∈ current, ∀ id, item.supersedesId = some id → id ∈ ledgerIds current' :=
    fun item member id link => grows id (present item member id link)
  cases effect with
  | seen seen => exact present
  | append unseen unmatched newIdentity =>
    intro item member id link
    rcases List.mem_append.mp member with earlier | new
    · exact old item earlier id link
    · rw [List.mem_singleton.mp new, unlinked] at link
      cases link
  | @merge front back item merged unseen unmatched same fields =>
    intro other member id link
    simp only [List.mem_append, List.mem_cons] at member
    rcases member with before | rfl | after
    · exact old other (by simp [before]) id link
    · rw [fields] at link
      exact old item (by simp) id link
    · exact old other (by simp [after]) id link
  | @onTime front back item rule revision oldId successorId unseen best order revises =>
    intro other member id link
    simp only [List.mem_append, List.mem_cons, List.not_mem_nil, or_false] at member
    rcases member with (before | rfl | after) | rfl
    · exact old other (by simp [before]) id link
    · rw [revises.successor] at link
      cases Option.some.inj link
      exact grows _ (mem_ledgerIds.mpr ⟨item, by simp, revises.oldIdentified⟩)
    · exact old other (by simp [after]) id link
    · rw [revises.superseded] at link
      exact old item (by simp) id link
  | @late front back item rule reversed revision oldId successorId unseen best order reverse
      revises =>
    intro other member id link
    simp only [List.mem_append, List.mem_cons, List.not_mem_nil, or_false] at member
    rcases member with (before | rfl | after) | rfl
    · exact old other (by simp [before]) id link
    · rw [revises.successor] at link
      cases Option.some.inj link
      exact mem_ledgerIds.mpr ⟨revision.superseded, by simp, revises.superseded_id⟩
    · exact old other (by simp [after]) id link
    · rw [revises.superseded] at link
      rw [markSuperseded, unlinked] at link
      cases link

/-- Every item of a reachable ledger has an id. -/
theorem Reachable.identified {permitted : List EvidenceFacts → Call → Prop}
    {ledger : List EvidenceFacts} {trail : List EvidenceTransitionFacts}
    (reached : Reachable permitted ledger trail) : Identified ledger := by
  induction reached with
  | empty =>
    intro item member
    cases member
  | step reached allowed returned ih =>
    obtain ⟨-, normalized, candidates, drawn, final, -, built, folded, rfl⟩ :=
      resolveSupersession_eq_ok_iff.mp returned
    have kept := fold_invariant (fun current _ => Identified current)
      (fun current current' revisions recorded candidate member holds effect =>
        effect.identified (by
          obtain ⟨value, -, origin⟩ := (incomingCandidates_eq_ok built).2.2 candidate
            (mem_sortCandidates.mp member)
          exact origin.identified) holds) ih folded
    exact fun item member => kept item (mem_sortItems.mp member)

/-! ## New ids -/

/-- The ids the evidence items of a batch bring. -/
def explicitIds (incoming : List Observation) : List Uuid :=
  incoming.filterMap fun value => match value with
    | .evidence item => item.id
    | .event _ => none

theorem mem_mentionedIds_of_explicit {incoming : List Observation} {id : Uuid}
    (member : id ∈ explicitIds incoming) : ∃ value ∈ incoming, id ∈ mentionedIds value := by
  obtain ⟨value, listed, own⟩ := List.mem_filterMap.mp member
  cases value with
  | evidence item => exact ⟨_, listed, by simp only [] at own; simp [mentionedIds, own]⟩
  | event event => cases own

/-- The ids of the candidates of a batch: explicit ones, or minted in this range. -/
theorem candidate_id {mint : IdFactory} {asOf : Option Date} {low high : Nat}
    {value : Observation} {candidate : IncomingCandidate} {id : Uuid}
    (origin : Origin mint asOf low high value candidate) (own : candidate.score.id = some id) :
    id ∈ explicitIds [value] ∨ ∃ n, low ≤ n ∧ n < high ∧ id = mint n := by
  cases origin with
  | given identified =>
    left
    simp only [] at own
    simp [explicitIds, own]
  | minted unidentified above below fields =>
    exact Or.inr ⟨_, above, below, Option.some.inj (own.symm.trans (congrArg EvidenceFields.id fields))⟩
  | event current above below built =>
    obtain ⟨evidenceType, source, -, -, fields⟩ := eventCandidate_eq_ok_iff.mp built
    exact Or.inr ⟨_, above, below, Option.some.inj (own.symm.trans (congrArg EvidenceFields.id fields))⟩

theorem explicitIds_cons (value : Observation) (incoming : List Observation) :
    explicitIds (value :: incoming) = explicitIds [value] ++ explicitIds incoming := by
  unfold explicitIds
  rw [← List.filterMap_append, List.singleton_append]

/-- The ids of the candidates differ when the explicit ones do. -/
theorem candidateIds_nodup {mint : IdFactory} {asOf : Option Date} {incoming : List Observation}
    {drawn drawn' bound : Nat} {candidates : List IncomingCandidate}
    (injective : ∀ m < bound, ∀ n < bound, mint m = mint n → m = n) (limit : drawn' ≤ bound)
    (distinct : (explicitIds incoming).Nodup) (apart : ∀ n < bound, mint n ∉ explicitIds incoming)
    (returned : incomingCandidates mint asOf incoming drawn = .ok (candidates, drawn')) :
    (candidates.filterMap (·.score.id)).Nodup := by
  induction incoming generalizing drawn candidates with
  | nil =>
    cases returned
    exact List.nodup_nil
  | cons value incoming ih =>
    rw [explicitIds_cons] at distinct apart
    rw [List.nodup_append] at distinct
    simp only [List.mem_append, not_or] at apart
    obtain ⟨⟨first, middle⟩, head, rest⟩ := Except.bind_eq_ok_iff.mp returned
    obtain ⟨⟨more, last⟩, tail, built⟩ := Except.bind_eq_ok_iff.mp rest
    cases built
    have tailNodup := ih distinct.2.1 (fun n small => (apart n small).2) tail
    have tailLe := (incomingCandidates_eq_ok tail).1
    cases first with
    | none => simpa using tailNodup
    | some candidate =>
      have origin := (incomingCandidate_eq_ok head).2.2 candidate rfl
      obtain ⟨id, own⟩ := origin.identified
      simp only [Option.toList_some, List.singleton_append, List.filterMap_cons, own,
        List.nodup_cons]
      refine ⟨fun member => ?_, tailNodup⟩
      obtain ⟨other, otherMember, same⟩ := List.mem_filterMap.mp member
      obtain ⟨source, listed, otherOrigin⟩ := (incomingCandidates_eq_ok tail).2.2 other otherMember
      have sourceIds : explicitIds [source] ⊆ explicitIds incoming := by
        unfold explicitIds
        exact List.filterMap_subset _ (by simpa using listed)
      rcases candidate_id origin own with explicit | ⟨n, -, below, rfl⟩ <;>
        rcases candidate_id otherOrigin same with explicit' | ⟨m, above, high, minted⟩
      · exact distinct.2.2 id explicit id (sourceIds explicit') rfl
      · exact (apart m (by omega)).1 (minted ▸ explicit)
      · exact (apart n (by omega)).2 (sourceIds explicit')
      · have := injective n (by omega) m (by omega) minted
        omega

/-- The explicit ids of a batch are new and differ. -/
structure Call.NewIds (call : Call) (ledger : List EvidenceFacts) : Prop where
  distinct : (explicitIds call.incoming).Nodup
  unused : ∀ id ∈ explicitIds call.incoming, id ∉ ledgerIds ledger

/-- One candidate with a new id keeps the ids of the ledger and of the rest distinct. -/
theorem Effect.distinct {rules : List ContradictionRule} {candidate : IncomingCandidate}
    {current current' : List EvidenceFacts} {recorded : List SupersessionResult} {id : Uuid}
    {rest : List IncomingCandidate} (effect : Effect rules candidate current current' recorded)
    (own : candidate.score.id = some id) (identified : Identified current)
    (distinct : (ledgerIds current ++ (candidate :: rest).filterMap (·.score.id)).Nodup) :
    (ledgerIds current' ++ rest.filterMap (·.score.id)).Nodup := by
  rw [List.filterMap_cons, own] at distinct
  rcases effect.ids own identified with same | added
  · refine ((List.Perm.append_right _ same).nodup_iff).mpr (distinct.sublist ?_)
    exact List.Sublist.append_left (List.sublist_cons_self _ _) _
  · exact ((List.Perm.append_right _ added).trans List.perm_middle.symm).nodup_iff.mpr distinct

theorem sortCandidates_perm (candidates : List IncomingCandidate) :
    (sortCandidates candidates).Perm candidates := List.perm_insertionSort _ _

theorem ledgerIds_sortItems (items : List EvidenceFacts) :
    (ledgerIds (sortItems items)).Perm (ledgerIds items) := (sortItems_perm items).filterMap _

/-- A call that is given new ids starts its loop with distinct ones. -/
theorem call_ids_nodup {call : Call} {ledger : List EvidenceFacts}
    {candidates : List IncomingCandidate} {drawn : Nat} (fresh : call.FreshIds ledger)
    (new : call.NewIds ledger) (distinct : (ledgerIds ledger).Nodup)
    (built : incomingCandidates call.mint call.asOf call.incoming 0 = .ok (candidates, drawn)) :
    (ledgerIds ledger ++ (sortCandidates candidates).filterMap (·.score.id)).Nodup := by
  have apart : ∀ n < call.incoming.length, call.mint n ∉ explicitIds call.incoming := by
    intro n small member
    obtain ⟨value, listed, mentioned⟩ := mem_mentionedIds_of_explicit member
    exact fresh.unmentioned n small value listed mentioned
  obtain ⟨-, limit, origins⟩ := incomingCandidates_eq_ok built
  rw [Nat.zero_add] at limit
  have candidateIds := candidateIds_nodup fresh.distinct limit new.distinct apart built
  have sorted := ((sortCandidates_perm candidates).filterMap (·.score.id)).nodup_iff.mpr candidateIds
  refine List.Nodup.append distinct sorted fun id old isNew => ?_
  obtain ⟨candidate, member, own⟩ := List.mem_filterMap.mp isNew
  obtain ⟨value, listed, origin⟩ := origins candidate (mem_sortCandidates.mp member)
  rcases candidate_id origin own with explicit | ⟨n, -, small, rfl⟩
  · have batchId : id ∈ explicitIds call.incoming :=
      List.filterMap_subset _ (by simpa using listed) explicit
    exact new.unused id batchId old
  · obtain ⟨item, member, own⟩ := mem_ledgerIds.mp old
    exact fresh.unused n (by omega) item member (by simp [mentionedIds, own])

/-! ## Runs that can be computed -/

instance (call : Call) (ledger : List EvidenceFacts) : Decidable (call.FreshIds ledger) :=
  decidable_of_iff
    ((∀ m < call.incoming.length, ∀ n < call.incoming.length,
        call.mint m = call.mint n → m = n) ∧
      (∀ n < call.incoming.length, ∀ item ∈ ledger,
        call.mint n ∉ mentionedIds (.evidence item)) ∧
      ∀ n < call.incoming.length, ∀ value ∈ call.incoming, call.mint n ∉ mentionedIds value)
    ⟨fun ⟨distinct, unused, unmentioned⟩ => ⟨distinct, unused, unmentioned⟩,
      fun fresh => ⟨fresh.distinct, fresh.unused, fresh.unmentioned⟩⟩

/-- Calls made one after another, each checked against the ledger it meets. -/
def runCalls (permitted : List EvidenceFacts → Call → Prop)
    [∀ ledger call, Decidable (permitted ledger call)] :
    List Call → List EvidenceFacts × List EvidenceTransitionFacts →
      Option (List EvidenceFacts × List EvidenceTransitionFacts)
  | [], state => some state
  | call :: calls, (ledger, trail) =>
    if permitted ledger call then
      match call.resolve ledger with
      | .ok batch => runCalls permitted calls (batch.items, trail ++ batch.transitions)
      | .error _ => none
    else none

end CovenantRadar.Signals.Supersession
