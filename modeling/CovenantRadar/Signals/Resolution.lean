import CovenantRadar.Signals.Supersession

/-!
# What one iteration does

Each function of the resolver is described once, by what it returns: the guards it
passed and the items it built. Everything proved about runs rests on `Effect`, the
five ways one candidate changes the ledger.
-/

namespace CovenantRadar.Signals.Supersession

/-! ## `supersede` -/

/-- The guards `supersede` passed and what it built. -/
structure Revises (old new : EvidenceFacts) (date : Date) (rule : ContradictionRule)
    (oldId successorId : Uuid) (revision : SupersessionResult) : Prop where
  oldIdentified : old.id = some oldId
  distinct : new.id ≠ some oldId
  oldActive : old.isActive = true
  newActive : new.isActive = true
  predecessor : new.supersedesId = none ∨ new.supersedesId = some oldId
  newIdentified : new.id = some successorId ∨ new.id = none
  matched : rule.matchesPair (.evidence old) (.evidence new) = true
  superseded : revision.superseded.toEvidenceFields =
    markSuperseded old.toEvidenceFields successorId
  successor : revision.successor.toEvidenceFields =
    markSuccessor new.toEvidenceFields successorId oldId
  transition : revision.transition =
    ⟨some old.state, .superseded, date, rule.rule, some oldId⟩

theorem isActive_iff {item : EvidenceFacts} :
    item.isActive = true ↔ item.state.isActive = true ∧ item.supersededById = none := by
  simp [EvidenceFacts.isActive]

theorem checkItems_eq_ok_iff {old new : EvidenceFacts} {oldId : Uuid} :
    checkItems old new oldId = .ok () ↔
      new.id ≠ some oldId ∧ old.isActive = true ∧ new.isActive = true ∧
        (new.supersedesId = none ∨ new.supersedesId = some oldId) := by
  unfold checkItems
  simp only [isActive_iff]
  split_ifs with same oldState oldLinked newPredecessor newLinked newState
  · simp [same]
  · simp [oldState]
  · simp [Option.isSome_iff_ne_none.mp oldLinked]
  · have neither := not_or.mpr newPredecessor
    simp [neither]
  · simp [Option.isSome_iff_ne_none.mp newLinked]
  · simp [newState]
  · refine iff_of_true rfl ⟨same, ⟨by simpa using oldState, by simpa using oldLinked⟩,
      ⟨by simpa using newState, by simpa using newLinked⟩, ?_⟩
    by_contra neither
    exact newPredecessor (not_or.mp neither)

theorem coerceRule_eq_ok_iff {rule selected : ContradictionRule} {old new : EvidenceFacts} :
    coerceRule rule old new = .ok selected ↔
      selected = rule ∧ rule.matchesPair (.evidence old) (.evidence new) = true := by
  unfold coerceRule
  split_ifs with matched
  · simp [matched, eq_comm]
  · simp [matched]

theorem supersede_eq_ok {mint : IdFactory} {drawn drawn' : Nat} {old new : EvidenceFacts}
    {date : Date} {rule : ContradictionRule} {revision : SupersessionResult}
    (returned : supersede mint drawn old new (some date) rule = .ok (revision, drawn')) :
    ∃ oldId successorId, successorIdentity mint drawn new.id = (successorId, drawn') ∧
      Revises old new date rule oldId successorId revision := by
  unfold supersede at returned
  split at returned
  · cases returned
  · rename_i oldId identified
    obtain ⟨⟨⟩, items, rest⟩ := Except.bind_eq_ok_iff.mp returned
    obtain ⟨selected, coerced, rest⟩ := Except.bind_eq_ok_iff.mp rest
    obtain ⟨⟨⟩, -, rest⟩ := Except.bind_eq_ok_iff.mp rest
    obtain ⟨superseded, marked, rest⟩ := Except.bind_eq_ok_iff.mp rest
    obtain ⟨successor, linked, built⟩ := Except.bind_eq_ok_iff.mp rest
    obtain ⟨distinct, oldActive, newActive, predecessor⟩ := checkItems_eq_ok_iff.mp items
    obtain ⟨rfl, matched⟩ := coerceRule_eq_ok_iff.mp coerced
    cases built
    refine ⟨oldId, (successorIdentity mint drawn new.id).1, rfl, ?_⟩
    exact {
      oldIdentified := identified
      distinct, oldActive, newActive, predecessor, matched
      newIdentified := by cases new.id <;> simp [successorIdentity]
      superseded := EvidenceFacts.make_eq_ok_iff.mp marked
      successor := EvidenceFacts.make_eq_ok_iff.mp linked
      transition := rfl }

/-- The fields of the item built for an event. -/
def eventFields (id : Uuid) (event : SignalEventFacts) (evidenceType : BoundedText 50)
    (source : BoundedText 128) : EvidenceFields where
  id := some id
  borrowerId := event.borrowerId
  facilityId := event.facilityId
  family := event.family
  evidenceType := evidenceType
  firstSeen := event.eventDate
  lastSeen := event.eventDate
  persistenceDays := some 1
  eventCountWindow := some 1
  materialityPct := none
  decayFactor := none
  state := .transient
  countsTowardPressure := false
  supersededById := none
  supersedesId := none
  sourceEventIds := {source}

theorem sourceIds_singleton {value : Text} {sources : SourceIds} :
    sourceIds [value] = .ok sources ↔
      ∃ source, BoundedText.check "source_event_id" 128 value = .ok source ∧
        sources = {source} := by
  have small : ∀ source : BoundedText 128, ¬ maxEventIds < ({source} : SourceIds).card := by
    intro source
    rw [Finset.card_singleton]
    decide
  unfold sourceIds
  simp only [Except.bind_eq_ok_iff, mapM_eq_ok_iff, List.forall₂_cons_left_iff,
    List.forall₂_nil_left_iff]
  constructor
  · rintro ⟨-, ⟨source, -, checked, rfl, rfl⟩, merged⟩
    simp only [List.toFinset_cons, List.toFinset_nil, insert_empty_eq, mergedSourceIds,
      if_neg (small source)] at merged
    exact ⟨source, checked, (Except.ok.inj merged).symm⟩
  · rintro ⟨source, checked, rfl⟩
    refine ⟨[source], ⟨source, [], checked, rfl, rfl⟩, ?_⟩
    simp only [List.toFinset_cons, List.toFinset_nil, insert_empty_eq, mergedSourceIds,
      if_neg (small source)]

theorem eventCandidate_eq_ok_iff {id : Uuid} {event : SignalEventFacts} {score : EvidenceFacts} :
    eventCandidate id event = .ok score ↔
      ∃ evidenceType source,
        BoundedText.check "evidence_type" 50 event.evidenceType.text = .ok evidenceType ∧
        BoundedText.check "source_event_id" 128 (eventSourceId event) = .ok source ∧
        score.toEvidenceFields = eventFields id event evidenceType source := by
  unfold eventCandidate
  simp only [Except.bind_eq_ok_iff, sourceIds_singleton, EvidenceFacts.make_eq_ok_iff]
  constructor
  · rintro ⟨evidenceType, typed, -, ⟨source, checked, rfl⟩, built⟩
    exact ⟨evidenceType, source, typed, checked, built⟩
  · rintro ⟨evidenceType, source, typed, checked, built⟩
    exact ⟨evidenceType, typed, _, ⟨source, checked, rfl⟩, built⟩

/-- Where a candidate comes from. -/
inductive Origin (mint : IdFactory) (asOf : Option Date) (low high : Nat) :
    Observation → IncomingCandidate → Prop
  | given {item : EvidenceFacts} (identified : item.id.isSome) :
      Origin mint asOf low high (.evidence item) ⟨item, none⟩
  | minted {item score : EvidenceFacts} {n : Nat} (unidentified : item.id = none)
      (above : low ≤ n) (below : n < high)
      (fields : score.toEvidenceFields = { item.toEvidenceFields with id := some (mint n) }) :
      Origin mint asOf low high (.evidence item) ⟨score, none⟩
  | event {event : SignalEventFacts} {score : EvidenceFacts} {n : Nat}
      (current : isFuture asOf event = false) (above : low ≤ n) (below : n < high)
      (built : eventCandidate (mint n) event = .ok score) :
      Origin mint asOf low high (.event event) ⟨score, some event⟩

theorem Origin.widen {mint : IdFactory} {asOf : Option Date} {low high low' high' : Nat}
    {value : Observation} {candidate : IncomingCandidate} (lower : low' ≤ low) (upper : high ≤ high')
    (origin : Origin mint asOf low high value candidate) :
    Origin mint asOf low' high' value candidate := by
  cases origin with
  | given identified => exact .given identified
  | minted unidentified above below fields =>
    exact .minted unidentified (lower.trans above) (below.trans_le upper) fields
  | event current above below built =>
    exact .event current (lower.trans above) (below.trans_le upper) built

theorem incomingCandidate_eq_ok {mint : IdFactory} {drawn drawn' : Nat} {asOf : Option Date}
    {value : Observation} {candidate : Option IncomingCandidate}
    (returned : incomingCandidate mint drawn asOf value = .ok (candidate, drawn')) :
    drawn ≤ drawn' ∧ drawn' ≤ drawn + 1 ∧
      ∀ found ∈ candidate, Origin mint asOf drawn drawn' value found := by
  cases value with
  | evidence item =>
    simp only [incomingCandidate] at returned
    split_ifs at returned with identified
    · cases returned
      refine ⟨le_refl _, Nat.le_succ _, ?_⟩
      rintro found ⟨⟩
      exact .given identified
    · obtain ⟨score, built, rest⟩ := Except.bind_eq_ok_iff.mp returned
      cases rest
      refine ⟨Nat.le_succ _, le_refl _, ?_⟩
      rintro found ⟨⟩
      exact .minted (by simpa using identified) (le_refl _) (Nat.lt_succ_self _)
        (EvidenceFacts.make_eq_ok_iff.mp built)
  | event event =>
    simp only [incomingCandidate] at returned
    split_ifs at returned with future
    · cases returned
      exact ⟨le_refl _, Nat.le_succ _, by simp⟩
    · obtain ⟨score, built, rest⟩ := Except.bind_eq_ok_iff.mp returned
      cases rest
      refine ⟨Nat.le_succ _, le_refl _, ?_⟩
      rintro found ⟨⟩
      exact .event (by simpa using future) (le_refl _) (Nat.lt_succ_self _) built

/-- Every candidate comes from a value of the batch. -/
theorem incomingCandidates_eq_ok {mint : IdFactory} {asOf : Option Date}
    {incoming : List Observation} {drawn drawn' : Nat} {candidates : List IncomingCandidate}
    (returned : incomingCandidates mint asOf incoming drawn = .ok (candidates, drawn')) :
    drawn ≤ drawn' ∧ drawn' ≤ drawn + incoming.length ∧ ∀ candidate ∈ candidates,
      ∃ value ∈ incoming, Origin mint asOf drawn drawn' value candidate := by
  induction incoming generalizing drawn candidates with
  | nil =>
    cases returned
    exact ⟨le_refl _, le_refl _, by simp⟩
  | cons value incoming ih =>
    obtain ⟨⟨first, middle⟩, head, rest⟩ := Except.bind_eq_ok_iff.mp returned
    obtain ⟨⟨more, last⟩, tail, built⟩ := Except.bind_eq_ok_iff.mp rest
    cases built
    obtain ⟨headLe, headSucc, headOrigin⟩ := incomingCandidate_eq_ok head
    obtain ⟨tailLe, tailBound, tailOrigin⟩ := ih tail
    refine ⟨headLe.trans tailLe, by rw [List.length_cons]; omega, fun candidate member => ?_⟩
    rcases List.mem_append.mp member with isFirst | later
    · exact ⟨value, List.mem_cons_self,
        (headOrigin candidate (by simpa using isFirst)).widen (le_refl _) tailLe⟩
    · obtain ⟨source, sourceMember, origin⟩ := tailOrigin candidate later
      exact ⟨source, List.mem_cons_of_mem _ sourceMember, origin.widen headLe (le_refl _)⟩

/-- A candidate always has an id. -/
theorem Origin.identified {mint : IdFactory} {asOf : Option Date} {low high : Nat}
    {value : Observation} {candidate : IncomingCandidate}
    (origin : Origin mint asOf low high value candidate) : ∃ id, candidate.score.id = some id := by
  cases origin with
  | given identified => exact Option.isSome_iff_exists.mp identified
  | minted unidentified above below fields => exact ⟨_, congrArg EvidenceFields.id fields⟩
  | event current above below built =>
    obtain ⟨evidenceType, source, -, -, fields⟩ := eventCandidate_eq_ok_iff.mp built
    exact ⟨_, congrArg EvidenceFields.id fields⟩

/-! ## Matches -/

theorem mem_matchList_iff {incoming : IncomingCandidate} {current : List EvidenceFacts}
    {rules : List ContradictionRule} {found : Match} :
    found ∈ matchList incoming current rules ↔
      current[found.index]? = some found.item ∧ competes incoming.score found.item = true ∧
        found.rule ∈ rules ∧ found.rule.matchesPair (.evidence found.item) incoming.fact = true := by
  obtain ⟨index, item, rule⟩ := found
  simp only [matchList, List.mem_flatMap, Prod.exists, List.mem_zipIdx_iff_getElem?]
  constructor
  · rintro ⟨item', index', position, member⟩
    split_ifs at member with competing
    · simp only [List.mem_map, List.mem_filter, Match.mk.injEq] at member
      obtain ⟨rule', ⟨listed, matched⟩, rfl, rfl, rfl⟩ := member
      exact ⟨position, competing, listed, matched⟩
    · cases member
  · rintro ⟨position, competing, listed, matched⟩
    refine ⟨item, index, position, ?_⟩
    rw [if_pos competing]
    exact List.mem_map.mpr ⟨rule, List.mem_filter.mpr ⟨listed, matched⟩, rfl⟩

/-- The item that the best match of a candidate is about, and why no other wins. -/
theorem bestMatch_eq_some {incoming : IncomingCandidate} {current : List EvidenceFacts}
    {rules : List ContradictionRule} {found : Match}
    (chosen : bestMatch incoming current rules = some found) :
    found ∈ matchList incoming current rules ∧
      ∀ other ∈ matchList incoming current rules, matchKey other.item ≤ matchKey found.item :=
  ⟨maxBy_mem chosen, fun other member =>
    @le_key_maxBy _ _ _ (fun entry : Match => matchKey entry.item) _ _ other chosen member⟩

/-- What each branch says about the ledger it was chosen on. -/
theorem branch_spec (current : List EvidenceFacts) (rules : List ContradictionRule)
    (incoming : IncomingCandidate) :
    match branch current rules incoming with
    | .seen => alreadySeen incoming.score current = true
    | .append =>
      alreadySeen incoming.score current = false ∧ bestMatch incoming current rules = none ∧
        ∀ item ∈ current, isSameIdentity incoming.score item = false
    | .merge index item =>
      alreadySeen incoming.score current = false ∧ bestMatch incoming current rules = none ∧
        current[index]? = some item ∧ isSameIdentity incoming.score item = true
    | .onTime found =>
      alreadySeen incoming.score current = false ∧
        bestMatch incoming current rules = some found ∧
        found.item.lastSeen ≤ incoming.score.firstSeen
    | .late found =>
      alreadySeen incoming.score current = false ∧
        bestMatch incoming current rules = some found ∧
        incoming.score.firstSeen < found.item.lastSeen := by
  unfold branch
  split_ifs with seen
  · exact seen
  · rw [Bool.not_eq_true] at seen
    cases best : bestMatch incoming current rules with
    | none =>
      cases place : current.zipIdx.find? fun entry => isSameIdentity incoming.score entry.1 with
      | none =>
        refine ⟨seen, rfl, fun item member => ?_⟩
        obtain ⟨index, position⟩ := List.mem_iff_getElem?.mp member
        have absent := List.find?_eq_none.mp place (item, index)
          (List.mem_zipIdx_iff_getElem?.mpr position)
        simpa using absent
      | some entry =>
        obtain ⟨item, index⟩ := entry
        have position := List.mem_zipIdx_iff_getElem?.mp (List.mem_of_find?_eq_some place)
        exact ⟨seen, rfl, position, by simpa using List.find?_some place⟩
    | some found =>
      by_cases onTime : found.item.lastSeen ≤ incoming.score.firstSeen
      · simp only [if_pos onTime]
        exact ⟨seen, trivial, onTime⟩
      · simp only [if_neg onTime]
        exact ⟨seen, trivial, not_le.mp onTime⟩

/-- The effect of one candidate on the ledger: what `current` becomes, and the
    revisions recorded. -/
inductive Effect (rules : List ContradictionRule) (incoming : IncomingCandidate) :
    List EvidenceFacts → List EvidenceFacts → List SupersessionResult → Prop
  | seen {current : List EvidenceFacts}
      (seen : alreadySeen incoming.score current = true) : Effect rules incoming current current []
  | append {current : List EvidenceFacts}
      (unseen : alreadySeen incoming.score current = false)
      (unmatched : bestMatch incoming current rules = none)
      (newIdentity : ∀ item ∈ current, isSameIdentity incoming.score item = false) :
      Effect rules incoming current (current ++ [incoming.score]) []
  | merge {front back : List EvidenceFacts} {item merged : EvidenceFacts}
      (unseen : alreadySeen incoming.score (front ++ item :: back) = false)
      (unmatched : bestMatch incoming (front ++ item :: back) rules = none)
      (same : isSameIdentity incoming.score item = true)
      (fields : merged.toEvidenceFields =
        mergedFields item.toEvidenceFields incoming.score.toEvidenceFields) :
      Effect rules incoming (front ++ item :: back) (front ++ merged :: back) []
  | onTime {front back : List EvidenceFacts} {item : EvidenceFacts} {rule : ContradictionRule}
      {revision : SupersessionResult} {oldId successorId : Uuid}
      (unseen : alreadySeen incoming.score (front ++ item :: back) = false)
      (best : bestMatch incoming (front ++ item :: back) rules = some ⟨front.length, item, rule⟩)
      (order : item.lastSeen ≤ incoming.score.firstSeen)
      (revises : Revises item incoming.score incoming.score.firstSeen rule oldId successorId
        revision) :
      Effect rules incoming (front ++ item :: back)
        (front ++ revision.successor :: back ++ [revision.superseded]) [revision]
  | late {front back : List EvidenceFacts} {item : EvidenceFacts}
      {rule reversed : ContradictionRule} {revision : SupersessionResult} {oldId successorId : Uuid}
      (unseen : alreadySeen incoming.score (front ++ item :: back) = false)
      (best : bestMatch incoming (front ++ item :: back) rules = some ⟨front.length, item, rule⟩)
      (order : incoming.score.firstSeen < item.lastSeen)
      (reverse : rule.reverse = .ok reversed)
      (revises : Revises incoming.score item item.lastSeen reversed oldId successorId revision) :
      Effect rules incoming (front ++ item :: back)
        (front ++ revision.successor :: back ++ [revision.superseded]) [revision]

private theorem split_at {current : List EvidenceFacts} {index : Nat} {item : EvidenceFacts}
    (position : current[index]? = some item) :
    ∃ front back, current = front ++ item :: back ∧ front.length = index := by
  obtain ⟨bound, value⟩ := List.getElem?_eq_some_iff.mp position
  refine ⟨current.take index, current.drop (index + 1), ?_, by simp; omega⟩
  rw [← value, List.cons_getElem_drop_succ, List.take_append_drop]

private theorem set_split (front back : List EvidenceFacts) (item item' : EvidenceFacts) :
    (front ++ item :: back).set front.length item' = front ++ item' :: back := by
  simp

/-- Every iteration has one of the five effects. -/
theorem resolveStep_effect {mint : IdFactory} {rules : List ContradictionRule}
    {state state' : LoopState} {incoming : IncomingCandidate}
    (returned : resolveStep mint rules state incoming = .ok state') :
    ∃ recorded, state'.revisions = state.revisions ++ recorded ∧
      Effect rules incoming state.current state'.current recorded := by
  have spec := branch_spec state.current rules incoming
  unfold resolveStep at returned
  cases taken : branch state.current rules incoming with
  | seen =>
    rw [taken] at spec returned
    cases returned
    exact ⟨[], (List.append_nil _).symm, .seen spec⟩
  | append =>
    rw [taken] at spec returned
    cases returned
    obtain ⟨unseen, unmatched, newIdentity⟩ := spec
    exact ⟨[], (List.append_nil _).symm, .append unseen unmatched newIdentity⟩
  | merge index item =>
    rw [taken] at spec returned
    obtain ⟨unseen, unmatched, position, same⟩ := spec
    obtain ⟨front, back, split, rfl⟩ := split_at position
    obtain ⟨merged, built, rest⟩ := Except.bind_eq_ok_iff.mp returned
    cases rest
    refine ⟨[], (List.append_nil _).symm, ?_⟩
    simp only [split, set_split] at unseen unmatched ⊢
    exact .merge unseen unmatched same (EvidenceFacts.make_eq_ok_iff.mp built)
  | onTime found =>
    rw [taken] at spec returned
    obtain ⟨index, item, rule⟩ := found
    obtain ⟨unseen, best, order⟩ := spec
    obtain ⟨front, back, split, rfl⟩ :=
      split_at (mem_matchList_iff.mp (bestMatch_eq_some best).1).1
    obtain ⟨⟨revision, drawn⟩, revised, rest⟩ := Except.bind_eq_ok_iff.mp returned
    cases rest
    obtain ⟨oldId, successorId, -, revises⟩ := supersede_eq_ok revised
    refine ⟨[revision], rfl, ?_⟩
    simp only [LoopState.record, split, set_split] at unseen best ⊢
    exact .onTime unseen best order revises
  | late found =>
    rw [taken] at spec returned
    obtain ⟨index, item, rule⟩ := found
    obtain ⟨unseen, best, order⟩ := spec
    obtain ⟨front, back, split, rfl⟩ :=
      split_at (mem_matchList_iff.mp (bestMatch_eq_some best).1).1
    obtain ⟨reversed, reverse, rest⟩ := Except.bind_eq_ok_iff.mp returned
    obtain ⟨⟨revision, drawn⟩, revised, rest⟩ := Except.bind_eq_ok_iff.mp rest
    cases rest
    obtain ⟨oldId, successorId, -, revises⟩ := supersede_eq_ok revised
    refine ⟨[revision], rfl, ?_⟩
    simp only [LoopState.record, split, set_split] at unseen best ⊢
    exact .late unseen best order reverse revises

/-! ## A whole call -/

theorem validateHistoryIds_eq_ok_iff {items : List EvidenceFacts} :
    validateHistoryIds items = .ok () ↔ (items.filterMap (·.id)).Nodup := by
  have unlinked : (items.any fun item => item.linksToItself) = false := by
    rw [List.any_eq_false]
    intro item _
    simp [item.valid.unlinked]
  unfold validateHistoryIds
  split_ifs with distinct
  · rename_i linked
    exact absurd linked (by simp [unlinked])
  · simp [distinct]
  · simp [distinct]

theorem mem_sortItems {items : List EvidenceFacts} {item : EvidenceFacts} :
    item ∈ sortItems items ↔ item ∈ items := List.mem_insertionSort _

theorem sortItems_perm (items : List EvidenceFacts) : (sortItems items).Perm items :=
  List.perm_insertionSort _ _

theorem mem_sortCandidates {candidates : List IncomingCandidate} {candidate : IncomingCandidate} :
    candidate ∈ sortCandidates candidates ↔ candidate ∈ candidates := List.mem_insertionSort _

/-- What a call that returned did. -/
theorem resolveSupersession_eq_ok_iff {mint : IdFactory} {existing : List EvidenceFacts}
    {incoming : List Observation} {asOf : Option Date} {rules : RulesArgument}
    {batch : SupersessionBatch} :
    resolveSupersession mint existing incoming asOf rules = .ok batch ↔
      (existing.filterMap (·.id)).Nodup ∧ ∃ normalized candidates drawn final,
        normaliseRules rules = .ok normalized ∧
        incomingCandidates mint asOf incoming 0 = .ok (candidates, drawn) ∧
        (sortCandidates candidates).foldlM (resolveStep mint normalized) ⟨existing, [], drawn⟩ =
          .ok final ∧
        batch = ⟨sortItems final.current, final.revisions⟩ := by
  unfold resolveSupersession
  simp only [Except.bind_eq_ok_iff, Prod.exists]
  constructor
  · rintro ⟨⟨⟩, valid, normalized, rules', candidates, drawn, built, final, folded, same⟩
    exact ⟨validateHistoryIds_eq_ok_iff.mp valid, normalized, candidates, drawn, final, rules',
      built, folded, (Except.ok.inj same).symm⟩
  · rintro ⟨distinct, normalized, candidates, drawn, final, rules', built, folded, rfl⟩
    exact ⟨(), validateHistoryIds_eq_ok_iff.mpr distinct, normalized, rules', candidates, drawn,
      built, final, folded, rfl⟩

/-- A relation to the ledger the call started from that every iteration keeps. -/
theorem fold_invariant {mint : IdFactory} {rules : List ContradictionRule}
    (inv : List EvidenceFacts → List SupersessionResult → Prop) {state final : LoopState}
    {candidates : List IncomingCandidate}
    (preserved : ∀ current current' revisions recorded, ∀ candidate ∈ candidates,
      inv current revisions → Effect rules candidate current current' recorded →
        inv current' (revisions ++ recorded))
    (initial : inv state.current state.revisions)
    (returned : candidates.foldlM (resolveStep mint rules) state = .ok final) :
    inv final.current final.revisions := by
  refine foldlM_invariant (fun state => inv state.current state.revisions) ?_ initial returned
  intro state candidate state' member holds stepped
  obtain ⟨recorded, revisions, effect⟩ := resolveStep_effect stepped
  rw [revisions]
  exact preserved _ _ _ _ candidate member holds effect

end CovenantRadar.Signals.Supersession
