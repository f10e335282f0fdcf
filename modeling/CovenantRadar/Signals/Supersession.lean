import CovenantRadar.Signals.Contradiction
import CovenantRadar.Misc.Select

/-!
# Resolving incoming evidence

Source `domain/signals/supersession.py`: `supersede`, `resolve_supersession` and
the helpers they call. `current` is the ledger as the loop rewrites it; which of
the five branches one candidate takes is a pure function of `current`, and the
branch alone decides whether the iteration can raise.
-/

namespace CovenantRadar.Signals

/-- Source `_ACTIVE_STATES`. -/
def EvidenceState.isActive : EvidenceState → Bool
  | transient => true
  | sustained => true
  | superseded => false
  | disputed => false

/-- The test the loop repeats: an active state and no successor. -/
def EvidenceFacts.isActive (item : EvidenceFacts) : Bool :=
  item.state.isActive && item.supersededById.isNone

namespace Supersession

/-- `id_factory`: its n-th call. -/
abbrev IdFactory := Nat → Uuid

/-! ## Superseding one item by another -/

/-- Source `SupersessionResult`. -/
structure SupersessionResult where
  superseded : EvidenceFacts
  successor : EvidenceFacts
  rule : ContradictionRule
  occurredOn : Date
  transition : EvidenceTransitionFacts

/-- `_as_score(old, state=SUPERSEDED_STATE, ...)`. -/
def markSuperseded (old : EvidenceFields) (successorId : Uuid) : EvidenceFields :=
  { old with
    state := .superseded, countsTowardPressure := false, supersededById := some successorId }

/-- `_as_score(new, id=successor_id, supersedes_id=old.id)`. -/
def markSuccessor (new : EvidenceFields) (successorId oldId : Uuid) : EvidenceFields :=
  { new with id := some successorId, supersedesId := some oldId }

/-- Source `_coerce_rule` on a rule. -/
def coerceRule (rule : ContradictionRule) (predecessor successor : EvidenceFacts) :
    Except PyError ContradictionRule :=
  if rule.matchesPair (.evidence predecessor) (.evidence successor) then .ok rule
  else .error (.valueError "The supplied contradiction rule does not match the two items.")

/-- The successor id of `supersede`, and the calls of the factory so far. -/
def successorIdentity (mint : IdFactory) (drawn : Nat) : Option Uuid → Uuid × Nat
  | some given => (given, drawn)
  | none => (mint drawn, drawn + 1)

/-- The guards of `supersede` on the two items. -/
def checkItems (old new : EvidenceFacts) (oldId : Uuid) : Except PyError Unit :=
  if new.id = some oldId then
    .error (.valueError "An evidence item cannot supersede itself.")
  else if old.state.isActive = false then
    .error (.valueError "Only transient or sustained evidence can be superseded.")
  else if old.supersededById.isSome then
    .error (.valueError "An evidence item can have only one direct successor.")
  else if new.supersedesId ≠ none ∧ new.supersedesId ≠ some oldId then
    .error (.valueError "The successor already supersedes a different evidence item.")
  else if new.supersededById.isSome then
    .error (.valueError "A superseded item cannot become a successor.")
  else if new.state.isActive = false then
    .error (.valueError "A supersession successor must be transient or sustained.")
  else .ok ()

/-- The guards of `supersede` on the date. -/
def checkDate (old new : EvidenceFacts) (supersessionDate : Date) : Except PyError Unit :=
  if supersessionDate < old.firstSeen then
    .error (.valueError "occurred_on cannot precede the superseded item's first_seen date.")
  else if supersessionDate < new.firstSeen then
    .error (.valueError "occurred_on cannot precede the successor item's first_seen date.")
  else .ok ()

/-- Source `supersede` (`supersession.py:320-391`), with a rule given. -/
def supersede (mint : IdFactory) (drawn : Nat) (old new : EvidenceFacts)
    (occurredOn : Option Date) (rule : ContradictionRule) :
    Except PyError (SupersessionResult × Nat) :=
  match old.id with
  | none => .error (.valueError "A superseded evidence item must have a persisted id.")
  | some oldId => do
    checkItems old new oldId
    let selectedRule ← coerceRule rule old new
    let supersessionDate := occurredOn.getD new.firstSeen
    checkDate old new supersessionDate
    let (successorId, drawn) := successorIdentity mint drawn new.id
    let superseded ← EvidenceFacts.make (markSuperseded old.toEvidenceFields successorId)
    let successor ← EvidenceFacts.make (markSuccessor new.toEvidenceFields successorId oldId)
    .ok (⟨superseded, successor, selectedRule, supersessionDate,
      { fromState := some old.state, toState := .superseded, occurredOn := supersessionDate
        rule := selectedRule.rule, evidenceId := some oldId }⟩, drawn)

/-! ## Candidates -/

/-- Source `_IncomingCandidate`. -/
structure IncomingCandidate where
  score : EvidenceFacts
  event : Option SignalEventFacts

/-- `incoming.event or candidate`: the fact the rules are matched against. -/
def IncomingCandidate.fact (candidate : IncomingCandidate) : Observation :=
  match candidate.event with
  | some facts => .event facts
  | none => .evidence candidate.score

/-- `str` of an optional value. -/
def optionStr {α : Type} (str : α → Text) : Option α → Text
  | some value => str value
  | none => "None".toList

/-- The identity `_event_source_id` falls back to. -/
def derivedIdentity (event : SignalEventFacts) : Text :=
  "derived:".toList ++ event.borrowerId.str ++ [':'] ++ optionStr Uuid.str event.facilityId ++
    [':'] ++ event.eventDate.isoformat ++ [':'] ++ event.family.text ++ [':'] ++
    event.eventType.text ++ [':'] ++ optionStr Decimal.str event.magnitude

/-- Source `_event_source_id` (`supersession.py:929-937`). -/
def eventSourceId (event : SignalEventFacts) : Text :=
  match event.eventId, event.contentHash with
  | some identifier, _ => identifier.str
  | none, some digest => digest
  | none, none => derivedIdentity event

/-- The item `_incoming_candidates` builds for an event. -/
def eventCandidate (id : Uuid) (event : SignalEventFacts) : Except PyError EvidenceFacts := do
  let evidenceType ← BoundedText.check "evidence_type" 50 event.evidenceType.text
  let sources ← sourceIds [eventSourceId event]
  EvidenceFacts.make {
    id := some id, borrowerId := event.borrowerId, facilityId := event.facilityId
    family := event.family, evidenceType, firstSeen := event.eventDate
    lastSeen := event.eventDate, persistenceDays := some 1, eventCountWindow := some 1
    materialityPct := none, decayFactor := none, state := .transient
    countsTowardPressure := false, supersededById := none, supersedesId := none
    sourceEventIds := sources }

/-- `as_of is not None and event.event_date > as_of`. -/
def isFuture (asOf : Option Date) (event : SignalEventFacts) : Bool :=
  asOf.any fun day => day < event.eventDate

/-- One turn of `_incoming_candidates`: the candidate, if the value is not skipped. -/
def incomingCandidate (mint : IdFactory) (drawn : Nat) (asOf : Option Date) :
    Observation → Except PyError (Option IncomingCandidate × Nat)
  | .evidence item =>
    if item.id.isSome then .ok (some ⟨item, none⟩, drawn)
    else do
      let identified ← EvidenceFacts.make { item.toEvidenceFields with id := some (mint drawn) }
      .ok (some ⟨identified, none⟩, drawn + 1)
  | .event event =>
    if isFuture asOf event then .ok (none, drawn)
    else do
      let candidate ← eventCandidate (mint drawn) event
      .ok (some ⟨candidate, some event⟩, drawn + 1)

/-- Source `_incoming_candidates`. -/
def incomingCandidates (mint : IdFactory) (asOf : Option Date) :
    List Observation → Nat → Except PyError (List IncomingCandidate × Nat)
  | [], drawn => .ok ([], drawn)
  | value :: incoming, drawn => do
    let (candidate, drawn) ← incomingCandidate mint drawn asOf value
    let (candidates, drawn) ← incomingCandidates mint asOf incoming drawn
    .ok (candidate.toList ++ candidates, drawn)

/-! ## The loop -/

/-- Source `_item_sort_key`. -/
def itemSortKey (item : EvidenceFacts) : Text ×ₗ Text ×ₗ Text ×ₗ Date ×ₗ Text ×ₗ Text :=
  toLex (item.borrowerId.str, toLex (item.facilityId.elim [] Uuid.str, toLex (item.family.text,
    toLex (item.firstSeen, toLex (item.evidenceType.text, item.id.elim [] Uuid.str)))))

/-- `sorted(items, key=_item_sort_key)`. -/
def sortItems (items : List EvidenceFacts) : List EvidenceFacts :=
  items.insertionSort fun a b => itemSortKey a ≤ itemSortKey b

/-- `candidates.sort(key=...)`. -/
def sortCandidates (candidates : List IncomingCandidate) : List IncomingCandidate :=
  candidates.insertionSort fun a b => itemSortKey a.score ≤ itemSortKey b.score

/-- Source `_validate_history_ids`. -/
def validateHistoryIds (items : List EvidenceFacts) : Except PyError Unit :=
  if (items.filterMap (·.id)).Nodup then
    if items.any (·.linksToItself) then
      .error (.valueError "An evidence item cannot link to itself.")
    else .ok ()
  else .error (.valueError "Evidence item ids must be unique within a supersession batch.")

/-- Source `_already_seen`. -/
def alreadySeen (candidate : EvidenceFacts) (current : List EvidenceFacts) : Bool :=
  current.any fun item => decide (candidate.sourceEventIds ∩ item.sourceEventIds).Nonempty

/-- An entry of `matches` in `_best_match`. -/
structure Match where
  index : Nat
  item : EvidenceFacts
  rule : ContradictionRule

/-- The tests `_best_match` makes on an item before it looks at the rules. -/
def competes (candidate item : EvidenceFacts) : Bool :=
  item.isActive && item.borrowerId == candidate.borrowerId &&
    item.facilityId == candidate.facilityId && !(item.id.isSome && item.id == candidate.id)

/-- The list `matches` of `_best_match`. -/
def matchList (incoming : IncomingCandidate) (current : List EvidenceFacts)
    (rules : List ContradictionRule) : List Match :=
  current.zipIdx.flatMap fun (item, index) =>
    if competes incoming.score item then
      (rules.filter fun rule => rule.matchesPair (.evidence item) incoming.fact).map
        fun rule => ⟨index, item, rule⟩
    else []

/-- The key of `max` in `_best_match`. -/
def matchKey (item : EvidenceFacts) : Date ×ₗ Text :=
  toLex (item.lastSeen, optionStr Uuid.str item.id)

/-- Source `_best_match` (`supersession.py:655-675`). -/
def bestMatch (incoming : IncomingCandidate) (current : List EvidenceFacts)
    (rules : List ContradictionRule) : Option Match :=
  maxBy (fun found => matchKey found.item) (matchList incoming current rules)

/-- The item a non-contradicting candidate is merged into. -/
def isSameIdentity (candidate item : EvidenceFacts) : Bool :=
  item.identity == candidate.identity && item.isActive

/-- The fields of `_merge_observation` (`supersession.py:767-789`). -/
def mergedFields (current observation : EvidenceFields) : EvidenceFields :=
  { current with
    firstSeen := min current.firstSeen observation.firstSeen
    lastSeen := max current.lastSeen observation.lastSeen
    sourceEventIds := current.sourceEventIds ∪ observation.sourceEventIds }

/-- Source `_merge_observation`. -/
def mergeObservation (current observation : EvidenceFacts) : Except PyError EvidenceFacts :=
  EvidenceFacts.make (mergedFields current.toEvidenceFields observation.toEvidenceFields)

/-- The branches of the loop body of `resolve_supersession`. -/
inductive Branch where
  | seen
  | append
  | merge (index : Nat) (item : EvidenceFacts)
  | onTime (found : Match)
  | late (found : Match)

/-- Which branch a candidate takes. -/
def branch (current : List EvidenceFacts) (rules : List ContradictionRule)
    (incoming : IncomingCandidate) : Branch :=
  if alreadySeen incoming.score current then .seen
  else match bestMatch incoming current rules with
    | none =>
      match current.zipIdx.find? fun entry => isSameIdentity incoming.score entry.1 with
      | none => .append
      | some (item, index) => .merge index item
    | some found =>
      if found.item.lastSeen ≤ incoming.score.firstSeen then .onTime found else .late found

/-- The loop variables of `resolve_supersession`. -/
structure LoopState where
  current : List EvidenceFacts
  revisions : List SupersessionResult
  drawn : Nat

/-- `current[index] = revision.successor`, `current.append(revision.superseded)` and
    `revisions.append(revision)`. -/
def LoopState.record (state : LoopState) (index : Nat) (revision : SupersessionResult)
    (drawn : Nat) : LoopState :=
  ⟨state.current.set index revision.successor ++ [revision.superseded],
    state.revisions ++ [revision], drawn⟩

/-- The loop body of `resolve_supersession` (`supersession.py:418-471`). -/
def resolveStep (mint : IdFactory) (rules : List ContradictionRule) (state : LoopState)
    (incoming : IncomingCandidate) : Except PyError LoopState :=
  let candidate := incoming.score
  match branch state.current rules incoming with
  | .seen => .ok state
  | .append => .ok { state with current := state.current ++ [candidate] }
  | .merge index item => do
    let merged ← mergeObservation item candidate
    .ok { state with current := state.current.set index merged }
  | .onTime found => do
    let (revision, drawn) ←
      supersede mint state.drawn found.item candidate (some candidate.firstSeen) found.rule
    .ok (state.record found.index revision drawn)
  | .late found => do
    let reverseRule ← found.rule.reverse
    let (revision, drawn) ←
      supersede mint state.drawn candidate found.item (some found.item.lastSeen) reverseRule
    .ok (state.record found.index revision drawn)

/-- Source `SupersessionBatch`. -/
structure SupersessionBatch where
  items : List EvidenceFacts
  revisions : List SupersessionResult

/-- Source `SupersessionBatch.transitions`. -/
def SupersessionBatch.transitions (batch : SupersessionBatch) : List EvidenceTransitionFacts :=
  batch.revisions.map (·.transition)

/-- Source `resolve_supersession` (`supersession.py:394-476`). -/
def resolveSupersession (mint : IdFactory) (existing : List EvidenceFacts)
    (incoming : List Observation) (asOf : Option Date) (rules : RulesArgument) :
    Except PyError SupersessionBatch := do
  validateHistoryIds existing
  let normalized ← normaliseRules rules
  let (candidates, drawn) ← incomingCandidates mint asOf incoming 0
  let final ← (sortCandidates candidates).foldlM (resolveStep mint normalized)
    ⟨existing, [], drawn⟩
  .ok ⟨sortItems final.current, final.revisions⟩

end Supersession

end CovenantRadar.Signals
