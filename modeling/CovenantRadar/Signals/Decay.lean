import CovenantRadar.Misc.Raises
import CovenantRadar.Misc.Select
import CovenantRadar.Python.Calendar
import CovenantRadar.Python.DecimalContext
import CovenantRadar.Signals.Evidence

/-!
# Decay

Source `domain/signals/decay.py`, in exact arithmetic: how an evidence item is weighted by its age.
The factor of a score is exact, so it stands beside the other fields of the item.
-/

namespace CovenantRadar.Signals.Decay

/-- `Decimal("0") <= value <= Decimal("1")`. -/
def InUnit (value : ℚ) : Prop := 0 ≤ value ∧ value ≤ 1

instance (value : ℚ) : Decidable (InUnit value) := inferInstanceAs (Decidable (_ ∧ _))

/-- Source `DecayThresholds`, with the checks of `__post_init__`. -/
structure DecayThresholds where
  decayRate : Decimal
  displayFloor : Option Decimal
  rateInUnit : InUnit decayRate.value
  floorInUnit : ∀ floor ∈ displayFloor, InUnit floor.value

/-- Source `_Observation`. -/
structure Observation where
  eventDate : Date
  identity : Option (Uuid × Option Uuid × Text × Text)
  sourceId : Option Text

/-- Source `decay_factor`. -/
def decayFactor (daysSinceLastSeen : Int) (rate : Decimal) : Except PyError ℚ :=
  if daysSinceLastSeen < 0 then
    .error (.valueError "days_since_last_seen must be a non-negative integer.")
  else if ¬ InUnit rate.value then
    .error (.valueError "rate must be between zero and one inclusive.")
  else if daysSinceLastSeen = 0 ∨ rate.value = 1 then .ok 1
  else if rate.value = 0 then .ok 0
  else .ok (min 1 (rate.value ^ daysSinceLastSeen.toNat))

/-- Source `pressure_contribution`. -/
def pressureContribution (materialityPct : Option Decimal) (countsTowardPressure : Bool)
    (factor : ℚ) : Except PyError ℚ :=
  if ¬ InUnit factor then
    .error (.valueError "factor must be between zero and one inclusive.")
  else if countsTowardPressure = false then .ok 0
  else
    match materialityPct with
    | none => .ok 0
    | some materiality =>
      if materiality.value < 0 then
        .error (.valueError "materiality_pct must not be negative.")
      else .ok (materiality.value / 100 * factor)

/-- Source `DecayScore`, with the checks of `__post_init__`. -/
structure DecayScore where
  item : EvidenceFacts
  decayFactor : ℚ
  transition : Option EvidenceTransitionFacts
  pressure : ℚ
  visible : Bool
  daysSinceLastSeen : Int
  reset : Bool
  thresholds : DecayThresholds
  remains : visible = true
  factorInUnit : InUnit decayFactor
  weighted : pressureContribution item.materialityPct item.countsTowardPressure decayFactor =
    .ok pressure

/-- Source `DecayScore.__post_init__`, from the checks of its own fields on. -/
def DecayScore.make (item : EvidenceFacts) (factor : ℚ)
    (transition : Option EvidenceTransitionFacts) (pressure : ℚ) (daysSinceLastSeen : Int)
    (reset : Bool) (thresholds : DecayThresholds) : Except PyError DecayScore :=
  if pressure < 0 then .error (.valueError "pressure_contribution must not be negative.")
  else if factorInUnit : InUnit factor then
    if daysSinceLastSeen < 0 then
      .error (.valueError "days_since_last_seen must be a non-negative integer.")
    else if weighted : pressureContribution item.materialityPct item.countsTowardPressure factor =
        .ok pressure then
      .ok ⟨item, factor, transition, pressure, true, daysSinceLastSeen, reset, thresholds, rfl,
        factorInUnit, weighted⟩
    else
      .error (.valueError "pressure_contribution does not match the evidence and decay facts.")
  else .error (.valueError "decay_factor must be between zero and one.")

/-- Source `_bounded_source_id`. -/
def boundedSourceId (value : Text) : Except PyError Text :=
  if value = [] ∨ 128 < value.length then
    .error (.valueError "source_event_id must be non-blank text of at most 128 characters.")
  else if value.any Text.isControl then
    .error (.valueError "source_event_id contains a control character.")
  else .ok value

/-- Source `_merged_source_ids`. -/
def mergedIds (own observed : List Text) : Except PyError (List Text) := do
  let values ← (own ++ observed).mapM boundedSourceId
  .ok (sortedSet values)

/-- `item.state in {"superseded", "disputed"}`. -/
def isTerminal (item : EvidenceFacts) : Bool :=
  item.state == .superseded || item.state == .disputed

theorem bounded_decayResetRule :
    Text.IsBounded 100 "decay.reset.new_observation.v1".toList := by decide

/-- Source `_DECAY_RESET_RULE`. -/
def decayResetRule : BoundedText 100 :=
  ⟨"decay.reset.new_observation.v1".toList, bounded_decayResetRule⟩

/-- An observation the item has not counted yet. -/
def isNewObservation (item : EvidenceFacts) (own : List Text) (observation : Observation) : Bool :=
  decide (item.lastSeen < observation.eventDate) ||
    observation.eventDate == item.lastSeen &&
      observation.sourceId.any fun id => !own.contains id

/-- Source `_score_item`. -/
def scoreItem (item : EvidenceFacts) (asOf : Date) (thresholds : DecayThresholds)
    (observations : List Observation) : Except PyError DecayScore :=
  if asOf < item.lastSeen then .error (.valueError "last_seen must not be after as_of.")
  else do
    let usable := if isTerminal item then [] else observations
    let latest := (usable.map Observation.eventDate).max?.getD item.lastSeen
    let observationDate := if latest < item.lastSeen then item.lastSeen else latest
    let own := (item.sourceEventIds.sort (· ≤ ·)).map BoundedText.text
    let newObservation := usable.any (isNewObservation item own)
    let days := (asOf.toOrdinal : Int) - observationDate.toOrdinal
    let factor ← decayFactor days thresholds.decayRate
    let transition := if newObservation then
      some ⟨some item.state, item.state, observationDate, decayResetRule, item.id⟩ else none
    let merged ← mergedIds own (usable.filterMap Observation.sourceId)
    let contribution ← pressureContribution item.materialityPct item.countsTowardPressure factor
    let sourceEventIds ← sourceIds merged
    let scored ← EvidenceFacts.make { item.toEvidenceFields with
      firstSeen := min item.firstSeen observationDate
      lastSeen := max item.lastSeen observationDate
      decayFactor := none
      sourceEventIds }
    DecayScore.make scored factor transition contribution days
      (newObservation && !isTerminal item) thresholds

/-- Source `_matching_observations`. -/
def matchingObservations (observations : List Observation) (item : EvidenceFacts) (asOf : Date) :
    List Observation :=
  let known := observations.filter fun value => value.eventDate ≤ asOf
  known.filter fun value => value.identity.all (· == item.identity)

/-- Source `apply_decay`. -/
def applyDecay (items : List EvidenceFacts) (asOf : Date) (thresholds : DecayThresholds)
    (observations : List Observation) : Except PyError (List DecayScore) :=
  if items = [] then .ok []
  else if 1 < items.length ∧ observations.any (fun value => value.identity.isNone) then
    .error (.valueError "Identity is required when applying observations to multiple items.")
  else items.mapM fun item =>
    scoreItem item asOf thresholds (matchingObservations observations item asOf)

/-! ## The factor -/

theorem decayFactor_eq {rate : Decimal} (accepted : InUnit rate.value) (days : Nat) :
    decayFactor days rate = .ok (rate.value ^ days) := by
  unfold decayFactor
  rw [if_neg (by omega), if_neg (not_not.mpr accepted)]
  have atMost : rate.value ^ days ≤ 1 := pow_le_one₀ accepted.1 accepted.2
  split_ifs with still none
  · rcases still with zero | full
    · rw [Nat.cast_eq_zero.mp zero, pow_zero]
    · rw [full, one_pow]
  · have positive : days ≠ 0 := fun zero => still (.inl (Nat.cast_eq_zero.mpr zero))
    rw [none, zero_pow positive]
  · rw [Int.toNat_natCast, min_eq_right atMost]

theorem decayFactor_antitone {rate : Decimal} (accepted : InUnit rate.value) {young old : Nat}
    (older : young ≤ old) : rate.value ^ old ≤ rate.value ^ young :=
  pow_le_pow_of_le_one accepted.1 accepted.2 older

/-! ## One item -/

/-- A score that is made has the fields it is made of. -/
theorem DecayScore.make_eq_ok {item : EvidenceFacts} {factor pressure : ℚ}
    {transition : Option EvidenceTransitionFacts} {days : Int} {reset : Bool}
    {thresholds : DecayThresholds} {score : DecayScore}
    (made : DecayScore.make item factor transition pressure days reset thresholds = .ok score) :
    score.item = item ∧ score.decayFactor = factor ∧ score.daysSinceLastSeen = days := by
  unfold DecayScore.make at made
  split_ifs at made
  cases made
  exact ⟨rfl, rfl, rfl⟩

theorem scoreItem_eq_ok {item : EvidenceFacts} {asOf : Date} {thresholds : DecayThresholds}
    {observations : List Observation} {score : DecayScore}
    (scored : scoreItem item asOf thresholds observations = .ok score) :
    item.lastSeen ≤ asOf ∧ score.item.identity = item.identity ∧ score.item.id = item.id ∧
      decayFactor score.daysSinceLastSeen thresholds.decayRate = .ok score.decayFactor := by
  unfold scoreItem at scored
  by_cases late : asOf < item.lastSeen
  · rw [if_pos late] at scored
    cases scored
  rw [if_neg late] at scored
  obtain ⟨factor, factored, scored⟩ := Except.bind_eq_ok_iff.mp scored
  obtain ⟨merged, -, scored⟩ := Except.bind_eq_ok_iff.mp scored
  obtain ⟨contribution, -, scored⟩ := Except.bind_eq_ok_iff.mp scored
  obtain ⟨ids, -, scored⟩ := Except.bind_eq_ok_iff.mp scored
  obtain ⟨kept, made, scored⟩ := Except.bind_eq_ok_iff.mp scored
  have fields := EvidenceFacts.make_eq_ok_iff.mp made
  obtain ⟨sameItem, sameFactor, sameDays⟩ := DecayScore.make_eq_ok scored
  refine ⟨not_lt.mp late, ?_, ?_, ?_⟩
  · rw [sameItem]
    unfold EvidenceFacts.identity
    rw [fields]
  · rw [sameItem, fields]
  · rw [sameDays, sameFactor]
    exact factored

/-- A superseded item is scored on its own dates. -/
theorem scoreItem_terminal {item : EvidenceFacts} (terminal : isTerminal item = true) (asOf : Date)
    (thresholds : DecayThresholds) (observations : List Observation) :
    scoreItem item asOf thresholds observations = scoreItem item asOf thresholds [] := by
  unfold scoreItem
  simp only [terminal, if_true]

/-! ## What is refused -/

/-- The exception is a `ValueError`. -/
def IsValueError : PyError → Prop
  | .valueError _ => True
  | _ => False

abbrev NotValueError (error : PyError) : Prop := ¬ IsValueError error

theorem decayFactor_refuses (days : Int) (rate : Decimal) :
    ¬ Raises NotValueError (decayFactor days rate) := by
  rintro ⟨error, raised, other⟩
  unfold decayFactor at raised
  split_ifs at raised <;> exact other (Except.error.inj raised ▸ trivial)

theorem pressureContribution_refuses (materialityPct : Option Decimal) (counts : Bool) (factor : ℚ) :
    ¬ Raises NotValueError (pressureContribution materialityPct counts factor) := by
  rintro ⟨error, raised, other⟩
  unfold pressureContribution at raised
  cases materialityPct with
  | none =>
    split_ifs at raised
    exact other (Except.error.inj raised ▸ trivial)
  | some materiality =>
    simp only at raised
    split_ifs at raised <;> exact other (Except.error.inj raised ▸ trivial)

theorem mergedIds_refuses (own observed : List Text) :
    ¬ Raises NotValueError (mergedIds own observed) := by
  unfold mergedIds
  rw [raises_bind_iff]
  rintro (raised | ⟨_, -, raised⟩)
  · obtain ⟨_, value, _, -, -, error, raised, other⟩ := raises_mapM_iff.mp raised
    unfold boundedSourceId at raised
    split_ifs at raised <;> exact other (Except.error.inj raised ▸ trivial)
  · exact not_raises_ok _ raised

theorem sourceIds_refuses (values : List Text) : ¬ Raises NotValueError (sourceIds values) := by
  unfold sourceIds
  rw [raises_bind_iff]
  rintro (raised | ⟨normalized, -, error, raised, other⟩)
  · obtain ⟨_, value, _, -, -, error, raised, other⟩ := raises_mapM_iff.mp raised
    unfold BoundedText.check at raised
    split at raised
    · cases raised
    · next refused bounded =>
      cases raised
      unfold Text.bounded at bounded
      simp only at bounded
      split_ifs at bounded <;> exact other (Except.error.inj bounded ▸ trivial)
  · unfold mergedSourceIds at raised
    split_ifs at raised
    exact other (Except.error.inj raised ▸ trivial)

theorem make_refuses (fields : EvidenceFields) :
    ¬ Raises NotValueError (EvidenceFacts.make fields) := by
  rintro ⟨error, raised, other⟩
  unfold EvidenceFacts.make at raised
  split_ifs at raised <;> exact other (Except.error.inj raised ▸ trivial)

theorem scoreItem_refuses (item : EvidenceFacts) (asOf : Date) (thresholds : DecayThresholds)
    (observations : List Observation) :
    ¬ Raises NotValueError (scoreItem item asOf thresholds observations) := by
  unfold scoreItem
  by_cases late : asOf < item.lastSeen
  · rw [if_pos late, raises_error_iff]
    exact not_not.mpr trivial
  rw [if_neg late]
  simp only
  rw [raises_bind_iff_of_not (decayFactor_refuses _ _)]
  rintro ⟨factor, -, raised⟩
  rw [raises_bind_iff_of_not (mergedIds_refuses _ _)] at raised
  obtain ⟨merged, -, raised⟩ := raised
  rw [raises_bind_iff_of_not (pressureContribution_refuses _ _ _)] at raised
  obtain ⟨contribution, -, raised⟩ := raised
  rw [raises_bind_iff_of_not (sourceIds_refuses _)] at raised
  obtain ⟨ids, -, raised⟩ := raised
  rw [raises_bind_iff_of_not (make_refuses _)] at raised
  obtain ⟨scored, -, error, raised, other⟩ := raised
  unfold DecayScore.make at raised
  split_ifs at raised <;> exact other (Except.error.inj raised ▸ trivial)

/-! ## Many items -/

section

variable (asOf : Date) (thresholds : DecayThresholds) (observations : List Observation)

/-- Every observation names its evidence, or there is only one item it can be about. -/
def Identified (items : List EvidenceFacts) (observations : List Observation) : Prop :=
  items.length ≤ 1 ∨ ∀ observation ∈ observations, observation.identity.isSome

/-- The score of an item does not depend on the others. -/
theorem applyDecay_eq_ok_iff {items : List EvidenceFacts} {scores : List DecayScore} :
    applyDecay items asOf thresholds observations = .ok scores ↔
      Identified items observations ∧ List.Forall₂ (fun item score => scoreItem item asOf thresholds
        (matchingObservations observations item asOf) = .ok score) items scores := by
  unfold applyDecay
  by_cases empty : items = []
  · rw [if_pos empty, empty]
    constructor
    · intro returned
      cases returned
      exact ⟨.inl (Nat.zero_le 1), .nil⟩
    · rintro ⟨-, scored⟩
      cases scored
      rfl
  rw [if_neg empty]
  by_cases ambiguous : 1 < items.length ∧
      observations.any (fun value => value.identity.isNone) = true
  · rw [if_pos ambiguous]
    refine iff_of_false nofun ?_
    rintro ⟨single | named, -⟩
    · exact absurd ambiguous.1 (Nat.not_lt.mpr single)
    · obtain ⟨observation, listed, unnamed⟩ := List.any_eq_true.mp ambiguous.2
      have name := named observation listed
      rw [Option.isNone_iff_eq_none.mp unnamed] at name
      cases name
  · rw [if_neg ambiguous, mapM_eq_ok_iff]
    refine (and_iff_right ?_).symm
    by_cases single : items.length ≤ 1
    · exact .inl single
    · refine .inr fun observation listed => ?_
      by_contra unnamed
      refine ambiguous ⟨Nat.not_le.mp single, List.any_eq_true.mpr ⟨observation, listed, ?_⟩⟩
      simpa using unnamed

theorem applyDecay_refuses (items : List EvidenceFacts) :
    ¬ Raises NotValueError (applyDecay items asOf thresholds observations) := by
  unfold applyDecay
  split_ifs
  · exact not_raises_ok _
  · rw [raises_error_iff]
    exact not_not.mpr trivial
  · intro raised
    obtain ⟨_, item, _, -, -, raised⟩ := raises_mapM_iff.mp raised
    exact scoreItem_refuses _ _ _ _ raised

/-- A list with an item that was seen after the scoring date is refused. -/
theorem applyDecay_future {items : List EvidenceFacts} {item : EvidenceFacts} (listed : item ∈ items)
    (future : asOf < item.lastSeen) :
    Raises IsValueError (applyDecay items asOf thresholds observations) := by
  cases outcome : applyDecay items asOf thresholds observations with
  | ok scores =>
    obtain ⟨-, scored⟩ := (applyDecay_eq_ok_iff asOf thresholds observations).mp outcome
    obtain ⟨score, -, returned⟩ := (forall₂_exists scored).1 item listed
    exact absurd future (not_lt.mpr (scoreItem_eq_ok returned).1)
  | error error =>
    refine ⟨error, rfl, ?_⟩
    by_contra other
    exact applyDecay_refuses asOf thresholds observations items ⟨error, outcome, other⟩

theorem forall₂_append_iff {α β : Type} {R : α → β → Prop} {xs ys : List α} {zs : List β} :
    List.Forall₂ R (xs ++ ys) zs ↔
      ∃ us vs, zs = us ++ vs ∧ List.Forall₂ R xs us ∧ List.Forall₂ R ys vs := by
  constructor
  · intro pairs
    refine ⟨zs.take xs.length, zs.drop xs.length, (List.take_append_drop _ _).symm, ?_, ?_⟩
    · have front := List.forall₂_take xs.length pairs
      rwa [List.take_left] at front
    · have back := List.forall₂_drop xs.length pairs
      rwa [List.drop_left] at back
  · rintro ⟨us, vs, rfl, first, second⟩
    exact List.rel_append first second

/-- With items added to a list, it is scored exactly where it is without them, they are on their own,
    and the observations are identified; the scores of the others are what they were. -/
theorem applyDecay_add {before added after : List EvidenceFacts} {scores : List DecayScore} :
    applyDecay (before ++ added ++ after) asOf thresholds observations = .ok scores ↔
      Identified (before ++ added ++ after) observations ∧ ∃ first own last,
        scores = first ++ own ++ last ∧ first.length = before.length ∧ own.length = added.length ∧
          applyDecay (before ++ after) asOf thresholds observations = .ok (first ++ last) ∧
          applyDecay added asOf thresholds observations = .ok own := by
  have fewer {items items' : List EvidenceFacts} (identified : Identified items observations)
      (less : items'.length ≤ items.length) : Identified items' observations :=
    identified.imp_left less.trans
  simp only [applyDecay_eq_ok_iff]
  constructor
  · rintro ⟨identified, scored⟩
    obtain ⟨front, last, rfl, scored, scoredLast⟩ := forall₂_append_iff.mp scored
    obtain ⟨first, own, rfl, scoredFirst, scoredOwn⟩ := forall₂_append_iff.mp scored
    refine ⟨identified, first, own, last, rfl, scoredFirst.length_eq.symm, scoredOwn.length_eq.symm,
      ⟨fewer identified ?_, forall₂_append_iff.mpr ⟨first, last, rfl, scoredFirst, scoredLast⟩⟩,
      fewer identified ?_, scoredOwn⟩
    · simp only [List.length_append]
      omega
    · simp only [List.length_append]
      omega
  · rintro ⟨identified, first, own, last, rfl, length, -, ⟨-, scored⟩, -, scoredOwn⟩
    refine ⟨identified, forall₂_append_iff.mpr ⟨first ++ own, last, rfl, ?_, ?_⟩⟩
    · refine forall₂_append_iff.mpr ⟨first, own, rfl, ?_, scoredOwn⟩
      have front := List.forall₂_take before.length scored
      rwa [List.take_left, ← length, List.take_left] at front
    · have back := List.forall₂_drop before.length scored
      rwa [List.drop_left, ← length, List.drop_left] at back

end

/-- What decay does, for any accepted configuration: the factor is a power of the daily rate; a list
    is scored item by item, in order, each score its item's; an item that is added, superseded ones
    among them, has a score of its own and leaves the others as they were; and an item from the future
    is refused. -/
theorem decay_laws (thresholds : DecayThresholds) :
    decayFactor 0 thresholds.decayRate = .ok 1 ∧
      (∀ days : Nat, ∃ factor, decayFactor days thresholds.decayRate = .ok factor ∧
        InUnit factor) ∧
      (∀ (young old : Nat) (factor factor' : ℚ), young ≤ old →
        decayFactor young thresholds.decayRate = .ok factor →
        decayFactor old thresholds.decayRate = .ok factor' → factor' ≤ factor) ∧
      ∀ (asOf : Date) (observations : List Observation),
        (∀ items scores, applyDecay items asOf thresholds observations = .ok scores →
          List.Forall₂ (fun item score => score.item.identity = item.identity ∧
            score.item.id = item.id ∧
            decayFactor score.daysSinceLastSeen thresholds.decayRate = .ok score.decayFactor)
              items scores) ∧
        (∀ before added after scores,
          applyDecay (before ++ added ++ after) asOf thresholds observations = .ok scores ↔
            Identified (before ++ added ++ after) observations ∧ ∃ first own last,
              scores = first ++ own ++ last ∧ first.length = before.length ∧
                own.length = added.length ∧
                applyDecay (before ++ after) asOf thresholds observations = .ok (first ++ last) ∧
                applyDecay added asOf thresholds observations = .ok own) ∧
        (∀ item, item.state = .superseded →
          applyDecay [item] asOf thresholds observations =
            applyDecay [item] asOf thresholds []) ∧
        ∀ items, (∃ item ∈ items, asOf < item.lastSeen) →
          Raises IsValueError (applyDecay items asOf thresholds observations) := by
  have accepted := thresholds.rateInUnit
  refine ⟨by simpa using decayFactor_eq accepted 0, fun days => ?_, fun young old factor factor' older now then' => ?_,
    fun asOf observations => ⟨fun items scores returned => ?_, fun before added after scores =>
      applyDecay_add asOf thresholds observations, fun item superseded => ?_, ?_⟩⟩
  · exact ⟨_, decayFactor_eq accepted days, pow_nonneg accepted.1 days,
      pow_le_one₀ accepted.1 accepted.2⟩
  · rw [decayFactor_eq accepted] at now then'
    rw [← Except.ok.inj now, ← Except.ok.inj then']
    exact decayFactor_antitone accepted older
  · obtain ⟨-, scored⟩ := (applyDecay_eq_ok_iff asOf thresholds observations).mp returned
    exact scored.imp fun item score own => (scoreItem_eq_ok own).2
  · have terminal : isTerminal item = true := by
      unfold isTerminal
      rw [superseded]
      rfl
    have same : ∀ observations, applyDecay [item] asOf thresholds observations =
        [item].mapM fun item => scoreItem item asOf thresholds [] := by
      intro observations
      unfold applyDecay
      rw [if_neg (List.cons_ne_nil _ _), if_neg (fun several => absurd several.1 (by simp))]
      simp only [List.mapM_cons, List.mapM_nil,
        scoreItem_terminal terminal asOf thresholds (matchingObservations _ _ _)]
    rw [same, same]
  · rintro items ⟨item, listed, future⟩
    exact applyDecay_future asOf thresholds observations listed future

/-! ## One item more -/

theorem bounded_names : Text.IsBounded 20 "payment".toList ∧ Text.IsBounded 50 "delay".toList := by
  decide

/-- Evidence of a late payment, seen on one day. -/
def latePayment (state : EvidenceState) (day : Date) : EvidenceFields where
  id := none
  borrowerId := Uuid.ofInt 1
  facilityId := none
  family := ⟨"payment".toList, bounded_names.1⟩
  evidenceType := ⟨"delay".toList, bounded_names.2⟩
  firstSeen := day
  lastSeen := day
  persistenceDays := none
  eventCountWindow := none
  materialityPct := none
  decayFactor := none
  state := state
  countsTowardPressure := false
  supersededById := none
  supersedesId := none
  sourceEventIds := ∅

theorem latePayment_valid (state : EvidenceState) (day : Date) : (latePayment state day).Valid :=
  ⟨le_refl _, rfl, rfl, Nat.zero_le _⟩

def latePaymentFacts (state : EvidenceState) (day : Date) : EvidenceFacts :=
  ⟨latePayment state day, latePayment_valid state day⟩

theorem june_valid : (1 ≤ 2026 ∧ 2026 ≤ 9999 ∧ 1 ≤ 6 ∧ 6 ≤ 12 ∧ 1 ≤ 1 ∧
    1 ≤ daysInMonth 2026 6) ∧ 1 ≤ 2026 ∧ 2026 ≤ 9999 ∧ 1 ≤ 6 ∧ 6 ≤ 12 ∧ 1 ≤ 2 ∧
      2 ≤ daysInMonth 2026 6 := by decide

theorem rates_valid : InUnit (Decimal.value ⟨false, 9, -1⟩) := by
  constructor <;> norm_num [Decimal.value, Decimal.magnitude]

/-- Nine tenths are kept a day. -/
def nineTenthsADay : DecayThresholds :=
  ⟨⟨false, 9, -1⟩, none, rates_valid, fun _ absent => nomatch absent⟩

/-- A superseded item has a score of its own, and an item of tomorrow is refused: neither is passed
    over. -/
theorem added_items_count :
    (¬ ∀ (thresholds : DecayThresholds) (asOf : Date) (observations : List Observation)
        (items : List EvidenceFacts) (added : EvidenceFacts), added.state = .superseded →
      applyDecay (items ++ [added]) asOf thresholds observations =
        applyDecay items asOf thresholds observations) ∧
      ¬ ∀ (thresholds : DecayThresholds) (asOf : Date) (observations : List Observation)
        (items : List EvidenceFacts) (added : EvidenceFacts), asOf < added.lastSeen →
      applyDecay (items ++ [added]) asOf thresholds observations =
        applyDecay items asOf thresholds observations := by
  have grows : ∀ (asOf : Date) (added : EvidenceFacts),
      applyDecay ([] ++ [added]) asOf nineTenthsADay [] ≠ applyDecay [] asOf nineTenthsADay [] := by
    intro asOf added same
    obtain ⟨-, scored⟩ := (applyDecay_eq_ok_iff asOf nineTenthsADay []).mp
      (same.trans (if_pos rfl))
    cases scored
  constructor
  · intro claimed
    exact grows _ _ (claimed nineTenthsADay ⟨2026, 6, 1, june_valid.1⟩ [] []
      (latePaymentFacts .superseded ⟨2026, 6, 1, june_valid.1⟩) rfl)
  · intro claimed
    refine grows _ _ (claimed nineTenthsADay ⟨2026, 6, 1, june_valid.1⟩ [] []
      (latePaymentFacts .sustained ⟨2026, 6, 2, june_valid.2⟩) ?_)
    show (⟨2026, 6, 1, june_valid.1⟩ : Date) < ⟨2026, 6, 2, june_valid.2⟩
    decide

end CovenantRadar.Signals.Decay
