import CovenantRadar.Forecast.Crossing

/-!
# Breach probability

Source `domain/forecast/probability.py`, on exact rationals: three saturated signals are
weighted and added up, and the sum is cut at the configured maximum. The mapping shape of
the configuration and the copies in `formula_inputs` are left out. Under fixed weights, velocity
and horizon the probability follows the pressure up and the distance down; the zero-signal sentinel
is the one place where a shorter distance lowers it.
-/

namespace CovenantRadar

namespace Forecast

/-- Source `Weights`, as its `__post_init__` leaves them. -/
structure Weights where
  distance : ℚ
  velocity : ℚ
  pressure : ℚ
  maxProbability : ℚ
  nonneg : 0 ≤ distance ∧ 0 ≤ velocity ∧ 0 ≤ pressure
  total : distance + velocity + pressure = 1
  maximum : 0 < maxProbability ∧ maxProbability < 1

/-- Source `_DEFAULT_MAX_PROBABILITY`. -/
def defaultMaxProbability : ℚ := 99 / 100

/-- Source `Weights.__post_init__`. -/
def Weights.make (distance velocity pressure maxProbability : ℚ) : Except PyError Weights :=
  if negative : distance < 0 ∨ velocity < 0 ∨ pressure < 0 then
    .error (.valueError "Probability weights must be non-negative.")
  else if nothing : distance + velocity + pressure ≤ 0 then
    .error (.valueError "At least one probability weight must be positive.")
  else if range : 0 < maxProbability ∧ maxProbability < 1 then
    let total := distance + velocity + pressure
    have positive : 0 < distance + velocity + pressure := not_le.mp nothing
    .ok
      { distance := distance / total
        velocity := velocity / total
        pressure := pressure / total
        maxProbability := maxProbability
        nonneg := by
          simp only [not_or, not_lt] at negative
          exact ⟨div_nonneg negative.1 (le_of_lt positive),
            div_nonneg negative.2.1 (le_of_lt positive), div_nonneg negative.2.2 (le_of_lt positive)⟩
        total := by
          rw [← add_div, ← add_div]
          exact div_self (ne_of_gt positive)
        maximum := range }
  else
    .error (.valueError "max_probability must be greater than zero and less than one.")

/-- The names of the three terms. -/
inductive TermName where
  | distance
  | velocity
  | pressure
  deriving DecidableEq, Repr

/-- Source `ProbabilityTerm`, with the checks of its `__post_init__`. -/
structure ProbabilityTerm where
  name : TermName
  inputValue : ℚ
  normalizedValue : ℚ
  weight : ℚ
  horizonFactor : ℚ
  contribution : ℚ
  normalized_range : 0 ≤ normalizedValue ∧ normalizedValue ≤ 1
  weight_range : 0 ≤ weight ∧ weight ≤ 1
  factor_range : 0 ≤ horizonFactor ∧ horizonFactor ≤ 1
  contribution_nonneg : 0 ≤ contribution

/-- Why a probability is what it is, when it is not the raw score. -/
inductive ProbabilityReason where
  | neutral
  | clamp
  | breach
  | boundary
  deriving DecidableEq, Repr

/-- Source `ProbabilityResult`, with the checks of its `__post_init__`. -/
structure ProbabilityResult where
  probability : ℚ
  rawScore : ℚ
  clampReason : Option ProbabilityReason
  reason : Option ProbabilityReason
  alreadyBreached : Bool
  distance : ℚ
  velocity : ℚ
  pressure : ℚ
  horizonDays : Nat
  weights : Weights
  terms : List ProbabilityTerm
  probability_range : 0 ≤ probability ∧ probability ≤ weights.maxProbability
  rawScore_nonneg : 0 ≤ rawScore
  breached_maximum : alreadyBreached = true → probability = weights.maxProbability

/-- The zero-signal sentinel. -/
def IsNeutral (distance velocity pressure : ℚ) (alreadyBreached : Bool) : Prop :=
  distance = 0 ∧ velocity = 0 ∧ pressure = 0 ∧ alreadyBreached = false

instance (distance velocity pressure : ℚ) (alreadyBreached : Bool) :
    Decidable (IsNeutral distance velocity pressure alreadyBreached) := by
  unfold IsNeutral
  infer_instance

/-- The `breached` flag: told so, past the boundary, or at it with a signal. -/
def IsBreached (distance velocity pressure : ℚ) (alreadyBreached : Bool) : Prop :=
  alreadyBreached = true ∨ distance < 0 ∨
    distance ≤ 0 ∧ ¬ IsNeutral distance velocity pressure alreadyBreached

instance (distance velocity pressure : ℚ) (alreadyBreached : Bool) :
    Decidable (IsBreached distance velocity pressure alreadyBreached) := by
  unfold IsBreached
  infer_instance

/-- Source `_normalise_distance`. -/
def normaliseDistance (value : ℚ) (neutral : Prop) [Decidable neutral] : ℚ :=
  if neutral then 0 else if value ≤ 0 then 1 else 1 / (1 + value)

/-- Source `_saturate`. -/
def saturate (value : ℚ) : ℚ := value / (1 + value)

/-- Source `_horizon_factor`. -/
def horizonFactor (horizonDays : Nat) : ℚ := horizonDays / (horizonDays + 1)

theorem normaliseDistance_range (value : ℚ) (neutral : Prop) [Decidable neutral] :
    0 ≤ normaliseDistance value neutral ∧ normaliseDistance value neutral ≤ 1 := by
  unfold normaliseDistance
  split_ifs with sentinel near
  · exact ⟨le_refl _, zero_le_one⟩
  · exact ⟨zero_le_one, le_refl _⟩
  · have positive : 0 < value := not_le.mp near
    exact ⟨by positivity, (div_le_one (by positivity)).mpr (by linarith)⟩

theorem saturate_range {value : ℚ} (nonneg : 0 ≤ value) :
    0 ≤ saturate value ∧ saturate value ≤ 1 := by
  unfold saturate
  exact ⟨by positivity, (div_le_one (by positivity)).mpr (by linarith)⟩

theorem saturate_mono {small large : ℚ} (nonneg : 0 ≤ small) (ordered : small ≤ large) :
    saturate small ≤ saturate large := by
  unfold saturate
  rw [div_le_div_iff₀ (by linarith) (by linarith)]
  nlinarith

theorem horizonFactor_range (horizonDays : Nat) :
    0 ≤ horizonFactor horizonDays ∧ horizonFactor horizonDays ≤ 1 := by
  unfold horizonFactor
  exact ⟨by positivity, (div_le_one (by positivity)).mpr (by linarith)⟩

/-- A normalised weight is at most one. -/
theorem Weights.range (weights : Weights) :
    (0 ≤ weights.distance ∧ weights.distance ≤ 1) ∧ (0 ≤ weights.velocity ∧ weights.velocity ≤ 1) ∧
      (0 ≤ weights.pressure ∧ weights.pressure ≤ 1) := by
  obtain ⟨distance, velocity, pressure⟩ := weights.nonneg
  have total := weights.total
  exact ⟨⟨distance, by linarith⟩, ⟨velocity, by linarith⟩, ⟨pressure, by linarith⟩⟩

/-- Source `_term`. -/
def term (name : TermName) (inputValue normalizedValue weight horizonFactor : ℚ)
    (normalized : 0 ≤ normalizedValue ∧ normalizedValue ≤ 1) (weighted : 0 ≤ weight ∧ weight ≤ 1)
    (factored : 0 ≤ horizonFactor ∧ horizonFactor ≤ 1) : ProbabilityTerm :=
  ⟨name, inputValue, normalizedValue, weight, horizonFactor,
    normalizedValue * weight * horizonFactor, normalized, weighted, factored,
    mul_nonneg (mul_nonneg normalized.1 weighted.1) factored.1⟩

section Score

variable (distance velocity pressure : ℚ) (horizonDays : Nat) (weights : Weights)
variable (alreadyBreached : Bool)

/-- The three terms of the score. -/
def scoreTerms (nonneg : 0 ≤ pressure) : List ProbabilityTerm :=
  [term .distance distance
      (normaliseDistance distance (IsNeutral distance velocity pressure alreadyBreached))
      weights.distance 1 (normaliseDistance_range _ _) weights.range.1 ⟨zero_le_one, le_refl _⟩,
    term .velocity velocity (saturate (max velocity 0)) weights.velocity (horizonFactor horizonDays)
      (saturate_range (le_max_right _ _)) weights.range.2.1 (horizonFactor_range _),
    term .pressure pressure (saturate pressure) weights.pressure (horizonFactor horizonDays)
      (saturate_range nonneg) weights.range.2.2 (horizonFactor_range _)]

/-- The sum of the contributions. -/
def rawScore (nonneg : 0 ≤ pressure) : ℚ :=
  ((scoreTerms distance velocity pressure horizonDays weights alreadyBreached nonneg).map
    (·.contribution)).sum

theorem rawScore_nonneg (nonneg : 0 ≤ pressure) :
    0 ≤ rawScore distance velocity pressure horizonDays weights alreadyBreached nonneg := by
  apply List.sum_nonneg
  intro contribution member
  obtain ⟨term, _, rfl⟩ := List.mem_map.mp member
  exact term.contribution_nonneg

/-- Source `probability`, once its arguments are read. -/
def score (nonneg : 0 ≤ pressure) : ProbabilityResult :=
  let terms := scoreTerms distance velocity pressure horizonDays weights alreadyBreached nonneg
  let raw := rawScore distance velocity pressure horizonDays weights alreadyBreached nonneg
  have rawSign := rawScore_nonneg distance velocity pressure horizonDays weights alreadyBreached nonneg
  if neutral : IsNeutral distance velocity pressure alreadyBreached then
    { probability := 0
      rawScore := raw
      clampReason := none
      reason := some .neutral
      alreadyBreached := decide (IsBreached distance velocity pressure alreadyBreached)
      distance := distance
      velocity := velocity
      pressure := pressure
      horizonDays := horizonDays
      weights := weights
      terms := terms
      probability_range := ⟨le_refl _, le_of_lt weights.maximum.1⟩
      rawScore_nonneg := rawSign
      breached_maximum := by
        obtain ⟨boundary, _, _, told⟩ := neutral
        simp_all [IsBreached, IsNeutral] }
  else if breached : IsBreached distance velocity pressure alreadyBreached then
    { probability := weights.maxProbability
      rawScore := raw
      clampReason := some .breach
      reason := if distance < 0 ∨ alreadyBreached = true then some .breach else some .boundary
      alreadyBreached := true
      distance := distance
      velocity := velocity
      pressure := pressure
      horizonDays := horizonDays
      weights := weights
      terms := terms
      probability_range := ⟨le_of_lt weights.maximum.1, le_refl _⟩
      rawScore_nonneg := rawSign
      breached_maximum := fun _ => rfl }
  else
    { probability := if weights.maxProbability < raw then weights.maxProbability else raw
      rawScore := raw
      clampReason := if weights.maxProbability < raw then some .clamp else none
      reason := if weights.maxProbability < raw then some .clamp else none
      alreadyBreached := false
      distance := distance
      velocity := velocity
      pressure := pressure
      horizonDays := horizonDays
      weights := weights
      terms := terms
      probability_range := by
        split_ifs with exceeds
        · exact ⟨le_of_lt weights.maximum.1, le_refl _⟩
        · exact ⟨rawSign, not_lt.mp exceeds⟩
      rawScore_nonneg := rawSign
      breached_maximum := nofun }

/-- Source `probability`. -/
def probability (horizonDays : Int) : Except PyError ProbabilityResult :=
  if horizonDays < 0 then
    .error (.valueError "horizon_days must be a non-negative integer.")
  else if negative : pressure < 0 then
    .error (.valueError "pressure must be non-negative.")
  else
    .ok (score distance velocity pressure horizonDays.toNat weights alreadyBreached
      (not_lt.mp negative))

end Score

/-! ## What a score is -/

section

variable {distance velocity pressure : ℚ} {horizonDays : Nat} {weights : Weights}
variable {alreadyBreached : Bool} {nonneg : 0 ≤ pressure}

theorem probability_eq_ok {horizonDays : Int} {result : ProbabilityResult}
    (returned : probability distance velocity pressure weights alreadyBreached horizonDays =
      .ok result) :
    ∃ nonneg : 0 ≤ pressure,
      result = score distance velocity pressure horizonDays.toNat weights alreadyBreached nonneg := by
  unfold probability at returned
  split_ifs at returned with past negative
  cases returned
  exact ⟨not_lt.mp negative, rfl⟩

/-- No score is over the configured maximum. -/
theorem score_le :
    (score distance velocity pressure horizonDays weights alreadyBreached nonneg).probability ≤
      weights.maxProbability := by
  have kept : (score distance velocity pressure horizonDays weights alreadyBreached
      nonneg).weights = weights := by
    unfold score
    simp only
    split_ifs <;> rfl
  have range := (score distance velocity pressure horizonDays weights alreadyBreached
    nonneg).probability_range.2
  rwa [kept] at range

theorem score_neutral (neutral : IsNeutral distance velocity pressure alreadyBreached) :
    (score distance velocity pressure horizonDays weights alreadyBreached nonneg).probability = 0 := by
  unfold score
  rw [dif_pos neutral]

theorem score_breached (signal : ¬ IsNeutral distance velocity pressure alreadyBreached)
    (breached : IsBreached distance velocity pressure alreadyBreached) :
    (score distance velocity pressure horizonDays weights alreadyBreached nonneg).probability =
      weights.maxProbability := by
  unfold score
  rw [dif_neg signal, dif_pos breached]

/-- The reason is the neutral one exactly for neutral inputs. -/
theorem score_reason_neutral_iff :
    (score distance velocity pressure horizonDays weights alreadyBreached nonneg).reason =
      some .neutral ↔ IsNeutral distance velocity pressure alreadyBreached := by
  unfold score
  by_cases neutral : IsNeutral distance velocity pressure alreadyBreached
  · rw [dif_pos neutral]
    exact iff_of_true rfl neutral
  · rw [dif_neg neutral]
    refine iff_of_false ?_ neutral
    split_ifs <;> simp

/-- Short of the boundary the score is the raw one, cut at the maximum. -/
theorem score_open (far : 0 < distance) (fresh : alreadyBreached = false) :
    (score distance velocity pressure horizonDays weights alreadyBreached nonneg).probability =
      min weights.maxProbability (1 / (1 + distance) * weights.distance +
        saturate (max velocity 0) * weights.velocity * horizonFactor horizonDays +
        saturate pressure * weights.pressure * horizonFactor horizonDays) := by
  have signal : ¬ IsNeutral distance velocity pressure alreadyBreached := fun neutral =>
    ne_of_gt far neutral.1
  have unbreached : ¬ IsBreached distance velocity pressure alreadyBreached := by
    intro breached
    rcases breached with told | past | near
    · rw [fresh] at told
      cases told
    · exact absurd far (not_lt.mpr (le_of_lt past))
    · exact absurd far (not_lt.mpr near.1)
  have raw : rawScore distance velocity pressure horizonDays weights alreadyBreached nonneg =
      1 / (1 + distance) * weights.distance +
        saturate (max velocity 0) * weights.velocity * horizonFactor horizonDays +
        saturate pressure * weights.pressure * horizonFactor horizonDays := by
    simp only [rawScore, scoreTerms, term, List.map_cons, List.map_nil, List.sum_cons, List.sum_nil,
      normaliseDistance, if_neg signal, if_neg (not_le.mpr far)]
    ring
  rw [← raw]
  unfold score
  rw [dif_neg signal, dif_neg unbreached]
  simp only
  split_ifs with exceeds
  · exact (min_eq_left (le_of_lt exceeds)).symm
  · exact (min_eq_right (not_lt.mp exceeds)).symm

/-- At or past the boundary with a signal, or told so, the score is the maximum. -/
theorem score_at_boundary (near : distance ≤ 0)
    (signal : ¬ IsNeutral distance velocity pressure alreadyBreached) :
    (score distance velocity pressure horizonDays weights alreadyBreached nonneg).probability =
      weights.maxProbability :=
  score_breached signal (Or.inr (Or.inr ⟨near, signal⟩))

theorem score_told (told : alreadyBreached = true) :
    (score distance velocity pressure horizonDays weights alreadyBreached nonneg).probability =
      weights.maxProbability := by
  refine score_breached ?_ (Or.inl told)
  intro neutral
  rw [neutral.2.2.2] at told
  cases told

end

/-- Moving away from the boundary, slower and under less pressure lowers the score,
    unless it takes the sentinel's zero away. -/
theorem score_mono {distance velocity pressure distance' velocity' pressure' : ℚ}
    {horizonDays : Nat} {weights : Weights} {alreadyBreached alreadyBreached' : Bool}
    {nonneg : 0 ≤ pressure} {nonneg' : 0 ≤ pressure'}
    (farther : distance ≤ distance') (slower : velocity' ≤ velocity) (eased : pressure' ≤ pressure)
    (told : alreadyBreached' = true → alreadyBreached = true)
    (sentinel : IsNeutral distance velocity pressure alreadyBreached →
      IsNeutral distance' velocity' pressure' alreadyBreached') :
    (score distance' velocity' pressure' horizonDays weights alreadyBreached' nonneg').probability ≤
      (score distance velocity pressure horizonDays weights alreadyBreached nonneg).probability := by
  by_cases neutral : IsNeutral distance velocity pressure alreadyBreached
  · rw [score_neutral neutral, score_neutral (sentinel neutral)]
  · by_cases breached : IsBreached distance velocity pressure alreadyBreached
    · rw [score_breached neutral breached]
      exact score_le
    · -- neither told nor at the boundary, before and after
      have fresh : alreadyBreached = false := by
        simpa using fun flag => breached (Or.inl flag)
      have far : 0 < distance := by
        by_contra near
        exact breached (Or.inr (Or.inr ⟨not_lt.mp near, neutral⟩))
      have fresh' : alreadyBreached' = false := by
        by_contra flagged
        rw [told (by simpa using flagged)] at fresh
        cases fresh
      rw [score_open far fresh, score_open (lt_of_lt_of_le far farther) fresh']
      obtain ⟨⟨distanceWeight, _⟩, ⟨velocityWeight, _⟩, ⟨pressureWeight, _⟩⟩ := weights.range
      have factor := (horizonFactor_range horizonDays).1
      have near : 1 / (1 + distance') ≤ 1 / (1 + distance) :=
        one_div_le_one_div_of_le (by linarith) (by linarith)
      have slow : saturate (max velocity' 0) ≤ saturate (max velocity 0) :=
        saturate_mono (le_max_right _ _) (max_le_max_right 0 slower)
      have light : saturate pressure' ≤ saturate pressure := saturate_mono nonneg' eased
      apply min_le_min_left
      gcongr

/-! ## How the probability moves -/

section

variable {weights : Weights} {velocity : ℚ} {horizonDays : Int} {alreadyBreached : Bool}
variable {distance distance' pressure pressure' : ℚ} {result result' : ProbabilityResult}

theorem probability_range
    (returned : probability distance velocity pressure weights alreadyBreached horizonDays =
      .ok result) :
    0 ≤ result.probability ∧ result.probability ≤ weights.maxProbability := by
  obtain ⟨nonneg, rfl⟩ := probability_eq_ok returned
  exact ⟨ProbabilityResult.probability_range _ |>.1, score_le⟩

/-- More pressure never takes a signal away. -/
theorem isNeutral_of_heavier (nonneg : 0 ≤ pressure) (heavier : pressure ≤ pressure')
    (neutral : IsNeutral distance velocity pressure' alreadyBreached) :
    IsNeutral distance velocity pressure alreadyBreached := by
  obtain ⟨near, still, unloaded, fresh⟩ := neutral
  have none : pressure = 0 := le_antisymm (unloaded ▸ heavier) nonneg
  exact ⟨near, still, none, fresh⟩

theorem probability_le_of_pressure (heavier : pressure ≤ pressure')
    (returned : probability distance velocity pressure weights alreadyBreached horizonDays =
      .ok result)
    (returned' : probability distance velocity pressure' weights alreadyBreached horizonDays =
      .ok result') : result.probability ≤ result'.probability := by
  obtain ⟨nonneg, rfl⟩ := probability_eq_ok returned
  obtain ⟨nonneg', rfl⟩ := probability_eq_ok returned'
  apply score_mono (le_refl distance) (le_refl velocity) heavier id
  intro neutral
  exact isNeutral_of_heavier nonneg heavier neutral

theorem probability_le_of_distance (closer : distance' ≤ distance)
    (signal : ¬ IsNeutral distance' velocity pressure alreadyBreached)
    (returned : probability distance velocity pressure weights alreadyBreached horizonDays =
      .ok result)
    (returned' : probability distance' velocity pressure weights alreadyBreached horizonDays =
      .ok result') : result.probability ≤ result'.probability := by
  obtain ⟨nonneg, rfl⟩ := probability_eq_ok returned
  obtain ⟨nonneg', rfl⟩ := probability_eq_ok returned'
  apply score_mono closer (le_refl velocity) (le_refl pressure) id
  intro neutral
  exact absurd neutral signal

/-- A breach that is told, is behind, or is at the boundary with a signal, has the maximum. -/
theorem probability_of_breached (signal : ¬ IsNeutral distance velocity pressure alreadyBreached)
    (breached : IsBreached distance velocity pressure alreadyBreached)
    (returned : probability distance velocity pressure weights alreadyBreached horizonDays =
      .ok result) : result.probability = weights.maxProbability := by
  obtain ⟨nonneg, rfl⟩ := probability_eq_ok returned
  exact score_breached signal breached

theorem signal_of_crossed (crossed : alreadyBreached = true ∨ distance < 0) :
    ¬ IsNeutral distance velocity pressure alreadyBreached := by
  intro neutral
  rcases crossed with told | past
  · rw [neutral.2.2.2] at told
    cases told
  · rw [neutral.1] at past
    exact lt_irrefl 0 past

end

/-- The probability stays in range, rises with the pressure and as the distance shrinks, and is the
    maximum once the threshold is crossed; only the zero-signal sentinel stands apart. -/
theorem probability_monotone (weights : Weights) (velocity : ℚ) (horizonDays : Int)
    (alreadyBreached : Bool) :
    (∀ distance pressure result,
      probability distance velocity pressure weights alreadyBreached horizonDays = .ok result →
        (0 ≤ result.probability ∧ result.probability ≤ weights.maxProbability) ∧
        (alreadyBreached = true ∨ distance < 0 ∨
            distance = 0 ∧ ¬ IsNeutral distance velocity pressure alreadyBreached →
          result.probability = weights.maxProbability)) ∧
    (∀ distance pressure pressure' result result', pressure ≤ pressure' →
      probability distance velocity pressure weights alreadyBreached horizonDays = .ok result →
      probability distance velocity pressure' weights alreadyBreached horizonDays = .ok result' →
        result.probability ≤ result'.probability) ∧
    (∀ distance distance' pressure result result', distance' ≤ distance →
      ¬ IsNeutral distance' velocity pressure alreadyBreached →
      probability distance velocity pressure weights alreadyBreached horizonDays = .ok result →
      probability distance' velocity pressure weights alreadyBreached horizonDays = .ok result' →
        result.probability ≤ result'.probability) := by
  refine ⟨?_, ?_, ?_⟩
  · intro distance pressure result returned
    refine ⟨probability_range returned, ?_⟩
    rintro (told | past | ⟨near, signal⟩)
    · exact probability_of_breached (signal_of_crossed (.inl told)) (.inl told) returned
    · exact probability_of_breached (signal_of_crossed (.inr past)) (.inr (.inl past)) returned
    · exact probability_of_breached signal (.inr (.inr ⟨le_of_eq near, signal⟩)) returned
  · intro distance pressure pressure' result result' heavier returned returned'
    exact probability_le_of_pressure heavier returned returned'
  · intro distance distance' pressure result result' closer signal returned returned'
    exact probability_le_of_distance closer signal returned returned'

/-- Equal weights, cut at the default maximum. -/
def equalWeights : Weights where
  distance := 1 / 3
  velocity := 1 / 3
  pressure := 1 / 3
  maxProbability := defaultMaxProbability
  nonneg := by norm_num
  total := by norm_num
  maximum := by norm_num [defaultMaxProbability]

/-- From a distance of one to no distance and no signal at all: the probability falls to zero. -/
theorem probability_falls_to_sentinel :
    ¬ ∀ (weights : Weights) (velocity pressure distance distance' : ℚ) (horizonDays : Int)
      (alreadyBreached : Bool) (result result' : ProbabilityResult), distance' ≤ distance →
      probability distance velocity pressure weights alreadyBreached horizonDays = .ok result →
      probability distance' velocity pressure weights alreadyBreached horizonDays = .ok result' →
        result.probability ≤ result'.probability := by
  intro monotone
  have falls := monotone equalWeights 0 0 1 0 30 false
    (score 1 0 0 30 equalWeights false (le_refl 0)) (score 0 0 0 30 equalWeights false (le_refl 0))
    (by norm_num) rfl rfl
  have neutral : IsNeutral (0 : ℚ) 0 0 false := ⟨rfl, rfl, rfl, rfl⟩
  rw [score_neutral neutral, score_open (by norm_num) rfl] at falls
  norm_num [equalWeights, defaultMaxProbability, saturate, horizonFactor] at falls

/-- The same pressure at distances one and a half: the closer one is the likelier breach. -/
theorem probability_monotone_closer :
    (score 1 0 1 30 equalWeights false zero_le_one).probability ≤
      (score (1 / 2) 0 1 30 equalWeights false zero_le_one).probability :=
  (probability_monotone equalWeights 0 30 false).2.2 1 (1 / 2) 1 _ _ (by norm_num)
    (by norm_num [IsNeutral]) rfl rfl

end Forecast

end CovenantRadar
