import CovenantRadar.Forecast.Path

/-!
# Intervention effects

Source `domain/interventions/effects.py` and `domain/interventions/applicability.py`, on
exact rationals. An effect changes named inputs of a projection and nothing else. Class
names are the identifiers `normalize_covenant_class` returns.
-/

namespace CovenantRadar

namespace Interventions

open Forecast

/-- Source `ProjectionInputs`, with the check of its `__post_init__`. -/
structure ProjectionInputs where
  currentValue : Option ℚ
  threshold : ℚ
  direction : Direction
  perDayDrift : ℚ
  pressure : ℚ
  pressure_nonneg : 0 ≤ pressure
  deriving DecidableEq

/-- Source `ProjectionInputs.net_per_day_drift`. -/
def ProjectionInputs.netPerDayDrift (inputs : ProjectionInputs) : ℚ :=
  inputs.perDayDrift + signedPressure inputs.pressure inputs.direction

/-! ## Applicability -/

/-- Source `_CONCRETE_CLASS_ALIASES`. -/
def concreteClassAliases : List (String × String) :=
  [("leverage_ratio", "leverage"), ("tol_tnw", "leverage"), ("debt_to_ebitda", "leverage"),
    ("net_debt_to_ebitda", "leverage"), ("dscr", "coverage"),
    ("interest_coverage_ratio", "coverage"), ("fixed_charge_coverage_ratio", "coverage"),
    ("asset_cover_ratio", "coverage"), ("current_ratio", "liquidity"),
    ("quick_ratio", "liquidity"), ("minimum_liquidity", "liquidity"),
    ("drawing_power_headroom", "liquidity"), ("utilisation", "conduct"),
    ("dividend_restriction", "conduct"), ("promoter_shareholding_floor", "net_worth"),
    ("tnw_floor", "net_worth"), ("minimum_net_worth", "net_worth"),
    ("receivable_days", "working_capital"), ("inventory_days", "working_capital"),
    ("payable_days", "working_capital"), ("cash_conversion_cycle", "working_capital"),
    ("working_capital_gap", "working_capital"), ("maximum_capex", "capex")]

/-- Source `_WILDCARDS`. -/
def wildcards : List Text := ["*".toList, "all".toList, "any".toList]

/-- Source `_class_family`. -/
def classFamily (value : Text) : Text :=
  match concreteClassAliases.find? (fun entry => entry.1.toList = value) with
  | some entry => entry.2.toList
  | none => value

/-- Source `is_applicable`, on the classes an effect names. -/
def isApplicable (classes : Finset Text) (requested : Text) : Bool :=
  decide (∃ configured ∈ classes, wildcards.contains configured ∨ configured = requested ∨
    configured = classFamily requested ∨ classFamily configured = classFamily requested)

/-- Source `InterventionNotApplicable`. -/
structure InterventionNotApplicable where
  message : Text
  covenantClass : Text
  effectModel : Text
  deriving DecidableEq

/-- What a simulation raises. -/
inductive SimulationError where
  | raised (error : PyError)
  | notApplicable (error : InterventionNotApplicable)
  deriving DecidableEq

/-- Source `EffectModelType`. -/
inductive EffectModelType where
  | levelShift
  | rateChange
  | thresholdRelaxation
  | pressureReduction
  | combination
  deriving DecidableEq, Repr

/-- The value of the enumeration member. -/
def EffectModelType.value : EffectModelType → Text
  | levelShift => "level_shift".toList
  | rateChange => "rate_change".toList
  | thresholdRelaxation => "threshold_relaxation".toList
  | pressureReduction => "pressure_reduction".toList
  | combination => "combination".toList

/-- Source `require_applicable`. -/
def requireApplicable (classes : Finset Text) (requested : Text) (effectModel : EffectModelType) :
    Except SimulationError Unit :=
  if isApplicable classes requested then .ok ()
  else
    .error (.notApplicable
      { message := Text.repr effectModel.value ++ " is not applicable to covenant class ".toList ++
          Text.repr requested ++ "; applicable classes: ".toList ++
          List.intercalate ", ".toList (classes.sort (· ≤ ·)) ++ ".".toList
        covenantClass := requested
        effectModel := effectModel.value })

/-! ## Effects -/

/-- The four effects that are not combinations, with their parameter checks. -/
inductive Transform where
  | levelShift (amount : ℚ) (bounded : -1000000 ≤ amount ∧ amount ≤ 1000000)
  | rateChange (multiplier : ℚ) (bounded : 0 ≤ multiplier ∧ multiplier ≤ 2)
  | thresholdRelaxation (amount : ℚ) (bounded : 0 ≤ amount ∧ amount ≤ 1000000)
  | pressureReduction (fraction : ℚ) (bounded : 0 ≤ fraction ∧ fraction ≤ 1)

/-- Source `model_type`. -/
def Transform.modelType : Transform → EffectModelType
  | levelShift _ _ => .levelShift
  | rateChange _ _ => .rateChange
  | thresholdRelaxation _ _ => .thresholdRelaxation
  | pressureReduction _ _ => .pressureReduction

/-- Source `transform`, for each effect. -/
def Transform.transform : Transform → ProjectionInputs → ProjectionInputs
  | levelShift amount _, inputs =>
    { inputs with currentValue := inputs.currentValue.map (· + amount) }
  | rateChange multiplier _, inputs =>
    { inputs with perDayDrift := inputs.perDayDrift * multiplier }
  | thresholdRelaxation amount _, inputs =>
    { inputs with
      threshold :=
        match inputs.direction with
        | .max => inputs.threshold + amount
        | .min => inputs.threshold - amount }
  | pressureReduction fraction bounded, inputs =>
    { inputs with
      pressure := inputs.pressure * (1 - fraction)
      pressure_nonneg := mul_nonneg inputs.pressure_nonneg (sub_nonneg.mpr bounded.2) }

/-- An effect that is not a combination, with its assumptions and classes. -/
structure SimpleEffect where
  transform : Transform
  assumptions : List (BoundedText 500)
  applicableCovenantClasses : Finset Text

/-- Source `InterventionEffect.apply`. -/
def SimpleEffect.apply (effect : SimpleEffect) (inputs : ProjectionInputs) (covenantClass : Text) :
    Except SimulationError ProjectionInputs := do
  requireApplicable effect.applicableCovenantClasses covenantClass effect.transform.modelType
  return effect.transform.transform inputs

/-- Source `_COMBINATION_ORDER`. -/
def combinationOrder : List EffectModelType :=
  [.levelShift, .rateChange, .pressureReduction, .thresholdRelaxation]

/-- The components in the order a combination applies them. -/
def orderedComponents (components : List SimpleEffect) : List SimpleEffect :=
  combinationOrder.flatMap fun effectType =>
    components.filter fun component => component.transform.modelType = effectType

/-- Source `InterventionEffect`: a simple effect, or a combination of at least two. -/
inductive InterventionEffect where
  | simple (effect : SimpleEffect)
  | combination (components : List SimpleEffect) (assumptions : List (BoundedText 500))
      (applicableCovenantClasses : Finset Text) (several : 2 ≤ components.length)

/-- Source `apply`. -/
def InterventionEffect.apply (inputs : ProjectionInputs) (covenantClass : Text) :
    InterventionEffect → Except SimulationError ProjectionInputs
  | simple effect => effect.apply inputs covenantClass
  | combination components _ classes _ => do
    requireApplicable classes covenantClass .combination
    (orderedComponents components).foldlM
      (fun transformed component => component.apply transformed covenantClass) inputs

/-- Source `assumptions`; a combination adds those of its components in order. -/
def InterventionEffect.assumptions : InterventionEffect → List Text
  | simple effect => (effect.assumptions.map (·.text)).eraseDups
  | combination components assumptions _ _ =>
    (assumptions.map (·.text) ++
      (orderedComponents components).flatMap fun item => item.assumptions.map (·.text)).eraseDups

/-- Source `InterventionFacts`. -/
structure InterventionFacts where
  code : BoundedText 100
  effect : InterventionEffect

/-- Source `InterventionFacts.apply`. -/
def InterventionFacts.apply (intervention : InterventionFacts) (inputs : ProjectionInputs)
    (covenantClass : Text) : Except SimulationError ProjectionInputs :=
  intervention.effect.apply inputs covenantClass

/-! ## What an effect leaves alone -/

/-- The inputs after an effect: the side is kept, and a value is there if it was before. -/
def ProjectionInputs.SameShape (before after : ProjectionInputs) : Prop :=
  after.direction = before.direction ∧ (after.currentValue = none ↔ before.currentValue = none)

theorem Transform.sameShape (transform : Transform) (inputs : ProjectionInputs) :
    inputs.SameShape (transform.transform inputs) := by
  cases transform with
  | levelShift amount bounded => exact ⟨rfl, Option.map_eq_none_iff⟩
  | rateChange multiplier bounded => exact ⟨rfl, Iff.rfl⟩
  | thresholdRelaxation amount bounded => exact ⟨rfl, Iff.rfl⟩
  | pressureReduction fraction bounded => exact ⟨rfl, Iff.rfl⟩

/-- An applied simple effect is applicable and returns its transform. -/
theorem SimpleEffect.apply_eq_ok {effect : SimpleEffect} {inputs transformed : ProjectionInputs}
    {covenantClass : Text} (applied : effect.apply inputs covenantClass = .ok transformed) :
    isApplicable effect.applicableCovenantClasses covenantClass = true ∧
      transformed = effect.transform.transform inputs := by
  obtain ⟨_, checked, last⟩ := Except.bind_eq_ok_iff.mp applied
  cases last
  unfold requireApplicable at checked
  split_ifs at checked with fits
  exact ⟨fits, rfl⟩

theorem InterventionEffect.apply_sameShape {effect : InterventionEffect}
    {inputs transformed : ProjectionInputs} {covenantClass : Text}
    (applied : effect.apply inputs covenantClass = .ok transformed) :
    inputs.SameShape transformed := by
  cases effect with
  | simple effect =>
    rw [(SimpleEffect.apply_eq_ok applied).2]
    exact effect.transform.sameShape inputs
  | combination components assumptions classes several =>
    obtain ⟨_, _, run⟩ := Except.bind_eq_ok_iff.mp applied
    refine foldlM_invariant (fun state => inputs.SameShape state) ?_ ⟨rfl, Iff.rfl⟩ run
    intro state component next _ kept step
    rw [(SimpleEffect.apply_eq_ok step).2]
    have same := component.transform.sameShape state
    exact ⟨same.1.trans kept.1, same.2.trans kept.2⟩

end Interventions

end CovenantRadar
