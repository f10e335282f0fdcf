import CovenantRadar.Interventions.Catalogue
import CovenantRadar.Misc.SortedLists

/-!
# Combinations of effects

Source `domain/interventions/effects.py`, `CombinationEffect`, and `applicability.py`: the four simple
effects change four different inputs, two of them by a sum and two by a product, so a combination
comes to the same in any order of its components, and leaves the inputs alone when what its
components do to one input cancels out.
-/

namespace CovenantRadar

namespace Interventions

open Forecast

/-! ## One transform -/

/-- What a transform adds to the current value. -/
def Transform.shift : Transform → ℚ
  | levelShift amount _ => amount
  | rateChange _ _ => 0
  | thresholdRelaxation _ _ => 0
  | pressureReduction _ _ => 0

/-- What a transform multiplies the drift by. -/
def Transform.factor : Transform → ℚ
  | levelShift _ _ => 1
  | rateChange multiplier _ => multiplier
  | thresholdRelaxation _ _ => 1
  | pressureReduction _ _ => 1

/-- How far a transform moves the threshold to the favourable side. -/
def Transform.relief : Transform → ℚ
  | levelShift _ _ => 0
  | rateChange _ _ => 0
  | thresholdRelaxation amount _ => amount
  | pressureReduction _ _ => 0

/-- What a transform multiplies the pressure by. -/
def Transform.kept : Transform → ℚ
  | levelShift _ _ => 1
  | rateChange _ _ => 1
  | thresholdRelaxation _ _ => 1
  | pressureReduction fraction _ => 1 - fraction

/-- A threshold moved to the favourable side. -/
def movedThreshold (direction : Direction) (threshold amount : ℚ) : ℚ :=
  match direction with
  | .max => threshold + amount
  | .min => threshold - amount

theorem movedThreshold_add (direction : Direction) (threshold a b : ℚ) :
    movedThreshold direction (movedThreshold direction threshold a) b =
      movedThreshold direction threshold (a + b) := by
  cases direction with
  | max => simp only [movedThreshold, add_assoc]
  | min => simp only [movedThreshold, sub_sub]

theorem movedThreshold_eq_self_iff {direction : Direction} {threshold amount : ℚ} :
    movedThreshold direction threshold amount = threshold ↔ amount = 0 := by
  cases direction with
  | max => simp [movedThreshold]
  | min => simp [movedThreshold]

theorem Transform.relief_nonneg (transform : Transform) : 0 ≤ transform.relief := by
  cases transform with
  | levelShift amount bounded => exact le_refl 0
  | rateChange multiplier bounded => exact le_refl 0
  | thresholdRelaxation amount bounded => exact bounded.1
  | pressureReduction fraction bounded => exact le_refl 0

theorem Transform.kept_bounds (transform : Transform) : 0 ≤ transform.kept ∧ transform.kept ≤ 1 := by
  cases transform with
  | levelShift amount bounded => exact ⟨zero_le_one, le_refl 1⟩
  | rateChange multiplier bounded => exact ⟨zero_le_one, le_refl 1⟩
  | thresholdRelaxation amount bounded => exact ⟨zero_le_one, le_refl 1⟩
  | pressureReduction fraction bounded =>
    exact ⟨sub_nonneg.mpr bounded.2, sub_le_self 1 bounded.1⟩

/-- The inputs with each of the four changed at once. -/
structure Changed (before after : ProjectionInputs) (shift factor relief kept : ℚ) : Prop where
  currentValue : after.currentValue = before.currentValue.map (· + shift)
  perDayDrift : after.perDayDrift = before.perDayDrift * factor
  threshold : after.threshold = movedThreshold before.direction before.threshold relief
  pressure : after.pressure = before.pressure * kept
  direction : after.direction = before.direction

theorem Changed.unique {before after after' : ProjectionInputs} {shift factor relief kept : ℚ}
    (changed : Changed before after shift factor relief kept)
    (changed' : Changed before after' shift factor relief kept) : after = after' := by
  obtain ⟨currentValue, threshold, direction, perDayDrift, pressure, _⟩ := after
  obtain ⟨currentValue', threshold', direction', perDayDrift', pressure', _⟩ := after'
  obtain rfl : currentValue = currentValue' := changed.currentValue.trans changed'.currentValue.symm
  obtain rfl : threshold = threshold' := changed.threshold.trans changed'.threshold.symm
  obtain rfl : direction = direction' := changed.direction.trans changed'.direction.symm
  obtain rfl : perDayDrift = perDayDrift' := changed.perDayDrift.trans changed'.perDayDrift.symm
  obtain rfl : pressure = pressure' := changed.pressure.trans changed'.pressure.symm
  rfl

theorem Changed.refl (inputs : ProjectionInputs) : Changed inputs inputs 0 1 0 1 where
  currentValue := by simp
  perDayDrift := (mul_one _).symm
  threshold := (movedThreshold_eq_self_iff.mpr rfl).symm
  pressure := (mul_one _).symm
  direction := rfl

theorem Changed.trans {first second third : ProjectionInputs} {a b c d a' b' c' d' : ℚ}
    (changed : Changed first second a b c d) (changed' : Changed second third a' b' c' d') :
    Changed first third (a + a') (b * b') (c + c') (d * d') where
  currentValue := by
    rw [changed'.currentValue, changed.currentValue, Option.map_map]
    congr 1
    funext value
    exact add_assoc value a a'
  perDayDrift := by rw [changed'.perDayDrift, changed.perDayDrift, mul_assoc]
  threshold := by
    rw [changed'.threshold, changed.threshold, changed.direction, movedThreshold_add]
  pressure := by rw [changed'.pressure, changed.pressure, mul_assoc]
  direction := changed'.direction.trans changed.direction

theorem Transform.changed (transform : Transform) (inputs : ProjectionInputs) :
    Changed inputs (transform.transform inputs) transform.shift transform.factor transform.relief
      transform.kept := by
  have same := Changed.refl inputs
  cases transform with
  | levelShift amount bounded =>
    exact ⟨rfl, same.perDayDrift, same.threshold, same.pressure, rfl⟩
  | rateChange multiplier bounded =>
    exact ⟨same.currentValue, rfl, same.threshold, same.pressure, rfl⟩
  | thresholdRelaxation amount bounded =>
    exact ⟨same.currentValue, same.perDayDrift, rfl, same.pressure, rfl⟩
  | pressureReduction fraction bounded =>
    exact ⟨same.currentValue, same.perDayDrift, same.threshold, rfl, rfl⟩

/-- When a change is none at all. -/
theorem Changed.eq_iff {before after : ProjectionInputs} {shift factor relief kept : ℚ}
    (changed : Changed before after shift factor relief kept) :
    after = before ↔ (before.currentValue = none ∨ shift = 0) ∧
      (before.perDayDrift = 0 ∨ factor = 1) ∧ relief = 0 ∧ (before.pressure = 0 ∨ kept = 1) := by
  have scaled (value scale : ℚ) : value = value * scale ↔ value = 0 ∨ scale = 1 := by
    rw [eq_comm, mul_right_eq_self₀, or_comm]
  constructor
  · rintro rfl
    refine ⟨?_, (scaled _ _).mp changed.perDayDrift,
      movedThreshold_eq_self_iff.mp changed.threshold.symm, (scaled _ _).mp changed.pressure⟩
    cases present : after.currentValue with
    | none => exact Or.inl rfl
    | some value =>
      have moved := changed.currentValue
      rw [present, Option.map_some, Option.some.injEq] at moved
      exact Or.inr (left_eq_add.mp moved)
  · rintro ⟨current, drift, threshold, pressure⟩
    apply changed.unique
    subst threshold
    refine ⟨?_, (scaled _ _).mpr drift, (movedThreshold_eq_self_iff.mpr rfl).symm,
      (scaled _ _).mpr pressure, rfl⟩
    rcases current with absent | rfl
    · rw [absent]
      rfl
    · simp

/-! ## One after the other -/

/-- Source `transform`, of an effect. -/
def InterventionEffect.transform : InterventionEffect → ProjectionInputs → ProjectionInputs
  | simple effect, inputs => effect.transform.transform inputs
  | combination components _ _ _, inputs =>
    (orderedComponents components).foldl
      (fun transformed component => component.transform.transform transformed) inputs

/-- The components of a combination, one after the other in the order given. -/
def inTurn (components : List SimpleEffect) (inputs : ProjectionInputs) : ProjectionInputs :=
  components.foldl (fun transformed component => component.transform.transform transformed) inputs

theorem changed_inTurn (components : List SimpleEffect) (inputs : ProjectionInputs) :
    Changed inputs (inTurn components inputs) (components.map (·.transform.shift)).sum
      (components.map (·.transform.factor)).prod (components.map (·.transform.relief)).sum
      (components.map (·.transform.kept)).prod := by
  induction components generalizing inputs with
  | nil => exact Changed.refl inputs
  | cons component components ih =>
    rw [List.map_cons, List.map_cons, List.map_cons, List.map_cons, List.sum_cons, List.prod_cons,
      List.sum_cons, List.prod_cons]
    exact (component.transform.changed inputs).trans (ih _)

theorem inTurn_perm {components components' : List SimpleEffect}
    (perm : components.Perm components') (inputs : ProjectionInputs) :
    inTurn components inputs = inTurn components' inputs := by
  have changed := changed_inTurn components inputs
  rw [(perm.map _).sum_eq, (perm.map fun component => component.transform.factor).prod_eq,
    (perm.map fun component => component.transform.relief).sum_eq,
    (perm.map fun component => component.transform.kept).prod_eq] at changed
  exact changed.unique (changed_inTurn components' inputs)

theorem modelType_mem_combinationOrder (transform : Transform) :
    transform.modelType ∈ combinationOrder := by
  cases transform with
  | levelShift amount bounded => exact List.mem_cons_self
  | rateChange multiplier bounded => exact List.mem_cons_of_mem _ List.mem_cons_self
  | thresholdRelaxation amount bounded =>
    exact List.mem_cons_of_mem _ (List.mem_cons_of_mem _ (List.mem_cons_of_mem _ List.mem_cons_self))
  | pressureReduction fraction bounded =>
    exact List.mem_cons_of_mem _ (List.mem_cons_of_mem _ List.mem_cons_self)

theorem orderedComponents_perm (components : List SimpleEffect) :
    (orderedComponents components).Perm components := by
  have distinct : combinationOrder.Nodup := by decide
  have all : components.filter (fun _ => true) = components :=
    List.filter_eq_self.mpr fun _ _ => rfl
  have split : (orderedComponents components).Perm (components.filter fun _ => true) := by
    apply flatMap_filter_key_perm distinct
    intro component _
    exact iff_of_true rfl (modelType_mem_combinationOrder component.transform)
  rw [all] at split
  exact split

theorem foldlM_apply_eq_ok_iff {components : List SimpleEffect}
    {inputs transformed : ProjectionInputs} {covenantClass : Text} :
    components.foldlM (fun state component => component.apply state covenantClass) inputs =
        .ok transformed ↔
      (∀ component ∈ components,
        isApplicable component.applicableCovenantClasses covenantClass = true) ∧
          transformed = inTurn components inputs := by
  induction components generalizing inputs with
  | nil =>
    constructor
    · intro returned
      cases returned
      exact ⟨fun _ listed => absurd listed List.not_mem_nil, rfl⟩
    · rintro ⟨_, rfl⟩
      rfl
  | cons component components ih =>
    rw [foldlM_cons_eq_ok_iff]
    constructor
    · rintro ⟨between, applied, rest⟩
      obtain ⟨fits, rfl⟩ := SimpleEffect.apply_eq_ok applied
      obtain ⟨others, last⟩ := ih.mp rest
      exact ⟨List.forall_mem_cons.mpr ⟨fits, others⟩, last⟩
    · rintro ⟨fits, last⟩
      obtain ⟨fits, others⟩ := List.forall_mem_cons.mp fits
      refine ⟨component.transform.transform inputs, ?_, ih.mpr ⟨others, last⟩⟩
      rw [SimpleEffect.apply, requireApplicable, if_pos fits]
      rfl

/-- An applied combination is its components applied one after the other. -/
theorem apply_combination_iff {components : List SimpleEffect} {assumptions : List (BoundedText 500)}
    {classes : Finset Text} {several : 2 ≤ components.length}
    {inputs transformed : ProjectionInputs} {covenantClass : Text} :
    (InterventionEffect.combination components assumptions classes several).apply inputs
        covenantClass = .ok transformed ↔
      isApplicable classes covenantClass = true ∧
        components.foldlM (fun state component => component.apply state covenantClass) inputs =
          .ok transformed := by
  have checked : requireApplicable classes covenantClass .combination = .ok () ↔
      isApplicable classes covenantClass = true := by
    unfold requireApplicable
    split_ifs with fits
    · exact iff_of_true rfl fits
    · exact iff_of_false (fun same => by cases same) fits
  have perm := orderedComponents_perm components
  rw [InterventionEffect.apply, Except.bind_eq_ok_iff]
  constructor
  · rintro ⟨_, fits, run⟩
    obtain ⟨others, last⟩ := foldlM_apply_eq_ok_iff.mp run
    refine ⟨checked.mp fits, foldlM_apply_eq_ok_iff.mpr ⟨fun component listed =>
      others component (perm.mem_iff.mpr listed), last.trans (inTurn_perm perm inputs)⟩⟩
  · rintro ⟨fits, run⟩
    obtain ⟨others, last⟩ := foldlM_apply_eq_ok_iff.mp run
    refine ⟨(), checked.mpr fits, foldlM_apply_eq_ok_iff.mpr ⟨?_, ?_⟩⟩
    · exact fun component listed => others component (perm.mem_iff.mp listed)
    · exact last.trans (inTurn_perm perm inputs).symm

/-! ## When nothing changes -/

theorem sum_eq_zero_iff_of_nonneg {amounts : List ℚ} (nonneg : ∀ amount ∈ amounts, 0 ≤ amount) :
    amounts.sum = 0 ↔ ∀ amount ∈ amounts, amount = 0 := by
  induction amounts with
  | nil => simp
  | cons amount amounts ih =>
    obtain ⟨first, others⟩ := List.forall_mem_cons.mp nonneg
    rw [List.sum_cons, add_eq_zero_iff_of_nonneg first (List.sum_nonneg others), ih others,
      List.forall_mem_cons]

theorem prod_bounds {scales : List ℚ} (bounds : ∀ scale ∈ scales, 0 ≤ scale ∧ scale ≤ 1) :
    0 ≤ scales.prod ∧ scales.prod ≤ 1 := by
  induction scales with
  | nil => exact ⟨zero_le_one, le_refl 1⟩
  | cons scale scales ih =>
    obtain ⟨first, others⟩ := List.forall_mem_cons.mp bounds
    obtain ⟨nonneg, atMost⟩ := ih others
    rw [List.prod_cons]
    exact ⟨mul_nonneg first.1 nonneg, mul_le_one₀ first.2 nonneg atMost⟩

theorem prod_eq_one_iff_of_bounds {scales : List ℚ}
    (bounds : ∀ scale ∈ scales, 0 ≤ scale ∧ scale ≤ 1) :
    scales.prod = 1 ↔ ∀ scale ∈ scales, scale = 1 := by
  induction scales with
  | nil => simp
  | cons scale scales ih =>
    obtain ⟨first, others⟩ := List.forall_mem_cons.mp bounds
    obtain ⟨nonneg, atMost⟩ := prod_bounds others
    rw [List.prod_cons, List.forall_mem_cons, ← ih others]
    constructor
    · intro product
      have whole : scale = 1 := by
        apply le_antisymm first.2
        calc (1 : ℚ) = scale * scales.prod := product.symm
          _ ≤ scale * 1 := mul_le_mul_of_nonneg_left atMost first.1
          _ = scale := mul_one scale
      rw [whole, one_mul] at product
      exact ⟨whole, product⟩
    · rintro ⟨rfl, rest⟩
      rw [rest, one_mul]

/-- A component that reduces the pressure or relaxes the threshold. -/
def SimpleEffect.isRelief (component : SimpleEffect) : Bool :=
  component.transform.modelType = .pressureReduction ∨
    component.transform.modelType = .thresholdRelaxation

theorem relieves_iff {component : SimpleEffect} {inputs : ProjectionInputs} :
    component.isRelief = true ∧ component.transform.transform inputs ≠ inputs ↔
      component.transform.relief ≠ 0 ∨ inputs.pressure ≠ 0 ∧ component.transform.kept ≠ 1 := by
  have unchanged := (component.transform.changed inputs).eq_iff
  rw [SimpleEffect.isRelief, ne_eq, unchanged]
  cases component.transform with
  | levelShift amount bounded =>
    simp [Transform.modelType, Transform.relief, Transform.kept]
  | rateChange multiplier bounded =>
    simp [Transform.modelType, Transform.relief, Transform.kept]
  | thresholdRelaxation amount bounded =>
    simp [Transform.modelType, Transform.relief, Transform.kept, Transform.shift, Transform.factor]
  | pressureReduction fraction bounded =>
    simp [Transform.modelType, Transform.relief, Transform.kept, Transform.shift, Transform.factor]

/-- When the components change the inputs between them. -/
theorem inTurn_ne_iff {components : List SimpleEffect} {inputs : ProjectionInputs} :
    inTurn components inputs ≠ inputs ↔
      (inputs.currentValue ≠ none ∧ (components.map (·.transform.shift)).sum ≠ 0) ∨
      (inputs.perDayDrift ≠ 0 ∧ (components.map (·.transform.factor)).prod ≠ 1) ∨
      ∃ component ∈ components,
        component.isRelief = true ∧ component.transform.transform inputs ≠ inputs := by
  have relief : (components.map (·.transform.relief)).sum = 0 ↔
      ∀ component ∈ components, component.transform.relief = 0 := by
    rw [sum_eq_zero_iff_of_nonneg, List.forall_mem_map]
    exact List.forall_mem_map.mpr fun component _ => component.transform.relief_nonneg
  have kept : (components.map (·.transform.kept)).prod = 1 ↔
      ∀ component ∈ components, component.transform.kept = 1 := by
    rw [prod_eq_one_iff_of_bounds, List.forall_mem_map]
    exact List.forall_mem_map.mpr fun component _ => component.transform.kept_bounds
  rw [ne_eq, (changed_inTurn components inputs).eq_iff, relief, kept]
  have relieved : (∃ component ∈ components,
      component.isRelief = true ∧ component.transform.transform inputs ≠ inputs) ↔
        ¬ ((∀ component ∈ components, component.transform.relief = 0) ∧
          (inputs.pressure = 0 ∨ ∀ component ∈ components, component.transform.kept = 1)) := by
    constructor
    · rintro ⟨component, listed, relieves⟩ ⟨still, whole⟩
      rcases relieves_iff.mp relieves with moved | ⟨pressed, less⟩
      · exact moved (still component listed)
      · rcases whole with none | whole
        · exact pressed none
        · exact less (whole component listed)
    · intro moved
      by_contra none
      apply moved
      have still (component : SimpleEffect) (listed : component ∈ components) :
          component.transform.relief = 0 ∧
            (inputs.pressure = 0 ∨ component.transform.kept = 1) := by
        have stays : ¬ (component.isRelief = true ∧ component.transform.transform inputs ≠ inputs) :=
          fun relieves => none ⟨component, listed, relieves⟩
        rw [relieves_iff] at stays
        by_cases pressed : inputs.pressure = 0
        · exact ⟨not_not.mp fun moved => stays (Or.inl moved), Or.inl pressed⟩
        · exact ⟨not_not.mp fun moved => stays (Or.inl moved),
            Or.inr (not_not.mp fun less => stays (Or.inr ⟨pressed, less⟩))⟩
      refine ⟨fun component listed => (still component listed).1, ?_⟩
      by_cases pressed : inputs.pressure = 0
      · exact Or.inl pressed
      · exact Or.inr fun component listed => ((still component listed).2).resolve_left pressed
  rw [relieved]
  tauto

/-- Components that leave the inputs alone do so one after the other. -/
theorem inTurn_eq_self {components : List SimpleEffect} {inputs : ProjectionInputs}
    (still : ∀ component ∈ components, component.transform.transform inputs = inputs) :
    inTurn components inputs = inputs := by
  induction components with
  | nil => rfl
  | cons component components ih =>
    obtain ⟨first, others⟩ := List.forall_mem_cons.mp still
    rw [inTurn, List.foldl_cons, first]
    exact ih others

/-! ## Applicability -/

/-- Source `is_applicable`, on a collection of class names. -/
def isApplicableTo (values : List Text) (covenantClass : Text) : Except PyError Bool := do
  let requested ← Catalogue.normalizeCovenantClass covenantClass
  let names ← values.mapM Catalogue.ClassName.make
  let classes ← Catalogue.ClassSet.ofNames names
  return isApplicable classes.texts requested

theorem isApplicable_mono {classes classes' : Finset Text} (sub : classes ⊆ classes')
    {requested : Text} (fits : isApplicable classes requested = true) :
    isApplicable classes' requested = true := by
  obtain ⟨configured, listed, matched⟩ := of_decide_eq_true fits
  exact decide_eq_true ⟨configured, sub listed, matched⟩

theorem isApplicableTo_eq_ok_iff {values : List Text} {covenantClass : Text} {verdict : Bool} :
    isApplicableTo values covenantClass = .ok verdict ↔
      ∃ requested names, Catalogue.normalizeCovenantClass covenantClass = .ok requested ∧
        values.mapM Catalogue.ClassName.make = .ok names ∧ names ≠ [] ∧
          isApplicable (names.toFinset.image (·.text)) requested = verdict := by
  constructor
  · intro returned
    obtain ⟨requested, normal, rest⟩ := Except.bind_eq_ok_iff.mp returned
    obtain ⟨names, named, rest⟩ := Except.bind_eq_ok_iff.mp rest
    obtain ⟨classes, built, last⟩ := Except.bind_eq_ok_iff.mp rest
    unfold Catalogue.ClassSet.ofNames at built
    split_ifs at built with nonempty
    cases built
    cases last
    refine ⟨requested, names, normal, named, ?_, rfl⟩
    rintro rfl
    exact Finset.not_nonempty_empty nonempty
  · rintro ⟨requested, names, normal, named, some, rfl⟩
    have nonempty : names.toFinset.Nonempty := (List.toFinset_nonempty_iff names).mpr some
    have built : Catalogue.ClassSet.ofNames names = .ok ⟨names.toFinset, nonempty⟩ :=
      dif_pos nonempty
    exact Except.bind_eq_ok_iff.mpr ⟨requested, normal, Except.bind_eq_ok_iff.mpr ⟨names, named,
      Except.bind_eq_ok_iff.mpr ⟨_, built, rfl⟩⟩⟩

/-- The verdict does not depend on the order of the classes. -/
theorem isApplicableTo_perm {values values' : List Text} (perm : values.Perm values')
    {covenantClass : Text} {verdict : Bool}
    (returned : isApplicableTo values covenantClass = .ok verdict) :
    isApplicableTo values' covenantClass = .ok verdict := by
  obtain ⟨requested, names, normal, named, some, rfl⟩ := isApplicableTo_eq_ok_iff.mp returned
  obtain ⟨names', named', same⟩ := mapM_perm perm named
  refine isApplicableTo_eq_ok_iff.mpr ⟨requested, names', normal, named', ?_, ?_⟩
  · rintro rfl
    exact some same.eq_nil
  · rw [List.toFinset_eq_of_perm _ _ same]

/-- A class added to the others does not make them inapplicable. -/
theorem isApplicableTo_cons {values : List Text} {value covenantClass : Text} {verdict : Bool}
    (fits : isApplicableTo values covenantClass = .ok true)
    (returned : isApplicableTo (value :: values) covenantClass = .ok verdict) : verdict = true := by
  obtain ⟨requested, names, normal, named, _, applicable⟩ := isApplicableTo_eq_ok_iff.mp fits
  obtain ⟨requested', names', normal', named', _, rfl⟩ := isApplicableTo_eq_ok_iff.mp returned
  rw [normal] at normal'
  cases normal'
  obtain ⟨name, others, _, rest, rfl⟩ := List.forall₂_cons_left_iff.mp (mapM_eq_ok_iff.mp named')
  have same : others = names := by
    have read := mapM_eq_ok_iff.mpr rest
    rw [named] at read
    exact (Except.ok.inj read).symm
  subst same
  apply isApplicable_mono _ applicable
  apply Finset.image_subset_image
  rw [List.toFinset_cons]
  exact Finset.subset_insert name _

/-! ## Combinations -/

/-- A combination transforms the inputs as its components do one after the other, in the order
    they are given and in the order it applies them, and so it does where it is applied. It
    changes the inputs only if a component does, and exactly when the level shifts do not add up
    to nothing, the rate changes do not multiply to one, or the pressure or the threshold is
    relieved. The verdict on applicability does not depend on the order of the classes, and a
    class added to them does not take it back. -/
theorem combination_in_turn (components : List SimpleEffect) (assumptions : List (BoundedText 500))
    (classes : Finset Text) (several : 2 ≤ components.length) (inputs : ProjectionInputs)
    (covenantClass : Text) :
    let effect := InterventionEffect.combination components assumptions classes several
    effect.transform inputs = inTurn components inputs ∧
    effect.transform inputs = inTurn (orderedComponents components) inputs ∧
    (∀ transformed, effect.apply inputs covenantClass = .ok transformed ↔
      isApplicable classes covenantClass = true ∧
        components.foldlM (fun state component => component.apply state covenantClass) inputs =
          .ok transformed) ∧
    (effect.transform inputs ≠ inputs →
      ∃ component ∈ components, component.transform.transform inputs ≠ inputs) ∧
    (effect.transform inputs ≠ inputs ↔
      (inputs.currentValue ≠ none ∧ (components.map (·.transform.shift)).sum ≠ 0) ∨
      (inputs.perDayDrift ≠ 0 ∧ (components.map (·.transform.factor)).prod ≠ 1) ∨
      ∃ component ∈ components,
        component.isRelief = true ∧ component.transform.transform inputs ≠ inputs) ∧
    (∀ values values' verdict, values.Perm values' →
      isApplicableTo values covenantClass = .ok verdict →
        isApplicableTo values' covenantClass = .ok verdict) ∧
    ∀ values value verdict, isApplicableTo values covenantClass = .ok true →
      isApplicableTo (value :: values) covenantClass = .ok verdict → verdict = true := by
  intro effect
  have turned : effect.transform inputs = inTurn components inputs :=
    inTurn_perm (orderedComponents_perm components) inputs
  refine ⟨turned, rfl, fun _ => apply_combination_iff, ?_, ?_,
    fun _ _ _ perm returned => isApplicableTo_perm perm returned,
    fun _ _ _ fits returned => isApplicableTo_cons fits returned⟩
  · intro changes
    by_contra none
    push Not at none
    exact changes (turned.trans (inTurn_eq_self none))
  · rw [turned]
    exact inTurn_ne_iff

/-- A shift of the level, applicable anywhere. -/
def plainShift (amount : ℚ) (bounded : -1000000 ≤ amount ∧ amount ≤ 1000000) : SimpleEffect :=
  ⟨.levelShift amount bounded, [], {"*".toList}⟩

/-- A shift up and the same shift down, one after the other, leave a value where it was. -/
theorem combination_in_turn_shifts :
    let components := [plainShift 1 (by norm_num), plainShift (-1) (by norm_num)]
    let inputs : ProjectionInputs := ⟨some 1, 0, .max, 0, 0, le_refl 0⟩
    let effect := InterventionEffect.combination components [] ∅ (le_refl 2)
    effect.transform inputs = inTurn components inputs ∧ effect.transform inputs = inputs := by
  intro components inputs effect
  obtain ⟨turned, _, _, _, changes, _⟩ :=
    combination_in_turn components [] ∅ (le_refl 2) inputs "leverage".toList
  refine ⟨turned, ?_⟩
  by_contra changed
  rcases changes.mp changed with ⟨_, shifts⟩ | ⟨drift, _⟩ | ⟨component, listed, relief, _⟩
  · exact shifts (by norm_num [components, plainShift, Transform.shift])
  · exact drift rfl
  · simp only [components, List.mem_cons, List.not_mem_nil, or_false] at listed
    rcases listed with rfl | rfl
    · cases relief
    · cases relief

/-- Two opposite shifts change the inputs and their combination does not, and a class added to
    the others makes an intervention applicable. -/
theorem opposite_shifts_cancel :
    (¬ ∀ (components : List SimpleEffect) (assumptions : List (BoundedText 500))
        (classes : Finset Text) (several : 2 ≤ components.length) (inputs : ProjectionInputs),
      (InterventionEffect.combination components assumptions classes several).transform inputs ≠
        inputs ↔ ∃ component ∈ components, component.transform.transform inputs ≠ inputs) ∧
    ¬ ∀ (values : List Text) (value covenantClass : Text),
      isApplicableTo values covenantClass = .ok false →
        isApplicableTo (value :: values) covenantClass ≠ .ok true := by
  constructor
  · intro iff
    let inputs : ProjectionInputs := ⟨some 1, 0, .max, 0, 0, le_refl 0⟩
    let up := plainShift 1 (by norm_num)
    let down := plainShift (-1) (by norm_num)
    have changes : up.transform.transform inputs ≠ inputs := by
      intro same
      have moved := congrArg ProjectionInputs.currentValue same
      have sum : (1 : ℚ) + 1 = 1 := Option.some.inj moved
      norm_num at sum
    apply (iff [up, down] [] ∅ (le_refl 2) inputs).mpr ⟨up, List.mem_cons_self, changes⟩
    have order : orderedComponents [up, down] = [up, down] := rfl
    have turned := (changed_inTurn [up, down] inputs).eq_iff.mpr
      ⟨Or.inr (by norm_num [up, down, plainShift, Transform.shift]), Or.inl rfl,
        by norm_num [up, down, plainShift, Transform.relief], Or.inl rfl⟩
    exact turned
  · intro monotone
    exact monotone ["leverage".toList] "coverage".toList "coverage".toList (by decide) (by decide)

end Interventions

end CovenantRadar
