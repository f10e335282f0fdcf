import CovenantRadar.Statements.Normalise

/-!
# What a normalised statement holds

The assignment of values to lines that a chart and a raw extract determine, and that `normalise`
returns it: whatever the order of the definitions, and in proportion to the unit.
-/

namespace CovenantRadar

namespace Statements

/-! ## The assignment -/

/-- The extract supplies this amount for a line. -/
def Supplied (raw : RawExtract) (code : Text) (amount : ℚ) : Prop :=
  ∃ value, raw.get code = some value ∧ toDecimal code value = .ok amount

/-- A supplied line that respects its sign convention keeps its value, one that does not has no
    value, a derived line that is not supplied is the sum of its terms when all of them have a
    value, and nothing else has a value. -/
structure IsAssignment (definitions : Definitions) (raw : RawExtract) (factor : ℚ)
    (value : Text → Option ℚ) : Prop where
  kept : ∀ line ∈ definitions.lines, ∀ amount, Supplied raw line.code amount →
    ¬ Violates line amount → value line.code = some (amount * factor)
  refused : ∀ line ∈ definitions.lines, ∀ amount, Supplied raw line.code amount →
    Violates line amount → value line.code = none
  derived : ∀ line ∈ definitions.lines, raw.get line.code = none →
    ∀ terms, line.derivation = some terms → value line.code = derivedValue value terms
  missing : ∀ line ∈ definitions.lines, raw.get line.code = none →
    line.derivation = none → value line.code = none
  outside : ∀ code, code ∉ definitions.codes → value code = none

/-- A supplied line that violates its sign convention. -/
def Flagged (definitions : Definitions) (raw : RawExtract) (code : Text) : Prop :=
  ∃ line ∈ definitions.lines, line.code = code ∧
    ∃ amount, Supplied raw code amount ∧ Violates line amount

/-- A sum is resolved when every term is, and not otherwise. -/
theorem derivedValue_eq_some_iff {value : Text → Option ℚ} {terms : List DerivationTerm}
    {total : ℚ} :
    derivedValue value terms = some total ↔
      (∀ term ∈ terms, ∃ amount, value term.code = some amount) ∧
        total = signedSum (fun code => (value code).getD 0) terms := by
  have all : (terms.all fun term => (value term.code).isSome) = true ↔
      ∀ term ∈ terms, ∃ amount, value term.code = some amount := by
    simp [Option.isSome_iff_exists]
  unfold derivedValue
  rw [← all]
  by_cases resolved : (terms.all fun term => (value term.code).isSome) = true
  · rw [if_pos resolved, Option.some.injEq]
    exact ⟨fun same => ⟨resolved, same.symm⟩, fun same => same.2.symm⟩
  · rw [if_neg resolved]
    constructor
    · intro same
      cases same
    · intro same
      exact absurd same.1 resolved

theorem derivedValue_congr {value value' : Text → Option ℚ} {terms : List DerivationTerm}
    (same : ∀ term ∈ terms, value term.code = value' term.code) :
    derivedValue value terms = derivedValue value' terms := by
  have all : (terms.all fun term => (value term.code).isSome) =
      terms.all fun term => (value' term.code).isSome := by
    rw [Bool.eq_iff_iff, List.all_eq_true, List.all_eq_true]
    exact forall₂_congr fun term member => by rw [same term member]
  have sums : signedSum (fun code => (value code).getD 0) terms =
      signedSum (fun code => (value' code).getD 0) terms := by
    unfold signedSum
    congr 1
    exact List.map_congr_left fun term member => by simp only [same term member]
  rw [derivedValue, derivedValue, all, sums]

/-! ## What the loops leave -/

namespace Resolution

/-- The value of a line, and whether it is flagged. -/
def view (resolution : Resolution) (code : Text) : Option ℚ × Bool :=
  (resolution.value code, (resolution.flags.map (·.code)).contains code)

@[simp] theorem value_flag (resolution : Resolution) (code other : Text) (amount : ℚ) :
    (resolution.flag code amount).value other = resolution.value other := rfl

@[simp] theorem view_report (resolution : Resolution) (code other : Text) (supplied : ℚ)
    (derived : Option ℚ) (tolerance : ℚ) :
    (resolution.report code supplied derived tolerance).view other = resolution.view other := by
  unfold report
  cases derived with
  | none => rfl
  | some derived =>
    simp only
    split_ifs <;> rfl

theorem value_set (resolution : Resolution) (code other : Text) (amount : ℚ) :
    (resolution.set code amount).value other =
      (resolution.value other).or (if code = other then some amount else none) := by
  unfold value set
  rw [List.find?_append, List.find?_singleton, Option.map_or]
  congr 1
  by_cases same : code = other <;> simp [same]

/-- A step that only touches one line, and makes this of it when it is fresh. -/
structure Settles (resolution after : Resolution) (code : Text) (outcome : Option ℚ × Bool) :
    Prop where
  others : ∀ other, other ≠ code → after.view other = resolution.view other
  here : resolution.view code = (none, false) → after.view code = outcome

theorem settles_refl (resolution : Resolution) (code : Text) :
    Settles resolution resolution code (none, false) where
  others := fun _ _ => rfl
  here := fun fresh => fresh

theorem settles_set (resolution : Resolution) (code : Text) (amount : ℚ) :
    Settles resolution (resolution.set code amount) code (some amount, false) where
  others := by
    intro other apart
    unfold view
    rw [value_set, if_neg (Ne.symm apart), Option.or_none]
    rfl
  here := by
    intro fresh
    unfold view at fresh ⊢
    rw [Prod.mk.injEq] at fresh
    rw [value_set, fresh.1, if_pos rfl]
    exact Prod.ext rfl fresh.2

theorem settles_flag (resolution : Resolution) (code : Text) (amount : ℚ) :
    Settles resolution (resolution.flag code amount) code (none, true) where
  others := by
    intro other apart
    simp [view, flag, value, apart]
  here := by
    intro fresh
    unfold view at fresh ⊢
    rw [Prod.mk.injEq] at fresh
    rw [value_flag, fresh.1]
    simp [flag]

theorem Settles.report {resolution after : Resolution} {code : Text} {outcome : Option ℚ × Bool}
    (settles : Settles resolution after code outcome) (supplied : ℚ) (derived : Option ℚ)
    (tolerance : ℚ) :
    Settles resolution (after.report code supplied derived tolerance) code outcome where
  others := fun other apart => by rw [view_report, settles.others other apart]
  here := fun fresh => by rw [view_report, settles.here fresh]

end Resolution

/-- What a step makes of a line that had no value: the supplied amount, or the flag. -/
def suppliedView (line : LineDefinition) (amount : ℚ) : Option ℚ × Bool :=
  if Violates line amount then (none, true) else (some amount, false)

/-- What the first loop makes of a line. -/
theorem baseStep_settles {raw : RawExtract} {unit : Text} {resolution after : Resolution}
    {line : LineDefinition} (returned : baseStep raw unit resolution line = .ok after) :
    (line.isDerived = true ∨ raw.get line.code = none) ∧
      Resolution.Settles resolution after line.code (none, false) ∨
    line.isDerived = false ∧ ∃ value amount, raw.get line.code = some value ∧
      resolveRawValue line.code value unit = .ok amount ∧
      Resolution.Settles resolution after line.code (suppliedView line amount) := by
  unfold baseStep at returned
  by_cases derived : line.isDerived = true
  · rw [if_pos derived] at returned
    cases returned
    exact .inl ⟨.inl derived, Resolution.settles_refl resolution line.code⟩
  rw [if_neg derived] at returned
  cases given : raw.get line.code with
  | none =>
    simp only [given] at returned
    cases returned
    exact .inl ⟨.inr rfl, Resolution.settles_refl resolution line.code⟩
  | some value =>
    simp only [given] at returned
    cases read : resolveRawValue line.code value unit with
    | error error =>
      rw [read] at returned
      cases returned
    | ok amount =>
      rw [read] at returned
      cases returned
      refine .inr ⟨by simpa using derived, value, amount, rfl, read, ?_⟩
      unfold suppliedView
      by_cases violates : Violates line amount
      · simp only [if_pos violates]
        exact Resolution.settles_flag resolution line.code amount
      · simp only [if_neg violates]
        exact Resolution.settles_set resolution line.code amount

/-- What the second loop makes of a derived line. -/
theorem derivedStep_settles {raw : RawExtract} {unit : Text} {tolerance : ℚ}
    {resolution after : Resolution} {line : LineDefinition} {terms : List DerivationTerm}
    (returned : derivedStep raw unit tolerance resolution line terms = .ok after) :
    raw.get line.code = none ∧ Resolution.Settles resolution after line.code
      (derivedValue resolution.value terms, false) ∨
    ∃ value amount, raw.get line.code = some value ∧
      resolveRawValue line.code value unit = .ok amount ∧
      Resolution.Settles resolution after line.code (suppliedView line amount) := by
  unfold derivedStep at returned
  cases given : raw.get line.code with
  | none =>
    simp only [given] at returned
    cases derived : derivedValue resolution.value terms with
    | none =>
      rw [derived] at returned
      cases returned
      exact .inl ⟨rfl, Resolution.settles_refl resolution line.code⟩
    | some amount =>
      rw [derived] at returned
      cases returned
      exact .inl ⟨rfl, Resolution.settles_set resolution line.code amount⟩
  | some value =>
    simp only [given] at returned
    cases read : resolveRawValue line.code value unit with
    | error error =>
      rw [read] at returned
      cases returned
    | ok amount =>
      rw [read] at returned
      cases returned
      refine .inr ⟨value, amount, rfl, read, ?_⟩
      unfold suppliedView
      by_cases violates : Violates line amount
      · simp only [if_pos violates]
        exact Resolution.settles_flag resolution line.code amount
      · simp only [if_neg violates]
        exact (Resolution.settles_set resolution line.code amount).report _ _ _

namespace Chart

/-- What the second loop makes of a code of the derivation order. -/
theorem deriveLines_cases {chart : Chart} {raw : RawExtract} {unit : Text} {tolerance : ℚ}
    {resolution after : Resolution} {code : Text}
    (returned : chart.deriveLines raw unit tolerance resolution code = .ok after) :
    ∃ line, chart.definitions.find code = some line ∧
      (line.derivation = none ∧ after = resolution ∨
        ∃ terms, line.derivation = some terms ∧
          derivedStep raw unit tolerance resolution line terms = .ok after) := by
  unfold deriveLines at returned
  cases found : chart.definitions.find code with
  | none =>
    rw [found] at returned
    cases returned
  | some line =>
    simp only [found] at returned
    refine ⟨line, rfl, ?_⟩
    cases derived : line.derivation with
    | none =>
      simp only [derived] at returned
      exact .inl ⟨rfl, (Except.ok.inj returned).symm⟩
    | some terms =>
      simp only [derived] at returned
      exact .inr ⟨terms, rfl, returned⟩

theorem deriveLines_frame {chart : Chart} {raw : RawExtract} {unit : Text} {tolerance : ℚ}
    (resolution : Resolution) (code : Text) (after : Resolution)
    (returned : chart.deriveLines raw unit tolerance resolution code = .ok after) (other : Text)
    (apart : other ≠ id code) : after.view other = resolution.view other := by
  obtain ⟨line, found, ⟨_, rfl⟩ | ⟨terms, _, step⟩⟩ := deriveLines_cases returned
  · rfl
  · have same : line.code = code := (Definitions.find_eq_some_iff.mp found).2
    rw [id, ← same] at apart
    obtain ⟨_, settles⟩ | ⟨_, _, _, _, settles⟩ := derivedStep_settles step
    · exact settles.others other apart
    · exact settles.others other apart

theorem baseStep_frame {raw : RawExtract} {unit : Text} (resolution : Resolution)
    (line : LineDefinition) (after : Resolution)
    (returned : baseStep raw unit resolution line = .ok after) (other : Text)
    (apart : other ≠ line.code) : after.view other = resolution.view other := by
  obtain ⟨_, settles⟩ | ⟨_, _, _, _, _, settles⟩ := baseStep_settles returned
  · exact settles.others other apart
  · exact settles.others other apart

/-- What the two loops leave at a line: the supplied amount or its flag, or the sum of the terms
    as they are in the end. -/
theorem resolve_view {chart : Chart} {raw : RawExtract} {unit : Text} {tolerance : ℚ}
    {final : Resolution} (returned : chart.resolve raw unit tolerance = .ok final)
    {line : LineDefinition} (listed : line ∈ chart.definitions.lines) :
    (∃ value amount, raw.get line.code = some value ∧
      resolveRawValue line.code value unit = .ok amount ∧
      final.view line.code = suppliedView line amount) ∨
    raw.get line.code = none ∧
      ((line.derivation = none ∧ final.view line.code = (none, false)) ∨
        ∃ terms, line.derivation = some terms ∧
          final.view line.code = (derivedValue final.value terms, false)) := by
  obtain ⟨base, first, second⟩ := Except.bind_eq_ok_iff.mp returned
  obtain ⟨⟨once, after⟩, ordered⟩ := chart.derivationOrder_ordered
  have known : chart.definitions.find line.code = some line :=
    Definitions.find_eq_some_iff.mpr ⟨listed, rfl⟩
  obtain ⟨before, rest, split⟩ := List.append_of_mem listed
  have distinct := chart.definitions.distinct
  rw [split] at first distinct
  -- the first loop, up to the line and past it
  obtain ⟨current, next, _, step, atLine, start, _⟩ := foldlM_at baseStep_frame first distinct
  have fresh : current.view line.code = (none, false) := start
  obtain ⟨skipped, settles⟩ | ⟨base', value, amount, given, read, settles⟩ :=
    baseStep_settles step
  · have untouched : base.view line.code = (none, false) := atLine.trans (settles.here fresh)
    cases derived : line.derivation with
    | none =>
      have unlisted : line.code ∉ chart.derivationOrder := by
        intro member
        obtain ⟨other, found, isDerived⟩ := (ordered line.code).mp member
        rw [known] at found
        cases found
        rw [line.consistent, derived] at isDerived
        cases isDerived
      have bare : raw.get line.code = none := by
        rcases skipped with isDerived | bare
        · rw [line.consistent, derived] at isDerived
          cases isDerived
        · exact bare
      refine .inr ⟨bare, .inl ⟨rfl, ?_⟩⟩
      rw [foldlM_frame deriveLines_frame second (by simpa using unlisted), untouched]
    | some terms =>
      have member : line.code ∈ chart.derivationOrder :=
        (ordered line.code).mpr ⟨line, known, by rw [line.consistent, derived]; rfl⟩
      obtain ⟨before', rest', split'⟩ := List.append_of_mem member
      rw [split'] at second once
      -- the second loop: the terms of the line are settled before it
      obtain ⟨current', next', _, step', atLine', start', later⟩ :=
        foldlM_at deriveLines_frame second (by simpa using once)
      have fresh' : current'.view line.code = (none, false) := start'.trans untouched
      obtain ⟨other, found, ⟨none', _⟩ | ⟨terms', derived', step''⟩⟩ := deriveLines_cases step'
      · rw [known] at found
        cases found
        rw [derived] at none'
        cases none'
      · rw [known] at found
        cases found
        rw [derived] at derived'
        cases derived'
        obtain ⟨bare, settles'⟩ | ⟨value, amount, given, read, settles'⟩ :=
          derivedStep_settles step''
        · refine .inr ⟨bare, .inr ⟨terms, rfl, ?_⟩⟩
          have same : ∀ term ∈ terms, final.value term.code = current'.value term.code := by
            intro term listed'
            have depends : DepthFirst.Depends chart.definitions.derivations line.code term.code :=
              Definitions.depends_iff.mpr
                ⟨line, listed, rfl, terms, derived, List.mem_map_of_mem listed'⟩
            have settled := after before' line.code rest' split' term.code depends
            exact congrArg Prod.fst (later term.code (by simpa using settled))
          rw [derivedValue_congr same]
          exact atLine'.trans (settles'.here fresh')
        · exact .inl ⟨value, amount, given, read, atLine'.trans (settles'.here fresh')⟩
  · have unlisted : line.code ∉ chart.derivationOrder := by
      intro member
      obtain ⟨other, found, isDerived⟩ := (ordered line.code).mp member
      rw [known] at found
      cases found
      rw [base'] at isDerived
      cases isDerived
    refine .inl ⟨value, amount, given, read, ?_⟩
    rw [foldlM_frame deriveLines_frame second (by simpa using unlisted)]
    exact atLine.trans (settles.here fresh)

/-- A code outside the chart is never given a value. -/
theorem resolve_view_outside {chart : Chart} {raw : RawExtract} {unit : Text} {tolerance : ℚ}
    {final : Resolution} (returned : chart.resolve raw unit tolerance = .ok final) {code : Text}
    (outside : code ∉ chart.definitions.codes) : final.view code = (none, false) := by
  obtain ⟨base, first, second⟩ := Except.bind_eq_ok_iff.mp returned
  have unlisted : code ∉ chart.derivationOrder := by
    intro member
    obtain ⟨line, found, _⟩ := (chart.derivationOrder_ordered.2 code).mp member
    exact outside (Definitions.mem_codes_iff.mpr ⟨line, found⟩)
  rw [foldlM_frame deriveLines_frame second (by simpa using unlisted),
    foldlM_frame baseStep_frame first outside]
  rfl

end Chart

/-! ## Units -/

theorem unitFactor_pos {unit : Text} {factor : ℚ} (known : unitFactor unit = some factor) :
    0 < factor := by
  unfold unitFactor at known
  obtain ⟨entry, found, rfl⟩ := Option.map_eq_some_iff.mp known
  have member := List.mem_of_find?_eq_some found
  simp only [unitFactors, List.mem_cons, List.not_mem_nil, or_false] at member
  rcases member with rfl | rfl | rfl | rfl <;> norm_num

theorem resolveRawValue_eq_ok_iff {code unit : Text} {value : RawValue} {scaled : ℚ} :
    resolveRawValue code value unit = .ok scaled ↔
      ∃ amount factor, toDecimal code value = .ok amount ∧ unitFactor unit = some factor ∧
        scaled = amount * factor := by
  unfold resolveRawValue convertUnit
  rw [Except.bind_eq_ok_iff]
  cases known : unitFactor unit with
  | none => simp [chartError]
  | some factor => simp [eq_comm]

/-- A factor does not change the sign of an amount. -/
theorem violates_scaled {line : LineDefinition} {amount factor : ℚ} (positive : 0 < factor) :
    Violates line (amount * factor) ↔ Violates line amount := by
  unfold Violates
  rw [mul_neg_iff]
  simp [positive, not_lt_of_gt positive]

/-! ## The normalised statement -/

namespace Chart

variable {chart : Chart} {raw : RawExtract} {unit : Text} {tolerance : ℚ}
  {result : NormalisationResult}

/-- A statement that was normalised has known codes only, and shows what the loops left. -/
theorem normalise_eq_ok (returned : chart.normalise raw unit tolerance = .ok result) :
    chart.unknownCodes raw = [] ∧ ∃ final, chart.resolve raw unit tolerance = .ok final ∧
      result.lines = final.resolved ∧ result.flags = final.flags := by
  unfold normalise at returned
  by_cases known : chart.unknownCodes raw = []
  · simp only [known, ne_eq, not_true_eq_false, if_false] at returned
    cases resolved : chart.resolve raw unit tolerance with
    | error error =>
      rw [resolved] at returned
      cases returned
    | ok final =>
      rw [resolved] at returned
      cases returned
      exact ⟨known, final, rfl, rfl, rfl⟩
  · simp only [ne_eq, known, not_false_eq_true, if_true] at returned
    cases returned

/-- What `normalise` returns is the assignment, with the violating lines flagged. The unit may be
    an unknown one when nothing is supplied. -/
theorem normalise_assigns (returned : chart.normalise raw unit tolerance = .ok result)
    {factor : ℚ} (positive : 0 < factor)
    (known : ∀ other, unitFactor unit = some other → other = factor) :
    IsAssignment chart.definitions raw factor result.value ∧
      ∀ code, code ∈ result.flags.map (·.code) ↔ Flagged chart.definitions raw code := by
  obtain ⟨_, final, resolved, lines, flags⟩ := normalise_eq_ok returned
  have value : result.value = final.value := by
    unfold NormalisationResult.value Resolution.value
    rw [lines]
  have flagged : ∀ code, code ∈ result.flags.map (·.code) ↔ (final.view code).2 = true := by
    intro code
    rw [flags, Resolution.view, List.contains_iff_mem]
  have atLine := fun line (listed : line ∈ chart.definitions.lines) => resolve_view resolved listed
  -- a supplied amount, scaled, is what its line shows
  have shows : ∀ line ∈ chart.definitions.lines, ∀ amount, Supplied raw line.code amount →
      final.view line.code = suppliedView line (amount * factor) := by
    rintro line listed amount ⟨value, given, numeric⟩
    obtain ⟨value', scaled, given', read, view⟩ | ⟨bare, _⟩ := atLine line listed
    · rw [given] at given'
      cases given'
      obtain ⟨amount', factor', numeric', known', rfl⟩ := resolveRawValue_eq_ok_iff.mp read
      rw [numeric] at numeric'
      cases numeric'
      cases known _ known'
      exact view
    · rw [given] at bare
      cases bare
  rw [value]
  refine ⟨⟨?_, ?_, ?_, ?_, ?_⟩, ?_⟩
  · intro line listed amount supplied allowed
    have view := shows line listed amount supplied
    rw [suppliedView, if_neg ((violates_scaled positive).not.mpr allowed)] at view
    exact congrArg Prod.fst view
  · intro line listed amount supplied violates
    have view := shows line listed amount supplied
    rw [suppliedView, if_pos ((violates_scaled positive).mpr violates)] at view
    exact congrArg Prod.fst view
  · intro line listed bare terms derived
    obtain ⟨_, _, given, _⟩ | ⟨_, ⟨none', _⟩ | ⟨terms', derived', view⟩⟩ := atLine line listed
    · rw [bare] at given
      cases given
    · rw [derived] at none'
      cases none'
    · rw [derived] at derived'
      cases derived'
      exact congrArg Prod.fst view
  · intro line listed bare none'
    obtain ⟨_, _, given, _⟩ | ⟨_, ⟨_, view⟩ | ⟨terms, derived, _⟩⟩ := atLine line listed
    · rw [bare] at given
      cases given
    · exact congrArg Prod.fst view
    · rw [none'] at derived
      cases derived
  · intro code outside
    exact congrArg Prod.fst (resolve_view_outside resolved outside)
  · intro code
    rw [flagged code]
    constructor
    · intro marked
      by_cases inside : code ∈ chart.definitions.codes
      · obtain ⟨line, found⟩ := Definitions.mem_codes_iff.mp inside
        obtain ⟨listed, rfl⟩ := Definitions.find_eq_some_iff.mp found
        obtain ⟨value, scaled, given, read, view⟩ | ⟨_, ⟨_, view⟩ | ⟨_, _, view⟩⟩ :=
          atLine line listed
        · obtain ⟨amount, factor', numeric, known', rfl⟩ := resolveRawValue_eq_ok_iff.mp read
          refine ⟨line, listed, rfl, amount, ⟨value, given, numeric⟩, ?_⟩
          by_contra allowed
          rw [view, suppliedView,
            if_neg ((violates_scaled (unitFactor_pos known')).not.mpr allowed)] at marked
          cases marked
        · rw [view] at marked
          cases marked
        · rw [view] at marked
          cases marked
      · rw [resolve_view_outside resolved inside] at marked
        cases marked
    · rintro ⟨line, listed, rfl, amount, supplied, violates⟩
      rw [shows line listed amount supplied, suppliedView,
        if_pos ((violates_scaled positive).mpr violates)]

/-- The extract can be normalised: its codes are known, and each supplied value is a number in a
    known unit. -/
def Accepts (chart : Chart) (raw : RawExtract) (unit : Text) : Prop :=
  chart.unknownCodes raw = [] ∧
    ∀ line ∈ chart.definitions.lines, ∀ value, raw.get line.code = some value →
      (∃ amount, toDecimal line.code value = .ok amount) ∧ ∃ factor, unitFactor unit = some factor

/-- `normalise` returns on the extracts it accepts, and raises on the others. -/
theorem normalise_returns_iff :
    (∃ result, chart.normalise raw unit tolerance = .ok result) ↔ chart.Accepts raw unit := by
  constructor
  · rintro ⟨result, returned⟩
    obtain ⟨known, final, resolved, _⟩ := normalise_eq_ok returned
    refine ⟨known, fun line listed value given => ?_⟩
    obtain ⟨value', scaled, given', read, _⟩ | ⟨bare, _⟩ := resolve_view resolved listed
    · rw [given] at given'
      cases given'
      obtain ⟨amount, factor, numeric, unit', _⟩ := resolveRawValue_eq_ok_iff.mp read
      exact ⟨⟨amount, numeric⟩, factor, unit'⟩
    · rw [given] at bare
      cases bare
  · rintro ⟨known, numeric⟩
    have reads : ∀ line ∈ chart.definitions.lines, ∀ value, raw.get line.code = some value →
        ∃ scaled, resolveRawValue line.code value unit = .ok scaled := by
      intro line listed value given
      obtain ⟨⟨amount, read⟩, factor, unit'⟩ := numeric line listed value given
      exact ⟨_, resolveRawValue_eq_ok_iff.mpr ⟨amount, factor, read, unit', rfl⟩⟩
    have base : ∃ current, chart.definitions.lines.foldlM (baseStep raw unit) ⟨[], [], []⟩ =
        .ok current :=
      foldlM_returns (fun resolution line listed => by
        unfold baseStep
        by_cases derived : line.isDerived = true
        · exact ⟨resolution, if_pos derived⟩
        rw [if_neg derived]
        cases given : raw.get line.code with
        | none => exact ⟨resolution, rfl⟩
        | some value =>
          obtain ⟨scaled, read⟩ := reads line listed value given
          simp only [read]
          exact ⟨_, rfl⟩) _
    obtain ⟨current, first⟩ := base
    have derive : ∃ final, chart.derivationOrder.foldlM (chart.deriveLines raw unit tolerance)
        current = .ok final :=
      foldlM_returns (fun resolution code member => by
        obtain ⟨line, found, _⟩ := (chart.derivationOrder_ordered.2 code).mp member
        have listed := (Definitions.find_eq_some_iff.mp found).1
        unfold deriveLines
        simp only [found]
        cases line.derivation with
        | none => exact ⟨resolution, rfl⟩
        | some terms =>
          unfold derivedStep
          cases given : raw.get line.code with
          | none =>
            simp only
            cases derivedValue resolution.value terms with
            | none => exact ⟨resolution, rfl⟩
            | some amount => exact ⟨_, rfl⟩
          | some value =>
            obtain ⟨scaled, read⟩ := reads line listed value given
            simp only [read]
            exact ⟨_, rfl⟩) _
    obtain ⟨final, second⟩ := derive
    have resolved : chart.resolve raw unit tolerance = .ok final :=
      Except.bind_eq_ok_iff.mpr ⟨current, first, second⟩
    unfold normalise
    simp only [known, ne_eq, not_true_eq_false, if_false, resolved]
    exact ⟨_, rfl⟩

/-- Following the derivations from any line comes to an end. -/
theorem accessible (chart : Chart) {code : Text} (defined : code ∈ chart.definitions.codes) :
    Acc (fun term code => chart.definitions.Derives code term) code := by
  obtain ⟨progress, returned, _⟩ := topologicalDerivationOrder_eq_ok_iff.mp chart.ordered
  obtain ⟨sound, visited⟩ := DepthFirst.visitAll_sound returned
  have member : code ∈ progress.done := by
    apply visited
    rw [Definitions.derivations, List.map_map]
    exact defined
  have same : (fun term code => DepthFirst.Depends chart.definitions.derivations code term) =
      fun term code => chart.definitions.Derives code term := by
    ext term code
    exact Definitions.depends_iff
  rw [← same]
  exact sound.accessible code member

/-- There is no other assignment: by induction along the derivations. -/
theorem assignment_unique (accepts : chart.Accepts raw unit) {factor : ℚ}
    {value value' : Text → Option ℚ} (first : IsAssignment chart.definitions raw factor value)
    (second : IsAssignment chart.definitions raw factor value') : value = value' := by
  funext code
  by_cases defined : code ∈ chart.definitions.codes
  · induction chart.accessible defined with
    | intro code _ ih =>
      obtain ⟨line, found⟩ := Definitions.mem_codes_iff.mp defined
      obtain ⟨listed, rfl⟩ := Definitions.find_eq_some_iff.mp found
      cases given : raw.get line.code with
      | some raw' =>
        obtain ⟨⟨amount, numeric⟩, _⟩ := accepts.2 line listed raw' given
        have supplied : Supplied raw line.code amount := ⟨raw', given, numeric⟩
        by_cases violates : Violates line amount
        · rw [first.refused line listed amount supplied violates,
            second.refused line listed amount supplied violates]
        · rw [first.kept line listed amount supplied violates,
            second.kept line listed amount supplied violates]
      | none =>
        cases derived : line.derivation with
        | none => rw [first.missing line listed given derived, second.missing line listed given derived]
        | some terms =>
          rw [first.derived line listed given terms derived,
            second.derived line listed given terms derived]
          apply derivedValue_congr
          intro term written
          have derives : chart.definitions.Derives line.code term.code :=
            ⟨line, listed, rfl, terms, derived, List.mem_map_of_mem written⟩
          exact ih term.code derives (chart.accepted.1 _ _ derives)
  · rw [first.outside code defined, second.outside code defined]

/-- The definitions in another order define the same statements. -/
theorem isAssignment_perm {definitions definitions' : Definitions} {factor : ℚ}
    {value : Text → Option ℚ} (perm : definitions.lines.Perm definitions'.lines)
    (assignment : IsAssignment definitions raw factor value) :
    IsAssignment definitions' raw factor value where
  kept := fun line listed => assignment.kept line (perm.mem_iff.mpr listed)
  refused := fun line listed => assignment.refused line (perm.mem_iff.mpr listed)
  derived := fun line listed => assignment.derived line (perm.mem_iff.mpr listed)
  missing := fun line listed => assignment.missing line (perm.mem_iff.mpr listed)
  outside := fun code undefined => assignment.outside code fun defined =>
    undefined ((perm.map (·.code)).mem_iff.mp defined)

theorem accepts_perm {other : Chart}
    (perm : chart.definitions.lines.Perm other.definitions.lines)
    (accepts : chart.Accepts raw unit) : other.Accepts raw unit := by
  refine ⟨?_, fun line listed => accepts.2 line (perm.mem_iff.mpr listed)⟩
  have known := accepts.1
  unfold unknownCodes at known ⊢
  rw [List.filter_eq_nil_iff] at known ⊢
  intro code member
  have same : code ∈ chart.definitions.codes ↔ code ∈ other.definitions.codes :=
    (perm.map (·.code)).mem_iff
  simpa [same] using known code member

/-- A common factor can be taken out of a sum. -/
theorem derivedValue_scaled (value : Text → Option ℚ) (terms : List DerivationTerm) (k : ℚ) :
    derivedValue (fun code => (value code).map (· * k)) terms =
      (derivedValue value terms).map (· * k) := by
  have sums : (∀ term ∈ terms, ∃ amount, value term.code = some amount) →
      signedSum (fun code => ((value code).map (· * k)).getD 0) terms =
        signedSum (fun code => (value code).getD 0) terms * k := by
    intro resolved
    unfold signedSum
    rw [← List.sum_map_mul_right]
    congr 1
    apply List.map_congr_left
    intro term member
    obtain ⟨amount, known⟩ := resolved term member
    simp only [known, Option.map_some, Option.getD_some]
    ring
  cases total : derivedValue value terms with
  | some amount =>
    obtain ⟨resolved, rfl⟩ := derivedValue_eq_some_iff.mp total
    rw [Option.map_some, derivedValue_eq_some_iff]
    refine ⟨fun term member => ?_, (sums resolved).symm⟩
    obtain ⟨amount, known⟩ := resolved term member
    exact ⟨amount * k, by simp [known]⟩
  | none =>
    rw [Option.map_none]
    by_contra some'
    obtain ⟨amount, total'⟩ := Option.ne_none_iff_exists'.mp some'
    obtain ⟨resolved, _⟩ := derivedValue_eq_some_iff.mp total'
    have whole := derivedValue_eq_some_iff.mpr ⟨fun term member => by
      obtain ⟨amount, known⟩ := resolved term member
      obtain ⟨amount', known', _⟩ := Option.map_eq_some_iff.mp known
      exact ⟨amount', known'⟩, rfl⟩
    rw [total] at whole
    cases whole

/-- The assignment of another unit is the same in proportion. -/
theorem isAssignment_scaled {definitions : Definitions} {factor k : ℚ} {value : Text → Option ℚ}
    (assignment : IsAssignment definitions raw factor value) :
    IsAssignment definitions raw (factor * k) fun code => (value code).map (· * k) where
  kept := by
    intro line listed amount supplied allowed
    rw [assignment.kept line listed amount supplied allowed, Option.map_some, mul_assoc]
  refused := by
    intro line listed amount supplied violates
    rw [assignment.refused line listed amount supplied violates, Option.map_none]
  derived := by
    intro line listed bare terms derived
    rw [assignment.derived line listed bare terms derived, derivedValue_scaled]
  missing := by
    intro line listed bare base
    rw [assignment.missing line listed bare base, Option.map_none]
  outside := by
    intro code undefined
    rw [assignment.outside code undefined, Option.map_none]

theorem accepts_unit {unit' : Text} {factor' : ℚ} (known : unitFactor unit' = some factor')
    (accepts : chart.Accepts raw unit) : chart.Accepts raw unit' :=
  ⟨accepts.1, fun line listed value given =>
    ⟨(accepts.2 line listed value given).1, factor', known⟩⟩

/-- The constructor and `normalise` together. The constructor accepts exactly the closed and
    acyclic definitions. On an accepted chart `normalise` returns for exactly the extracts of
    known codes and numeric values in a known unit; what it returns is the only assignment, and
    exactly the supplied lines against their sign convention are flagged. The order of the
    definitions does not matter, and another unit scales every value by the same factor. -/
theorem normalise_correct :
    (∀ definitions taxonomyVersion, (∃ chart, make definitions taxonomyVersion = .ok chart) ↔
      definitions.Closed ∧ definitions.Acyclic) ∧
    (∀ definitions taxonomyVersion chart, make definitions taxonomyVersion = .ok chart →
      chart.definitions = definitions) ∧
    (∀ (chart : Chart) (raw : RawExtract) (unit : Text) (tolerance : ℚ),
      (∃ result, chart.normalise raw unit tolerance = .ok result) ↔ chart.Accepts raw unit) ∧
    (∀ (chart : Chart) (raw : RawExtract) (unit : Text) (tolerance : ℚ)
      (result : NormalisationResult) (factor : ℚ),
      chart.normalise raw unit tolerance = .ok result → unitFactor unit = some factor →
      (∀ value, IsAssignment chart.definitions raw factor value ↔ value = result.value) ∧
      ∀ code, code ∈ result.flags.map (·.code) ↔ Flagged chart.definitions raw code) ∧
    (∀ (chart other : Chart) (raw : RawExtract) (unit : Text) (tolerance : ℚ)
      (result : NormalisationResult),
      chart.definitions.lines.Perm other.definitions.lines →
      chart.normalise raw unit tolerance = .ok result →
      ∃ result', other.normalise raw unit tolerance = .ok result' ∧
        result'.value = result.value) ∧
    ∀ (chart : Chart) (raw : RawExtract) (unit unit' : Text) (tolerance factor factor' : ℚ)
      (result : NormalisationResult),
      unitFactor unit = some factor → unitFactor unit' = some factor' →
      chart.normalise raw unit tolerance = .ok result →
      ∃ result', chart.normalise raw unit' tolerance = .ok result' ∧
        ∀ code, result'.value code = (result.value code).map (· * (factor' / factor)) := by
  refine ⟨make_returns_iff, ?_, fun _ _ _ _ => normalise_returns_iff, ?_, ?_, ?_⟩
  · intro definitions taxonomyVersion chart made
    exact make_definitions made
  · intro chart raw unit tolerance result factor returned known
    have accepts := normalise_returns_iff.mp ⟨result, returned⟩
    obtain ⟨assignment, flagged⟩ := normalise_assigns returned (unitFactor_pos known)
      (fun other known' => Option.some.inj (known'.symm.trans known))
    refine ⟨fun value => ?_, flagged⟩
    constructor
    · intro assignment'
      exact assignment_unique accepts assignment' assignment
    · rintro rfl
      exact assignment
  · intro chart other raw unit tolerance result perm returned
    have accepts := normalise_returns_iff.mp ⟨result, returned⟩
    have accepts' := accepts_perm perm accepts
    obtain ⟨result', returned'⟩ := normalise_returns_iff.mpr accepts'
    obtain ⟨factor, positive, known⟩ : ∃ factor : ℚ, 0 < factor ∧
        ∀ other, unitFactor unit = some other → other = factor := by
      cases known : unitFactor unit with
      | none => exact ⟨1, one_pos, fun other known' => by cases known'⟩
      | some factor =>
        exact ⟨factor, unitFactor_pos known, fun other known' => (Option.some.inj known').symm⟩
    have assignment := (normalise_assigns returned positive known).1
    have assignment' := (normalise_assigns returned' positive known).1
    exact ⟨result', returned',
      assignment_unique accepts' assignment' (isAssignment_perm perm assignment)⟩
  · intro chart raw unit unit' tolerance factor factor' result known known' returned
    have accepts := normalise_returns_iff.mp ⟨result, returned⟩
    have accepts' := accepts_unit known' accepts
    obtain ⟨result', returned'⟩ := normalise_returns_iff.mpr accepts'
    have assignment := (normalise_assigns returned (unitFactor_pos known)
      (fun other same => Option.some.inj (same.symm.trans known))).1
    have assignment' := (normalise_assigns returned' (unitFactor_pos known')
      (fun other same => Option.some.inj (same.symm.trans known'))).1
    have scaled := @isAssignment_scaled raw _ _ (factor' / factor) _ assignment
    rw [mul_div_cancel₀ _ (unitFactor_pos known).ne'] at scaled
    have same := assignment_unique accepts' assignment' scaled
    exact ⟨result', returned', fun code => congrFun same code⟩

/-- A gross profit derived from the revenue and the cost of goods sold. -/
def grossProfitDefinitions : Definitions where
  lines :=
    [{ code := "gross_profit".toList, signConvention := .signed, isDerived := true
       derivation := some
        [{ sign := 1, code := "revenue".toList },
          { sign := -1, code := "cost_of_goods_sold".toList }]
       consistent := rfl },
      { code := "revenue".toList, signConvention := .positive, isDerived := false
        derivation := none, consistent := rfl },
      { code := "cost_of_goods_sold".toList, signConvention := .positive, isDerived := false
        derivation := none, consistent := rfl }]
  distinct := by decide

/-- The extract supplies the two base lines, in lakh. -/
def grossProfitExtract : RawExtract where
  values := [("revenue".toList, .int 500), ("cost_of_goods_sold".toList, .int 200)]
  distinct := by decide

theorem grossProfit_derives {code term : Text}
    (derives : grossProfitDefinitions.Derives code term) :
    code = "gross_profit".toList ∧
      (term = "revenue".toList ∨ term = "cost_of_goods_sold".toList) := by
  obtain ⟨line, listed, rfl, terms, derived, member⟩ := derives
  simp only [grossProfitDefinitions, List.mem_cons, List.not_mem_nil, or_false] at listed
  rcases listed with rfl | rfl | rfl
  · cases derived
    simpa using member
  · cases derived
  · cases derived

/-- The sample chart is accepted, and its normalised gross profit is the difference in crore. -/
theorem normalise_correct_grossProfit :
    ∃ chart result, make grossProfitDefinitions [] = .ok chart ∧
      chart.normalise grossProfitExtract "lakh".toList 0 = .ok result ∧
      result.value "gross_profit".toList = some 3 := by
  obtain ⟨accepted, keeps, returns, assigns, _⟩ := normalise_correct
  have closed : grossProfitDefinitions.Closed := by
    intro code term derives
    rcases (grossProfit_derives derives).2 with rfl | rfl <;> decide
  have apart : ∀ {code term : Text}, Relation.TransGen grossProfitDefinitions.Derives code term →
      code = "gross_profit".toList ∧ term ≠ "gross_profit".toList := by
    intro code term path
    induction path with
    | single derives =>
      obtain ⟨rfl, rfl | rfl⟩ := grossProfit_derives derives <;> exact ⟨rfl, by decide⟩
    | tail _ derives ih =>
      obtain ⟨rfl, rfl | rfl⟩ := grossProfit_derives derives <;> exact ⟨ih.1, by decide⟩
  obtain ⟨chart, made⟩ := (accepted grossProfitDefinitions []).mpr
    ⟨closed, fun code path => (apart path).2 (apart path).1⟩
  have same := keeps _ _ _ made
  obtain ⟨result, returned⟩ := (returns chart grossProfitExtract "lakh".toList 0).mpr (by
    refine ⟨by unfold unknownCodes; rw [same]; decide, ?_⟩
    rw [same]
    intro line listed value given
    simp only [grossProfitDefinitions, List.mem_cons, List.not_mem_nil, or_false] at listed
    rcases listed with rfl | rfl | rfl
    · cases given
    · cases given
      exact ⟨⟨500, rfl⟩, 1 / 100, rfl⟩
    · cases given
      exact ⟨⟨200, rfl⟩, 1 / 100, rfl⟩)
  have assignment := ((assigns chart grossProfitExtract "lakh".toList 0 result (1 / 100) returned
    rfl).1 result.value).mpr rfl
  rw [same] at assignment
  have revenue : result.value "revenue".toList = some (500 * (1 / 100)) :=
    assignment.kept _ (List.mem_cons_of_mem _ List.mem_cons_self) 500 ⟨.int 500, rfl, rfl⟩
      (by decide)
  have cost : result.value "cost_of_goods_sold".toList = some (200 * (1 / 100)) :=
    assignment.kept _ (List.mem_cons_of_mem _ (List.mem_cons_of_mem _ List.mem_cons_self)) 200
      ⟨.int 200, rfl, rfl⟩ (by decide)
  refine ⟨chart, result, made, returned, ?_⟩
  refine (assignment.derived _ List.mem_cons_self rfl _ rfl).trans ?_
  rw [derivedValue_eq_some_iff]
  refine ⟨fun term member => ?_, ?_⟩
  · simp only [List.mem_cons, List.not_mem_nil, or_false] at member
    rcases member with rfl | rfl
    · exact ⟨_, revenue⟩
    · exact ⟨_, cost⟩
  · simp only [signedSum, List.map_cons, List.map_nil, List.sum_cons, List.sum_nil, revenue, cost,
      Option.getD_some]
    norm_num

end Chart

end Statements

end CovenantRadar
