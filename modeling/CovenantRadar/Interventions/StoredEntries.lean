import CovenantRadar.Interventions.Catalogue

/-!
# Stored catalogue entries

What `from_record` makes of the values `to_record_values` returns. The text of a decimal does
not keep a positive exponent, so the entry read back holds the same numbers in plain form.
-/

namespace CovenantRadar

namespace Interventions

namespace Catalogue

/-! ## Entries in plain form -/

/-- The same parameter, its number without a positive exponent. -/
def EffectParameter.plain : EffectParameter → EffectParameter
  | levelShift amount bounded =>
    .levelShift amount.plain (by rw [Decimal.plain_value]; exact bounded)
  | rateChange multiplier bounded =>
    .rateChange multiplier.plain (by rw [Decimal.plain_value]; exact bounded)
  | thresholdRelaxation amount bounded =>
    .thresholdRelaxation amount.plain (by rw [Decimal.plain_value]; exact bounded)
  | pressureReduction fraction bounded =>
    .pressureReduction fraction.plain (by rw [Decimal.plain_value]; exact bounded)

@[simp] theorem EffectParameter.modelType_plain (parameter : EffectParameter) :
    parameter.plain.modelType = parameter.modelType := by
  cases parameter <;> rfl

@[simp] theorem EffectParameter.number_plain (parameter : EffectParameter) :
    parameter.plain.number = parameter.number.plain := by
  cases parameter <;> rfl

def SimpleEffect.plain (effect : SimpleEffect) : SimpleEffect :=
  { effect with parameter := effect.parameter.plain }

/-- The declared classes depend on the classes of the components only. -/
theorem supported_plain {components : List SimpleEffect} {classes : ClassSet}
    (supported : Supported components classes) :
    Supported (components.map SimpleEffect.plain) classes := by
  rcases supported with each | wild
  · refine .inl fun candidate member ordinary component listed => ?_
    obtain ⟨original, origin, rfl⟩ := List.mem_map.mp listed
    exact each candidate member ordinary original origin
  · exact .inr wild

def CombinationEffect.plain (effect : CombinationEffect) : CombinationEffect where
  components := effect.components.map SimpleEffect.plain
  several := by
    rw [List.length_map]
    exact effect.several
  assumptions := effect.assumptions
  complete := by
    intro component member statement stated
    obtain ⟨original, origin, rfl⟩ := List.mem_map.mp member
    exact effect.complete original origin statement stated
  classes := effect.classes
  supported := supported_plain effect.supported

def Effect.plain : Effect → Effect
  | simple effect => .simple effect.plain
  | combination effect => .combination effect.plain

/-- The entry `from_record` builds from the stored values. -/
def CatalogueEntry.plain (entry : CatalogueEntry) (databaseId : Uuid) : CatalogueEntry :=
  { entry with databaseId := some databaseId, effect := entry.effect.plain }

/-! ## Equal entries -/

/-- Equal parameters: the same model, and decimals that compare equal. -/
def EffectParameter.Same (a b : EffectParameter) : Prop :=
  a.modelType = b.modelType ∧ a.number.value = b.number.value

/-- Source `SimpleEffect.__eq__`, field by field. -/
structure SimpleEffect.Same (a b : SimpleEffect) : Prop where
  parameter : a.parameter.Same b.parameter
  assumptions : a.assumptions = b.assumptions
  classes : a.classes = b.classes

/-- Equal effects, field by field. -/
inductive Effect.Same : Effect → Effect → Prop where
  | simple {a b : SimpleEffect} (same : a.Same b) : Effect.Same (.simple a) (.simple b)
  | combination {a b : CombinationEffect}
      (components : List.Forall₂ SimpleEffect.Same a.components b.components)
      (assumptions : a.assumptions = b.assumptions) (classes : a.classes = b.classes) :
      Effect.Same (.combination a) (.combination b)

/-- Equal entries, attribute by attribute. -/
structure CatalogueEntry.Same (a b : CatalogueEntry) : Prop where
  id : a.id = b.id
  databaseId : a.databaseId = b.databaseId
  roleTag : a.roleTag = b.roleTag
  text : a.text = b.text
  effect : a.effect.Same b.effect
  requiresApproval : a.requiresApproval = b.requiresApproval
  isActive : a.isActive = b.isActive
  retiredAt : a.retiredAt = b.retiredAt
  version : a.version = b.version

theorem SimpleEffect.same_plain (effect : SimpleEffect) : effect.plain.Same effect where
  parameter := ⟨EffectParameter.modelType_plain _, by
    rw [SimpleEffect.plain, EffectParameter.number_plain, Decimal.plain_value]⟩
  assumptions := rfl
  classes := rfl

theorem Effect.same_plain (effect : Effect) : effect.plain.Same effect := by
  cases effect with
  | simple effect => exact .simple effect.same_plain
  | combination effect =>
    refine .combination ?_ rfl rfl
    rw [CombinationEffect.plain, List.forall₂_map_left_iff, List.forall₂_same]
    intro component _
    exact component.same_plain

theorem CatalogueEntry.same_plain (entry : CatalogueEntry) (databaseId : Uuid) :
    (entry.plain databaseId).Same { entry with databaseId := some databaseId } where
  id := rfl
  databaseId := rfl
  roleTag := rfl
  text := rfl
  effect := entry.effect.same_plain
  requiresApproval := rfl
  isActive := rfl
  retiredAt := rfl
  version := rfl

/-! ## Reading each stored value back -/

section
variable {α β : Type}

/-- Reading the stored items of a list returns the list. -/
theorem mapM_map_ok {ε : Type} {write : α → Json} {read : Json → Except ε β} {value : α → β}
    {xs : List α} (each : ∀ x ∈ xs, read (write x) = .ok (value x)) :
    (xs.map write).mapM read = .ok (xs.map value) := by
  rw [mapM_eq_ok_iff, List.forall₂_map_left_iff, List.forall₂_map_right_iff, List.forall₂_same]
  exact each

end

theorem normalizeCovenantClasses_stored (classes : ClassSet) :
    normalizeCovenantClasses (storedClasses classes) = .ok classes := by
  have read : (classes.sorted.map Json.str).mapM className =
      .ok (classes.names.sort (· ≤ ·)) := by
    rw [ClassSet.sorted, List.map_map]
    have named : ∀ name ∈ classes.names.sort (· ≤ ·),
        className ((Json.str ∘ ClassName.text) name) = .ok name := fun name _ => name.make_self
    simpa using mapM_map_ok named
  have made : ClassSet.ofNames (classes.names.sort (· ≤ ·)) = .ok classes := by
    unfold ClassSet.ofNames
    simp only [Finset.sort_toFinset]
    exact dif_pos classes.nonempty
  exact (congrArg (fun names => onTypeError _ names >>= ClassSet.ofNames) read).trans made

theorem decimalOf_fixed (field : String) (number : Decimal) :
    decimalOf field (.str number.fixed) = .ok number.plain := by
  simp only [decimalOf, Option.bind_some, Decimal.ofText_fixed]

theorem makeParameter_stored (parameter : EffectParameter) :
    makeParameter parameter.modelType (.str parameter.number.fixed) = .ok parameter.plain := by
  cases parameter with
  | levelShift amount bounded =>
    have same : -1000000 ≤ amount.plain.value ∧ amount.plain.value ≤ 1000000 := by
      rw [Decimal.plain_value]
      exact bounded
    exact (congrArg (· >>= EffectParameter.makeLevelShift) (decimalOf_fixed _ amount)).trans
      (dif_pos same)
  | rateChange multiplier bounded =>
    have same : 0 ≤ multiplier.plain.value ∧ multiplier.plain.value ≤ 2 := by
      rw [Decimal.plain_value]
      exact bounded
    exact (congrArg (· >>= EffectParameter.makeRateChange) (decimalOf_fixed _ multiplier)).trans
      (dif_pos same)
  | thresholdRelaxation amount bounded =>
    have same : 0 ≤ amount.plain.value ∧ amount.plain.value ≤ 1000000 := by
      rw [Decimal.plain_value]
      exact bounded
    have wide : ¬ ¬ (-1000000 ≤ amount.plain.value ∧ amount.plain.value ≤ 1000000) := by
      rw [not_not]
      exact ⟨by linarith [same.1], same.2⟩
    exact (congrArg (· >>= EffectParameter.makeThresholdRelaxation)
      (decimalOf_fixed _ amount)).trans ((if_neg wide).trans (dif_pos same))
  | pressureReduction fraction bounded =>
    have same : 0 ≤ fraction.plain.value ∧ fraction.plain.value ≤ 1 := by
      rw [Decimal.plain_value]
      exact bounded
    exact (congrArg (· >>= EffectParameter.makePressureReduction)
      (decimalOf_fixed _ fraction)).trans (dif_pos same)

theorem normalizeAssumptions_stored (assumptions : Assumptions) :
    normalizeAssumptions (assumptions.statements.map fun statement => .str statement.text) =
      .ok assumptions := by
  have read : (assumptions.statements.map fun statement => Json.str statement.text).mapM
      statementOf = .ok assumptions.statements := by
    have each : ∀ statement ∈ assumptions.statements,
        statementOf (.str statement.text) = .ok statement :=
      fun statement _ => BoundedText.check_self "assumption" statement
    simpa using mapM_map_ok each
  have made : Assumptions.ofStatements assumptions.statements = .ok assumptions := by
    have kept : uniqueAssumptions assumptions.statements = assumptions.statements :=
      eraseDups_eq_self assumptions.distinct
    unfold Assumptions.ofStatements
    simp only [kept]
    exact dif_pos assumptions.stated
  exact (congrArg (fun items => onTypeError _ items >>= Assumptions.ofStatements) read).trans made

theorem modelTypeOf_value (model : EffectModelType) : modelTypeOf (.str model.value) = .ok model := by
  cases model <;> decide

theorem onlyParameter_stored (model : EffectModelType) (value : Json) :
    onlyParameter model [(EffectParameter.key model, value)] = .ok value := by
  simp [onlyParameter]

/-- A stored simple effect is built again, with the classes of the record or with those that
    stand in for them. -/
theorem buildEffect_stored (effect : SimpleEffect) {classes : ClassesArgument}
    (given : classes = .given (storedClasses effect.classes) ∨
      classes = .normalized effect.classes) :
    buildEffect (.str effect.parameter.modelType.value) (storedParameter effect.parameter)
      (storedAssumptions effect.assumptions) classes = .ok effect.plain := by
  have normal : classes.normalize = .ok effect.classes := by
    rcases given with rfl | rfl
    · exact normalizeCovenantClasses_stored effect.classes
    · rfl
  have value : onlyParameter effect.parameter.modelType (storedParameter effect.parameter) =
      .ok (.str effect.parameter.number.fixed) := onlyParameter_stored _ _
  unfold buildEffect
  rw [modelTypeOf_value]
  rcases given with rfl | rfl
  all_goals
    simp only [storedAssumptions, storedClasses, iterate, bind, Except.bind] at normal ⊢
    rw [normal]
    simp only [value, makeParameter_stored, normalizeAssumptions_stored]
    rfl

theorem readComponent_stored (index : Nat) (default : ClassSet) (component : SimpleEffect) :
    readComponent index default (storedComponent component) = .ok component.plain := by
  have built := buildEffect_stored component (.inl rfl)
  obtain ⟨parameter, assumptions, classes⟩ := component
  cases parameter with
  | levelShift amount bounded => exact built
  | rateChange multiplier bounded => exact built
  | thresholdRelaxation amount bounded => exact built
  | pressureReduction fraction bounded => exact built

theorem readComponents_stored (default : ClassSet) (index : Nat) (components : List SimpleEffect) :
    readComponents default index (components.map storedComponent) =
      .ok (components.map SimpleEffect.plain) := by
  induction components generalizing index with
  | nil => rfl
  | cons component components ih =>
    rw [List.map_cons, readComponents, readComponent_stored, ih]
    rfl

/-- Nothing is added to assumptions that hold those of every component. -/
theorem allAssumptions_eq_self {components : List SimpleEffect} {stated : Assumptions}
    (complete : ∀ component ∈ components, ∀ statement ∈ component.assumptions.statements,
      statement ∈ stated.statements) :
    allAssumptions components stated = stated.statements := by
  have nothing : (uniqueAssumptions ((orderedComponents components).flatMap fun component =>
      component.assumptions.statements)).removeAll stated.statements = [] := by
    rw [List.removeAll, List.filter_eq_nil_iff]
    intro statement member
    rw [uniqueAssumptions, List.mem_eraseDups, List.mem_flatMap] at member
    obtain ⟨component, listed, written⟩ := member
    simpa using complete component (mem_orderedComponents.mp listed) statement written
  rw [allAssumptions, uniqueAssumptions, List.eraseDups_append, nothing,
    eraseDups_eq_self stated.distinct]
  exact List.append_nil _

theorem makeCombination_stored (effect : CombinationEffect) :
    makeCombination (effect.components.map SimpleEffect.plain)
      (effect.assumptions.statements.map fun statement => .str statement.text) effect.classes =
      .ok effect.plain := by
  have kept : combinedAssumptions (effect.components.map SimpleEffect.plain) effect.assumptions =
      effect.assumptions := Assumptions.ext (allAssumptions_eq_self effect.plain.complete)
  have several : 2 ≤ (effect.components.map SimpleEffect.plain).length := effect.plain.several
  have supported : Supported (effect.components.map SimpleEffect.plain) effect.classes :=
    effect.plain.supported
  refine (dif_pos several).trans ?_
  rw [normalizeAssumptions_stored]
  refine (dif_pos supported).trans ?_
  simp only [kept]
  rfl

theorem combinationParameters_stored (default : ClassSet) (components : List SimpleEffect) :
    combinationParameters [("components".toList, .arr (components.map storedComponent))] default =
      .ok (components.map SimpleEffect.plain) :=
  readComponents_stored default 0 components

/-- The text of a stored effect is built into the effect in plain form. -/
theorem builtEffect_stored (effect : Effect) :
    builtEffect effect.modelType.value (persistenceParameters effect)
      (effect.assumptions.statements.map (·.text)) (storedClasses effect.classes) =
      .ok effect.plain := by
  have texts : (effect.assumptions.statements.map (·.text)).map Json.str =
      effect.assumptions.statements.map fun statement => .str statement.text := List.map_map
  unfold builtEffect
  rw [normalizeCovenantClasses_stored, modelTypeOf_value, texts]
  cases effect with
  | simple effect =>
    have built := congrArg (Except.map Effect.simple) (buildEffect_stored effect (.inr rfl))
    obtain ⟨parameter, assumptions, classes⟩ := effect
    cases parameter with
    | levelShift amount bounded => exact built
    | rateChange multiplier bounded => exact built
    | thresholdRelaxation amount bounded => exact built
    | pressureReduction fraction bounded => exact built
  | combination effect =>
    have made := congrArg (Except.map Effect.combination) (makeCombination_stored effect)
    have read := congrArg (fun components => components >>= fun components =>
        (makeCombination components (effect.assumptions.statements.map fun statement =>
          .str statement.text) effect.classes).map Effect.combination)
      (combinationParameters_stored effect.classes effect.components)
    exact read.trans made

/-! ## Entries -/

theorem mapM_statement (texts : List Text) :
    (texts.map Json.str).mapM assumptionsOf.statement = some texts := by
  induction texts with
  | nil => rfl
  | cons text texts ih =>
    rw [List.map_cons, List.mapM_cons, ih]
    rfl

theorem assumptionsOf_stored (assumptions : Assumptions) :
    assumptionsOf (storedAssumptions assumptions) =
      .ok (assumptions.statements.map (·.text)) := by
  have texts := mapM_statement (assumptions.statements.map (·.text))
  rw [List.map_map] at texts
  have stated : assumptions.statements.map (·.text) ≠ [] := by
    intro empty
    exact assumptions.stated (List.map_eq_nil_iff.mp empty)
  unfold assumptionsOf storedAssumptions
  simp only [assumptionsOf.items]
  rw [show (assumptions.statements.map fun statement => Json.str statement.text) =
    assumptions.statements.map (Json.str ∘ fun statement => statement.text) from rfl, texts]
  split
  · rename_i nothing
    cases nothing
  · rename_i empty
    exact absurd (Option.some.inj empty) stated
  · rename_i statements read
    rw [Option.some.inj read]

theorem roleTagOf_value (role : RoleTag) : roleTagOf (some role.value) = .ok role := by
  cases role <;> rfl

/-- The statements stand under a key of their own. -/
theorem lookup_stored (effect : Effect) :
    (persistenceParameters effect).lookup "_assumptions".toList = none ∧
    (persistenceParameters effect).lookup "assumptions".toList = none ∧
    readComponent.withoutAssumptions (persistenceParameters effect) =
      persistenceParameters effect := by
  cases effect with
  | simple effect =>
    obtain ⟨parameter, assumptions, classes⟩ := effect
    cases parameter <;> exact ⟨rfl, rfl, rfl⟩
  | combination effect => exact ⟨rfl, rfl, rfl⟩

/-- The statements and the parameters of a record are told apart. -/
theorem lookup_record (effect : Effect) :
    (persistenceParameters effect ++ [("_assumptions".toList,
      storedAssumptions effect.assumptions)]).lookup "_assumptions".toList =
      some (storedAssumptions effect.assumptions) ∧
    readComponent.withoutAssumptions (persistenceParameters effect ++ [("_assumptions".toList,
      storedAssumptions effect.assumptions)]) = persistenceParameters effect := by
  obtain ⟨noPrivate, _, kept⟩ := lookup_stored effect
  constructor
  · rw [List.lookup_append, noPrivate, Option.none_or]
    rfl
  · rw [readComponent.withoutAssumptions, List.filter_append]
    exact (List.append_nil _).trans kept

theorem effectOf_stored (effect : Effect) :
    effectOf (some effect.modelType.value) (persistenceParameters effect)
      (storedClasses effect.classes) (storedAssumptions effect.assumptions) =
      .ok effect.plain := by
  obtain ⟨noPrivate, noPublic, kept⟩ := lookup_stored effect
  have stated : effectOf.optional (some (storedAssumptions effect.assumptions)) =
      .ok (some (effect.assumptions.statements.map (·.text))) :=
    congrArg (Except.map some) (assumptionsOf_stored effect.assumptions)
  have built := congrArg invalidEffect (builtEffect_stored effect)
  unfold effectOf
  rw [noPrivate, noPublic, kept, stated]
  exact built

theorem utcOrNone_eq (field : String) {value : Datetime} {offset : Int} {instant : UtcInstant}
    (aware : value.utcoffset = some offset) (moved : value.astimezone offset = some instant) :
    utcOrNone field (some value) = .ok (some instant) := by
  simp only [utcOrNone, aware, moved]

theorem versionOf_natCast (version : Nat) : versionOf version = .ok version := by
  rw [versionOf, if_neg (by omega)]
  rfl

/-- The constructor on stored values, once the retirement is known. -/
theorem make_stored (entry : CatalogueEntry) (databaseId : Uuid) {retiredAt : Option Datetime}
    (retired : utcOrNone "retired_at" retiredAt = .ok entry.retiredAt) :
    CatalogueEntry.make (entry.toRecordValues.row databaseId entry.version) databaseId
      (persistenceParameters entry.effect) (storedAssumptions entry.effect.assumptions) retiredAt =
      .ok (entry.plain databaseId) := by
  have inactive : ¬ (entry.isActive = true ∧ entry.retiredAt ≠ none) := by
    intro set
    exact set.2 (entry.retired_inactive set.1)
  unfold CatalogueEntry.make
  simp only [CatalogueEntry.toRecordValues, RecordValues.row]
  split
  · rename_i error failed
    rw [entry.id_normal] at failed
    cases failed
  · rename_i id identified
    rw [entry.id_normal] at identified
    cases identified
    rw [roleTagOf_value]
    split
    · rename_i error failed
      rw [entry.text_normal] at failed
      cases failed
    · rename_i text written
      rw [entry.text_normal] at written
      cases written
      rw [retired, versionOf_natCast, effectOf_stored]
      exact dif_neg inactive

/-- The row of a stored entry is read back as the entry, its numbers in plain form. -/
theorem fromRecord_stored (entry : CatalogueEntry) (databaseId : Uuid) :
    fromRecord (entry.toRecordValues.row databaseId entry.version) =
      .ok (entry.plain databaseId) := by
  obtain ⟨statements, parameters⟩ := lookup_record entry.effect
  have made := fun retiredAt => @make_stored entry databaseId retiredAt
  unfold fromRecord
  simp only [CatalogueEntry.toRecordValues, RecordValues.row] at made ⊢
  rw [statements, parameters, Option.some_or, Option.getD_some]
  cases retired : entry.retiredAt with
  | none =>
    rw [retired] at made
    exact made none rfl
  | some instant =>
    rw [retired] at made
    simp only [Option.map_some, UtcInstant.fromIsoformat_isoformatAuto]
    exact made (some instant.aware)
      (utcOrNone_eq "retired_at" rfl (UtcInstant.astimezone_aware instant))

/-! ## Storing again -/

theorem storedParameter_plain (parameter : EffectParameter) :
    storedParameter parameter.plain = storedParameter parameter := by
  rw [storedParameter, storedParameter, EffectParameter.modelType_plain,
    EffectParameter.number_plain, Decimal.plain_fixed]

theorem storedComponent_plain (component : SimpleEffect) :
    storedComponent component.plain = storedComponent component := by
  simp only [storedComponent, SimpleEffect.plain, storedParameter_plain,
    EffectParameter.modelType_plain]

/-- Only the way a decimal is written differs in plain form, and its text does not. -/
theorem persistenceParameters_plain (effect : Effect) :
    persistenceParameters effect.plain = persistenceParameters effect ∧
    effect.plain.modelType = effect.modelType := by
  cases effect with
  | simple effect => exact ⟨storedParameter_plain _, EffectParameter.modelType_plain _⟩
  | combination effect =>
    refine ⟨?_, rfl⟩
    simp only [Effect.plain, CombinationEffect.plain, persistenceParameters, List.map_map,
      Function.comp_def, storedComponent_plain]

theorem toRecordValues_plain (entry : CatalogueEntry) (databaseId : Uuid) :
    (entry.plain databaseId).toRecordValues = entry.toRecordValues := by
  obtain ⟨parameters, modelType⟩ := persistenceParameters_plain entry.effect
  have common : entry.effect.plain.assumptions = entry.effect.assumptions ∧
      entry.effect.plain.classes = entry.effect.classes := by
    cases entry.effect <;> exact ⟨rfl, rfl⟩
  simp only [CatalogueEntry.toRecordValues, CatalogueEntry.plain, parameters, modelType, common]

/-- Decoding the stored record of an entry gives an equal entry, and encoding that entry gives
    the same record; `databaseId` is the id the row was stored under. -/
theorem fromRecord_toRecordValues (entry : CatalogueEntry) (databaseId : Uuid) :
    ∃ decoded, fromRecord (entry.toRecordValues.row databaseId entry.version) = .ok decoded ∧
      decoded.Same { entry with databaseId := some databaseId } ∧
      decoded.toRecordValues = entry.toRecordValues :=
  ⟨entry.plain databaseId, fromRecord_stored entry databaseId, entry.same_plain databaseId,
    toRecordValues_plain entry databaseId⟩

end Catalogue

end Interventions

end CovenantRadar
