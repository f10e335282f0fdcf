import CovenantRadar.Core.DomainErrors
import CovenantRadar.Python.Reading
import CovenantRadar.Misc.Json
import CovenantRadar.Interventions.Effects

/-!
# The intervention catalogue

Source `domain/interventions/catalogue.py`, with the constructors and the factory of
`effects.py` it rests on: the entries of the catalogue, the values they are stored as, and
the reading of a stored row. Parameters are the decimals that are stored; the arithmetic on
them is in `Effects`.
-/

namespace CovenantRadar

namespace Interventions

namespace Catalogue

/-! ## Covenant classes -/

/-- Source `normalize_covenant_class`, on text. -/
def normalizeCovenantClass (value : Text) : Except PyError Text :=
  let normalized := Text.lower (Text.strip value)
  if normalized = [] then .error (.valueError "covenant_class must not be blank.")
  else if 100 < normalized.length then
    .error (.valueError "covenant_class must be at most 100 characters.")
  else if normalized.any Text.isControl then
    .error (.valueError "covenant_class contains a control character.")
  else .ok normalized

/-- What `normalize_covenant_class` returns. -/
structure ClassName where
  text : Text
  normal : normalizeCovenantClass text = .ok text
  deriving DecidableEq

@[ext] theorem ClassName.ext {a b : ClassName} (same : a.text = b.text) : a = b := by
  cases a
  cases b
  simpa using same

instance : LinearOrder ClassName :=
  LinearOrder.lift' ClassName.text (fun _ _ same => ClassName.ext same)

theorem normalizeCovenantClass_idem {value name : Text}
    (normalized : normalizeCovenantClass value = .ok name) :
    normalizeCovenantClass name = .ok name := by
  unfold normalizeCovenantClass at normalized
  simp only at normalized
  split_ifs at normalized with blank long control
  cases normalized
  unfold normalizeCovenantClass
  rw [Text.strip_lower, Text.strip_strip, Text.lower_lower]
  simp only [if_neg blank, if_neg long, if_neg control]

/-- `normalize_covenant_class` with its guarantee attached. -/
def ClassName.make (value : Text) : Except PyError ClassName :=
  match normalized : normalizeCovenantClass value with
  | .ok name => .ok ⟨name, normalizeCovenantClass_idem normalized⟩
  | .error error => .error error

theorem ClassName.make_self (name : ClassName) : ClassName.make name.text = .ok name := by
  unfold ClassName.make
  split
  · rename_i other normalized
    rw [name.normal] at normalized
    cases normalized
    rfl
  · rename_i error failed
    rw [name.normal] at failed
    cases failed

/-- The classes of an effect. -/
structure ClassSet where
  names : Finset ClassName
  nonempty : names.Nonempty

/-- The classes as `isApplicable` reads them. -/
def ClassSet.texts (classes : ClassSet) : Finset Text := classes.names.image (·.text)

/-- `sorted(classes)`. -/
def ClassSet.sorted (classes : ClassSet) : List Text := (classes.names.sort (· ≤ ·)).map (·.text)

/-! ## Values read from JSON -/

/-- `type(value).__name__`. -/
def jsonTypeName : Json → String
  | .null => "NoneType"
  | .bool _ => "bool"
  | .int _ => "int"
  | .float _ => "float"
  | .str _ => "str"
  | .arr _ => "list"
  | .obj _ => "dict"

/-- `tuple(value)`: a dictionary is iterated by its keys. -/
def iterate : Json → Except PyError (List Json)
  | .arr items => .ok items
  | .obj entries => .ok (entries.map fun entry => .str entry.1)
  | .str text => .ok (text.map fun c => .str [c])
  | value => .error (.typeError s!"'{jsonTypeName value}' object is not iterable")

/-- `except TypeError as error: raise TypeError(message) from error`. -/
def onTypeError {α : Type} (message : String) : Except PyError α → Except PyError α
  | .error (.typeError _) => .error (.typeError message)
  | result => result

/-- Source `normalize_covenant_class`. -/
def className : Json → Except PyError ClassName
  | .str text => ClassName.make text
  | _ => .error (.typeError "covenant_class must be text or a CovenantClass.")

/-- `frozenset(names)`, refused when it is empty. -/
def ClassSet.ofNames (names : List ClassName) : Except PyError ClassSet :=
  if nonempty : names.toFinset.Nonempty then .ok ⟨names.toFinset, nonempty⟩
  else .error (.valueError "applicable_covenant_classes must contain at least one covenant class.")

/-- Source `normalize_covenant_classes`. -/
def normalizeCovenantClasses (values : Json) : Except PyError ClassSet :=
  match values with
  | .str _ => .error (.typeError
      "applicable_covenant_classes must be an iterable of class names, not text.")
  | values =>
    onTypeError "applicable_covenant_classes must be an iterable of class names."
      (iterate values >>= fun items => items.mapM className) >>= ClassSet.ofNames

/-- Source `_decimal`. -/
def decimalOf (field : String) (value : Json) : Except PyError Decimal :=
  let text : Option Text := match value with
    | .str text => some text
    | .int i => if maxDecimalDigits < (Text.ofNat i.natAbs).length then none else some (Text.ofInt i)
    | .float literal => some literal.text
    | _ => none
  match value with
  | .null | .bool _ => .error (.typeError s!"{field} must be a finite Decimal.")
  | _ =>
    match text.bind Decimal.ofText with
    | none => .error (.valueError s!"{field} must be a finite Decimal.")
    | some number => .ok number
where
  /-- `sys.get_int_max_str_digits()`. -/
  maxDecimalDigits : Nat := 4300

/-! ## Effects -/

/-- The parameter of an effect that is not a combination, with the check of its class. -/
inductive EffectParameter where
  | levelShift (amount : Decimal) (bounded : -1000000 ≤ amount.value ∧ amount.value ≤ 1000000)
  | rateChange (multiplier : Decimal) (bounded : 0 ≤ multiplier.value ∧ multiplier.value ≤ 2)
  | thresholdRelaxation (amount : Decimal) (bounded : 0 ≤ amount.value ∧ amount.value ≤ 1000000)
  | pressureReduction (fraction : Decimal) (bounded : 0 ≤ fraction.value ∧ fraction.value ≤ 1)

namespace EffectParameter

/-- Source `model_type`. -/
def modelType : EffectParameter → EffectModelType
  | levelShift _ _ => .levelShift
  | rateChange _ _ => .rateChange
  | thresholdRelaxation _ _ => .thresholdRelaxation
  | pressureReduction _ _ => .pressureReduction

def number : EffectParameter → Decimal
  | levelShift amount _ => amount
  | rateChange multiplier _ => multiplier
  | thresholdRelaxation amount _ => amount
  | pressureReduction fraction _ => fraction

/-- Source `effect_parameters`: the key of the parameter. -/
def key : EffectModelType → Text
  | .levelShift => "amount".toList
  | .rateChange => "multiplier".toList
  | .thresholdRelaxation => "amount".toList
  | .pressureReduction => "fraction".toList
  | .combination => "components".toList

/-- Source `LevelShiftEffect.__post_init__`. -/
def makeLevelShift (amount : Decimal) : Except PyError EffectParameter :=
  if bounded : -1000000 ≤ amount.value ∧ amount.value ≤ 1000000 then .ok (.levelShift amount bounded)
  else .error (.valueError "amount must be between -1000000 and 1000000 inclusive.")

/-- Source `RateChangeEffect.__post_init__`. -/
def makeRateChange (multiplier : Decimal) : Except PyError EffectParameter :=
  if bounded : 0 ≤ multiplier.value ∧ multiplier.value ≤ 2 then .ok (.rateChange multiplier bounded)
  else .error (.valueError "multiplier must be between 0 and 2 inclusive.")

/-- Source `ThresholdRelaxationEffect.__post_init__`. -/
def makeThresholdRelaxation (amount : Decimal) : Except PyError EffectParameter :=
  if ¬ (-1000000 ≤ amount.value ∧ amount.value ≤ 1000000) then
    .error (.valueError "amount must be between -1000000 and 1000000 inclusive.")
  else if bounded : 0 ≤ amount.value ∧ amount.value ≤ 1000000 then
    .ok (.thresholdRelaxation amount bounded)
  else .error (.valueError "amount must be non-negative for threshold relaxation.")

/-- Source `PressureReductionEffect.__post_init__`. -/
def makePressureReduction (fraction : Decimal) : Except PyError EffectParameter :=
  if bounded : 0 ≤ fraction.value ∧ fraction.value ≤ 1 then
    .ok (.pressureReduction fraction bounded)
  else .error (.valueError "fraction must be between 0 and 1 inclusive.")

end EffectParameter

/-- What `_normalize_assumptions` returns. -/
structure Assumptions where
  statements : List (BoundedText 500)
  stated : statements ≠ []
  distinct : statements.Nodup

@[ext] theorem Assumptions.ext {a b : Assumptions} (same : a.statements = b.statements) :
    a = b := by
  cases a
  cases b
  simpa using same

/-- Source `InterventionEffect`, of the four classes that are not combinations. -/
structure SimpleEffect where
  parameter : EffectParameter
  assumptions : Assumptions
  classes : ClassSet

/-- The components in the order a combination applies them. -/
def orderedComponents (components : List SimpleEffect) : List SimpleEffect :=
  combinationOrder.flatMap fun effectType =>
    components.filter fun component => component.parameter.modelType = effectType

/-- Source `CombinationEffect.__post_init__`: the check of the declared classes. -/
def Supported (components : List SimpleEffect) (classes : ClassSet) : Prop :=
  (∀ candidate ∈ classes.texts, wildcards.contains candidate = false →
    ∀ component ∈ components, isApplicable component.classes.texts candidate = true) ∨
  ∃ candidate ∈ classes.texts, wildcards.contains candidate = true

instance (components : List SimpleEffect) (classes : ClassSet) :
    Decidable (Supported components classes) := by
  unfold Supported
  infer_instance

/-- Source `CombinationEffect`, as its `__post_init__` leaves it: its assumptions hold those
    of its components. -/
structure CombinationEffect where
  components : List SimpleEffect
  several : 2 ≤ components.length
  assumptions : Assumptions
  complete : ∀ component ∈ components, ∀ statement ∈ component.assumptions.statements,
    statement ∈ assumptions.statements
  classes : ClassSet
  supported : Supported components classes

/-- Source `InterventionEffect`. -/
inductive Effect where
  | simple (effect : SimpleEffect)
  | combination (effect : CombinationEffect)

namespace Effect

def modelType : Effect → EffectModelType
  | simple effect => effect.parameter.modelType
  | combination _ => .combination

def assumptions : Effect → Assumptions
  | simple effect => effect.assumptions
  | combination effect => effect.assumptions

def classes : Effect → ClassSet
  | simple effect => effect.classes
  | combination effect => effect.classes

end Effect

theorem nodup_eraseDups {α : Type} [BEq α] [LawfulBEq α] (xs : List α) : xs.eraseDups.Nodup := by
  induction size : xs.length using Nat.strong_induction_on generalizing xs with
  | _ n ih =>
    cases xs with
    | nil => exact List.nodup_nil
    | cons x xs =>
      rw [List.eraseDups_cons, List.nodup_cons]
      have shorter : (xs.filter fun y => !y == x).length < n := by
        rw [← size]
        exact Nat.lt_succ_of_le (List.length_filter_le _ _)
      refine ⟨?_, ih _ shorter _ rfl⟩
      intro member
      simp [List.mem_eraseDups] at member

theorem eraseDups_eq_self {α : Type} [BEq α] [LawfulBEq α] {xs : List α} (distinct : xs.Nodup) :
    xs.eraseDups = xs := by
  induction xs with
  | nil => rfl
  | cons x xs ih =>
    obtain ⟨new, distinct⟩ := List.nodup_cons.mp distinct
    have kept : (xs.filter fun y => !y == x) = xs := by
      rw [List.filter_eq_self]
      intro y member
      have other : y ≠ x := by
        intro same
        exact new (same ▸ member)
      simpa using other
    rw [List.eraseDups_cons, kept, ih distinct]

/-- Source `_unique_assumptions`: `dict.fromkeys` keeps the first of equal statements. -/
def uniqueAssumptions (statements : List (BoundedText 500)) : List (BoundedText 500) :=
  statements.eraseDups

/-- The end of `_normalize_assumptions`. -/
def Assumptions.ofStatements (normalized : List (BoundedText 500)) : Except PyError Assumptions :=
  if stated : uniqueAssumptions normalized ≠ [] then
    .ok ⟨uniqueAssumptions normalized, stated, nodup_eraseDups _⟩
  else .error (.valueError "assumptions must contain at least one non-blank assumption.")

/-- Source `_bounded_text`, for one assumption. -/
def statementOf : Json → Except PyError (BoundedText 500)
  | .str text => BoundedText.check "assumption" 500 text
  | _ => .error (.typeError "assumption must be text.")

/-- Source `_normalize_assumptions`. -/
def normalizeAssumptions (values : List Json) : Except PyError Assumptions :=
  onTypeError "assumptions must be an iterable of statements." (values.mapM statementOf) >>=
    Assumptions.ofStatements

/-- Source `EffectModelType.from_value`. -/
def modelTypeOf : Json → Except PyError EffectModelType
  | .str text =>
    match modelTypes.find? (fun model => model.value = Text.lower (Text.strip text)) with
    | some model => .ok model
    | none => .error (.valueError ("effect_model must be one of: level_shift, rate_change, " ++
        "threshold_relaxation, pressure_reduction, combination."))
  | _ => .error (.typeError "effect_model must be an EffectModelType or text.")
where
  /-- The members of `EffectModelType`. -/
  modelTypes : List EffectModelType :=
    [.levelShift, .rateChange, .thresholdRelaxation, .pressureReduction, .combination]

/-- Source `_only_parameters`, for the one parameter every model expects. -/
def onlyParameter (model : EffectModelType) (parameters : List (Text × Json)) :
    Except PyError Json :=
  let key := EffectParameter.key model
  let unknown := ((parameters.map (·.1)).filter fun name => name ≠ key).insertionSort (· ≤ ·)
  match unknown, parameters.lookup key with
  | name :: _, _ => .error (.valueError (String.ofList model.value ++ " has unknown parameter " ++
      String.ofList (Text.repr name) ++ "."))
  | [], none => .error (.valueError (String.ofList model.value ++ " requires parameter " ++
      String.ofList (Text.repr key) ++ "."))
  | [], some value => .ok value

/-- The argument `applicable_covenant_classes`: what a record holds, or classes already
    normalised. -/
inductive ClassesArgument where
  | given (values : Json)
  | normalized (classes : ClassSet)

/-- Source `normalize_covenant_classes`. -/
def ClassesArgument.normalize : ClassesArgument → Except PyError ClassSet
  | given values => normalizeCovenantClasses values
  | normalized classes => .ok classes

/-- The constructor of one of the four simple effects, without its common fields. -/
def makeParameter (model : EffectModelType) (value : Json) : Except PyError EffectParameter :=
  match model with
  | .levelShift => decimalOf "amount" value >>= EffectParameter.makeLevelShift
  | .rateChange => decimalOf "multiplier" value >>= EffectParameter.makeRateChange
  | .thresholdRelaxation => decimalOf "amount" value >>= EffectParameter.makeThresholdRelaxation
  | .pressureReduction => decimalOf "fraction" value >>= EffectParameter.makePressureReduction
  -- A component of a record is a definition, never an effect, so no list of components builds.
  | .combination =>
    match value with
    | .arr [] => .error (.valueError "components must contain at least two effects.")
    | .arr _ => .error (.typeError "combination component 0 must be an InterventionEffect.")
    | _ => .error (.typeError "combination components must be a sequence of effect models.")

/-- Source `build_effect`, on the values of a record. -/
def buildEffect (effectModel : Json) (parameters : List (Text × Json)) (assumptions : Json)
    (classes : ClassesArgument) : Except PyError SimpleEffect := do
  let model ← modelTypeOf effectModel
  match assumptions, classes with
  | .null, _ => throw (.valueError "assumptions must be supplied for an effect model.")
  | _, .given .null =>
    throw (.valueError "applicable_covenant_classes must be supplied for an effect model.")
  | .str _, _ => throw (.typeError "assumptions must be an iterable of statements, not text.")
  | assumptions, classes => do
    let statements ← iterate assumptions
    let normalizedClasses ← classes.normalize
    let value ← onlyParameter model parameters
    let parameter ← makeParameter model value
    let normalizedAssumptions ← normalizeAssumptions statements
    return { parameter, assumptions := normalizedAssumptions, classes := normalizedClasses }

/-- The assumptions of a combination, followed by those of its components in order. -/
def allAssumptions (components : List SimpleEffect) (stated : Assumptions) :
    List (BoundedText 500) :=
  uniqueAssumptions (stated.statements ++ uniqueAssumptions
    ((orderedComponents components).flatMap fun component => component.assumptions.statements))

theorem mem_orderedComponents {components : List SimpleEffect} {component : SimpleEffect} :
    component ∈ orderedComponents components ↔ component ∈ components := by
  unfold orderedComponents
  simp only [List.mem_flatMap, List.mem_filter, decide_eq_true_eq]
  constructor
  · intro ordered
    obtain ⟨_, _, member, _⟩ := ordered
    exact member
  · intro member
    refine ⟨component.parameter.modelType, ?_, member, rfl⟩
    cases component.parameter <;> simp [combinationOrder, EffectParameter.modelType]

theorem mem_allAssumptions {components : List SimpleEffect} {stated : Assumptions}
    {statement : BoundedText 500} :
    statement ∈ allAssumptions components stated ↔ statement ∈ stated.statements ∨
      ∃ component ∈ components, statement ∈ component.assumptions.statements := by
  simp [allAssumptions, uniqueAssumptions, List.mem_eraseDups, mem_orderedComponents]

/-- The assumptions a combination keeps. -/
def combinedAssumptions (components : List SimpleEffect) (stated : Assumptions) : Assumptions where
  statements := allAssumptions components stated
  stated := by
    obtain ⟨statement, member⟩ := List.exists_mem_of_ne_nil _ stated.stated
    exact List.ne_nil_of_mem (mem_allAssumptions.mpr (.inl member))
  distinct := nodup_eraseDups _

theorem combinedAssumptions_complete (components : List SimpleEffect) (stated : Assumptions) :
    ∀ component ∈ components, ∀ statement ∈ component.assumptions.statements,
      statement ∈ (combinedAssumptions components stated).statements :=
  fun component member _ written => mem_allAssumptions.mpr (.inr ⟨component, member, written⟩)

/-- Source `CombinationEffect.__post_init__`, with declared classes. -/
def makeCombination (components : List SimpleEffect) (assumptions : List Json)
    (declared : ClassSet) : Except PyError CombinationEffect :=
  if several : 2 ≤ components.length then
    normalizeAssumptions assumptions >>= fun stated =>
      if supported : Supported components declared then
        .ok
          { components, several, supported
            classes := declared
            assumptions := combinedAssumptions components stated
            complete := combinedAssumptions_complete components stated }
      else
        .error (.valueError "applicable_covenant_classes must be supported by every component.")
  else .error (.valueError "components must contain at least two effects.")

/-- Source `_combination_parameters`: one component of the record. -/
def readComponent (index : Nat) (default : ClassSet) : Json → Except PyError SimpleEffect
  | .obj entries =>
    match ((entries.lookup "effect_parameters".toList).or (entries.lookup "parameters".toList)) with
    | some (.obj parameters) => do
      let embedded := given (((parameters.lookup "_assumptions".toList).or
        (parameters.lookup "assumptions".toList)))
      let stated := given (entries.lookup "assumptions".toList)
      match stated, embedded with
      | some stated, some embedded =>
        let first ← iterate stated
        let second ← iterate embedded
        if (Json.arr first).dumps ≠ (Json.arr second).dumps then
          throw (.valueError s!"combination component {index} has conflicting assumptions.")
      | _, _ => pure ()
      buildEffect
        ((((entries.lookup "effect_model".toList).or (entries.lookup "model_type".toList))).getD
          .null)
        (withoutAssumptions parameters) ((stated.or embedded).getD .null)
        (match entries.lookup "applicable_covenant_classes".toList with
          | some classes => .given classes
          | none => .normalized default)
    | _ => .error (.typeError s!"combination component {index} parameters must be an object.")
  | _ => .error (.typeError s!"combination component {index} must be an effect definition.")
where
  /-- A value that is not `None`. -/
  given : Option Json → Option Json
    | some .null => none
    | value => value
  /-- `parameters.pop("_assumptions", parameters.pop("assumptions", None))`, what is left. -/
  withoutAssumptions (parameters : List (Text × Json)) : List (Text × Json) :=
    parameters.filter fun entry =>
      entry.1 ≠ "_assumptions".toList ∧ entry.1 ≠ "assumptions".toList

/-- Source `_combination_parameters`: the loop over the components, numbered from `index`. -/
def readComponents (default : ClassSet) : Nat → List Json → Except PyError (List SimpleEffect)
  | _, [] => .ok []
  | index, component :: rest => do
    let effect ← readComponent index default component
    let effects ← readComponents default (index + 1) rest
    return effect :: effects

/-- Source `_combination_parameters`. -/
def combinationParameters (parameters : List (Text × Json)) (default : ClassSet) :
    Except PyError (List SimpleEffect) :=
  let key := EffectParameter.key .combination
  match ((parameters.map (·.1)).filter fun name => name ≠ key).insertionSort (· ≤ ·) with
  | name :: _ => .error (.valueError ("combination has unknown parameter " ++
      String.ofList (Text.repr name) ++ "."))
  | [] =>
    match parameters.lookup key with
    | some (.arr components) => readComponents default 0 components
    | some (.obj entries) => readComponents default 0 (entries.map fun entry => .str entry.1)
    | _ => .error (.typeError "combination components must be an iterable of effect definitions.")

/-! ## Entries -/

/-- What the catalogue raises. -/
inductive CatalogueError where
  | validation (error : ValidationError)
  | raised (error : PyError)
  deriving DecidableEq

/-- `raise ValidationError(message, field=field)`. -/
def refuse {α : Type} (message field : String) : Except CatalogueError α :=
  .error (.validation { message := message.toList, field := field.toList })

/-- Source `RoleTag`. -/
inductive RoleTag where
  | relationshipManager
  | credit
  | risk
  deriving DecidableEq, Repr

/-- The value of the enumeration member. -/
def RoleTag.value : RoleTag → Text
  | relationshipManager => "relationship_manager".toList
  | credit => "credit".toList
  | risk => "risk".toList

/-- Source `RoleTag.from_value` and `_role_tag`. -/
def roleTagOf : Option Text → Except CatalogueError RoleTag
  | none => refuse "role_tag is required." "intervention.role_tag"
  | some value =>
    let normalized := (Text.lower (Text.strip value)).map fun c =>
      if c = '-' ∨ c = ' ' then '_' else c
    let normalized := if normalized = "rm".toList then RoleTag.relationshipManager.value
      else normalized
    match [RoleTag.relationshipManager, .credit, .risk].find? (·.value = normalized) with
    | some role => .ok role
    | none => refuse "role_tag must be one of: relationship_manager (RM), credit, risk."
        "intervention.role_tag"

/-- The characters of `_ID_PATTERN` after the first. -/
def isIdentifierChar (c : Char) : Bool := c.isAlphanum || c == '_' || c == '.' || c == '-'

/-- `re.fullmatch(_ID_PATTERN, text)`. -/
def matchesIdPattern : Text → Bool
  | [] => false
  | first :: rest => first.isAlphanum && rest.all isIdentifierChar && decide (rest.length ≤ 49)

/-- Source `_identifier`. -/
def identifierOf : Option Text → Except CatalogueError Text
  | none => refuse "An intervention id is required." "intervention.id"
  | some value =>
    let normalized := Text.strip value
    if normalized = [] ∨ 50 < normalized.length ∨ matchesIdPattern normalized = false then
      refuse "intervention.id must be a safe identifier of at most 50 characters."
        "intervention.id"
    else .ok normalized

/-- Source `_text`. -/
def textOf : Option Text → Except CatalogueError Text
  | none => refuse "text is required." "intervention.text"
  | some value =>
    let normalized := Text.strip value
    if normalized = [] then refuse "text must not be blank." "intervention.text"
    else if 2000 < normalized.length then
      refuse "text must be at most 2000 characters." "intervention.text"
    else if normalized.any (fun c => c.toNat < 32 && (['\t', '\n', '\r'].contains c == false)) then
      refuse "text contains a prohibited control character." "intervention.text"
    else .ok normalized

theorem identifierOf_idem {value : Option Text} {id : Text} (read : identifierOf value = .ok id) :
    identifierOf (some id) = .ok id := by
  cases value with
  | none => cases read
  | some value =>
    simp only [identifierOf] at read ⊢
    split_ifs at read with refused
    · cases read
    · cases read
      rw [Text.strip_strip, if_neg refused]

theorem textOf_idem {value : Option Text} {text : Text} (read : textOf value = .ok text) :
    textOf (some text) = .ok text := by
  cases value with
  | none => cases read
  | some value =>
    simp only [textOf] at read ⊢
    split_ifs at read with blank long control
    · cases read
    · cases read
    · cases read
    · cases read
      rw [Text.strip_strip, if_neg blank, if_neg long, if_neg control]

/-- Source `_utc_or_none`. -/
def utcOrNone (field : String) : Option Datetime → Except CatalogueError (Option UtcInstant)
  | none => .ok none
  | some value =>
    match value.utcoffset with
    | none => refuse s!"{field} must be timezone-aware." s!"intervention.{field}"
    | some offset =>
      match value.astimezone offset with
      | some instant => .ok (some instant)
      | none => .error (.raised (.overflowError "date value out of range"))

/-- Source `_version`. -/
def versionOf (value : Int) : Except CatalogueError Nat :=
  if value < 0 then refuse "version must be a non-negative integer." "intervention.version"
  else .ok value.toNat

/-- Source `CatalogueEntry`: what its constructor leaves. -/
structure CatalogueEntry where
  id : Text
  id_normal : identifierOf (some id) = .ok id
  databaseId : Option Uuid
  roleTag : RoleTag
  text : Text
  text_normal : textOf (some text) = .ok text
  effect : Effect
  requiresApproval : Bool
  isActive : Bool
  retiredAt : Option UtcInstant
  retired_inactive : isActive = true → retiredAt = none
  version : Nat

/-- Source `_assumptions`. -/
def assumptionsOf (value : Json) : Except CatalogueError (List Text) :=
  match items value with
  | none =>
    refuse "assumptions must be an iterable of statements, not text." "intervention.assumptions"
  | some items =>
    match items.mapM statement with
    | none => refuse "assumptions must contain only text statements." "intervention.assumptions"
    | some [] =>
      refuse "An intervention effect requires at least one assumption." "intervention.assumptions"
    | some statements => .ok statements
where
  /-- The items of an iterable that is not text. -/
  items : Json → Option (List Json)
    | .arr items => some items
    | .obj entries => some (entries.map fun entry => .str entry.1)
    | _ => none
  statement : Json → Option Text
    | .str text => some text
    | _ => none

/-- `except (TypeError, ValueError) as error` in `_effect`. -/
def invalidEffect {α : Type} : Except PyError α → Except CatalogueError α
  | .ok value => .ok value
  | .error (.typeError message) | .error (.valueError message) =>
    refuse s!"Invalid intervention effect model: {message}." "intervention.effect_model"
  | .error error => .error (.raised error)

/-- The end of `_effect`: the effect of a model, its parameters, statements and classes. -/
def builtEffect (effectModel : Text) (parameters : List (Text × Json)) (statements : List Text)
    (classes : Json) : Except PyError Effect := do
  let normalizedClasses ← normalizeCovenantClasses classes
  let model ← modelTypeOf (.str effectModel)
  let assumptions : List Json := statements.map .str
  match model with
  | .combination =>
    let components ← combinationParameters parameters normalizedClasses
    let combined ← makeCombination components assumptions normalizedClasses
    return .combination combined
  | _ =>
    let effect ← buildEffect (.str effectModel) parameters (.arr assumptions)
      (.normalized normalizedClasses)
    return .simple effect

/-- Source `_effect`, on the values of a record. -/
def effectOf (effectModel : Option Text) (effectParameters : List (Text × Json))
    (classes assumptions : Json) : Except CatalogueError Effect :=
  match effectModel with
  | none => refuse "An intervention requires an effect model; unsimulatable actions cannot be saved."
      "intervention.effect_model"
  | some effectModel => do
    let embedded ← optional ((effectParameters.lookup "_assumptions".toList).or
      (effectParameters.lookup "assumptions".toList))
    let stated ← optional (some assumptions)
    if stated.isSome ∧ embedded.isSome ∧ stated ≠ embedded then
      refuse "Assumptions were supplied twice with different values." "intervention.assumptions"
    match stated.or embedded, classes with
    | none, _ =>
      refuse "An intervention effect requires at least one assumption." "intervention.assumptions"
    | _, .null =>
      refuse "An intervention must apply to at least one covenant class."
        "intervention.applicable_covenant_classes"
    | some statements, classes =>
      invalidEffect (builtEffect effectModel (readComponent.withoutAssumptions effectParameters)
        statements classes)
where
  /-- Statements that may be left out. -/
  optional : Option Json → Except CatalogueError (Option (List Text))
    | none => .ok none
    | some .null => .ok none
    | some value => (assumptionsOf value).map some

/-- The columns of a stored intervention that `from_record` reads. A retirement is stored as a
    datetime, or as its text in a seed file. -/
structure InterventionRow where
  id : Option Uuid
  code : Option Text
  roleTag : Option Text
  text : Option Text
  effectModel : Option Text
  effectParameters : Json
  applicableCovenantClasses : Json
  requiresApproval : Bool
  isActive : Bool
  retiredAt : Option (Text ⊕ Datetime)
  version : Int

/-- Source `CatalogueEntry.__init__`, on the values `from_record` passes. -/
def CatalogueEntry.make (row : InterventionRow) (databaseId : Uuid)
    (parameters : List (Text × Json)) (assumptions : Json) (retiredAt : Option Datetime) :
    Except CatalogueError CatalogueEntry :=
  match identified : identifierOf row.code with
  | .error error => .error error
  | .ok id =>
    roleTagOf row.roleTag >>= fun roleTag =>
      match written : textOf row.text with
      | .error error => .error error
      | .ok text =>
        utcOrNone "retired_at" retiredAt >>= fun retiredAt =>
          if active : row.isActive = true ∧ retiredAt ≠ none then
            refuse "An active intervention cannot have retired_at set." "intervention.retired_at"
          else
            versionOf row.version >>= fun version =>
              effectOf row.effectModel parameters row.applicableCovenantClasses assumptions >>=
                fun effect =>
                  .ok
                    { id, roleTag, text, effect, retiredAt, version
                      id_normal := identifierOf_idem identified
                      text_normal := textOf_idem written
                      databaseId := some databaseId
                      requiresApproval := row.requiresApproval
                      isActive := row.isActive
                      retired_inactive := by
                        intro inForce
                        by_contra set
                        exact active ⟨inForce, set⟩ }

/-- Source `from_record`. -/
def fromRecord (row : InterventionRow) : Except CatalogueError CatalogueEntry :=
  match row.id, row.effectParameters with
  | none, _ => refuse "Intervention record has no valid UUID id." "intervention.id"
  | some databaseId, .obj parameters =>
    let assumptions := ((parameters.lookup "_assumptions".toList).or
      (parameters.lookup "assumptions".toList)).getD .null
    let parameters := readComponent.withoutAssumptions parameters
    match row.retiredAt with
    | none => CatalogueEntry.make row databaseId parameters assumptions none
    | some (.inr retiredAt) =>
      CatalogueEntry.make row databaseId parameters assumptions (some retiredAt)
    | some (.inl text) =>
      match fromIsoformat text with
      | some retiredAt =>
        CatalogueEntry.make row databaseId parameters assumptions (some retiredAt)
      | none => refuse "Intervention retired_at must be an ISO timestamp." "intervention.retired_at"
  | some _, _ => refuse "Intervention effect_parameters must be a JSON object."
      "intervention.effect_parameters"

/-- Source `_persistence_parameters` and `_json_value`: the parameter of a simple effect. -/
def storedParameter (parameter : EffectParameter) : List (Text × Json) :=
  [(EffectParameter.key parameter.modelType, .str parameter.number.fixed)]

/-- Statements as a record holds them. -/
def storedAssumptions (assumptions : Assumptions) : Json :=
  .arr (assumptions.statements.map fun statement => .str statement.text)

/-- `sorted(applicable_covenant_classes)`. -/
def storedClasses (classes : ClassSet) : Json := .arr (classes.sorted.map .str)

/-- Source `_persistence_parameters`: a component of a combination. -/
def storedComponent (component : SimpleEffect) : Json :=
  .obj
    [("effect_model".toList, .str component.parameter.modelType.value),
      ("effect_parameters".toList, .obj (storedParameter component.parameter)),
      ("assumptions".toList, storedAssumptions component.assumptions),
      ("applicable_covenant_classes".toList, storedClasses component.classes)]

/-- Source `_persistence_parameters`. -/
def persistenceParameters : Effect → List (Text × Json)
  | .simple effect => storedParameter effect.parameter
  | .combination effect =>
    [("components".toList, .arr (effect.components.map storedComponent))]

/-- What `to_record_values` returns. -/
structure RecordValues where
  code : Text
  roleTag : Text
  text : Text
  effectModel : Text
  effectParameters : List (Text × Json)
  applicableCovenantClasses : Json
  requiresApproval : Bool
  isActive : Bool
  retiredAt : Option Text

/-- Source `to_record_values`. -/
def CatalogueEntry.toRecordValues (entry : CatalogueEntry) : RecordValues where
  code := entry.id
  roleTag := entry.roleTag.value
  text := entry.text
  effectModel := entry.effect.modelType.value
  effectParameters := persistenceParameters entry.effect ++
    [("_assumptions".toList, storedAssumptions entry.effect.assumptions)]
  applicableCovenantClasses := storedClasses entry.effect.classes
  requiresApproval := entry.requiresApproval
  isActive := entry.isActive
  retiredAt := entry.retiredAt.map (·.isoformatAuto)

/-- The row that stores these values; the database gives it its id and its version. -/
def RecordValues.row (values : RecordValues) (id : Uuid) (version : Nat) : InterventionRow where
  id := some id
  code := some values.code
  roleTag := some values.roleTag
  text := some values.text
  effectModel := some values.effectModel
  effectParameters := .obj values.effectParameters
  applicableCovenantClasses := values.applicableCovenantClasses
  requiresApproval := values.requiresApproval
  isActive := values.isActive
  retiredAt := values.retiredAt.map .inl
  version := version

end Catalogue

end Interventions

end CovenantRadar
