import CovenantRadar.Core.DomainErrors
import CovenantRadar.Misc.DepthFirst
import CovenantRadar.Misc.Select
import CovenantRadar.Python.Expression
import CovenantRadar.Python.Reading

/-!
# The chart of accounts

Source `domain/statements/chart.py`: the lines of the chart, the formulas of the derived ones and
the constructor. A chart is built when its derivations are closed and have no cycle. The name and
the statement of a line, which nothing here reads, are left out.
-/

namespace CovenantRadar

namespace Statements

/-- What the chart raises: `ChartError`, or an error of Python. -/
inductive StatementError where
  | chart (error : ValidationError)
  | raised (error : PyError)
  deriving DecidableEq

/-- `raise ChartError(message, field=field)`. -/
def chartError {α : Type} (message field : Text) : Except StatementError α :=
  .error (.chart { message, field })

/-! ## Derivations -/

/-- Source `DerivationTerm`. -/
structure DerivationTerm where
  code : Text
  sign : Int
  deriving DecidableEq, Repr

/-- `type(node).__name__`. -/
def nodeTypeName : Ast.Node → Text
  | .expression _ => "Expression".toList
  | .expr (.constant _ _) => "Constant".toList
  | .expr (.name _ _) => "Name".toList
  | .expr (.unaryOp _ _ _) => "UnaryOp".toList
  | .expr (.binOp _ _ _ _) => "BinOp".toList
  | .expr (.other _ typeName) => typeName
  | .operator .add => "Add".toList
  | .operator .sub => "Sub".toList
  | .operator .mult => "Mult".toList
  | .operator .div => "Div".toList
  | .operator (.other typeName) => typeName
  | .unaryOperator .uSub => "USub".toList
  | .unaryOperator .uAdd => "UAdd".toList
  | .unaryOperator (.other typeName) => typeName
  | .load => "Load".toList

/-- `isinstance(node, _ALLOWED_DERIVATION_NODES)`. -/
def isDerivationNode : Ast.Node → Bool
  | .expression _ => true
  | .expr (.name _ _) => true
  | .expr (.binOp _ _ _ _) => true
  | .operator .add => true
  | .operator .sub => true
  | .load => true
  | _ => false

/-- Source `_collect_derivation_terms`; `none` where it raises. -/
def collectDerivationTerms (sign : Int) : Ast.Expr → Option (List DerivationTerm)
  | .name _ id => some [{ code := id, sign }]
  | .binOp _ left .add right => do
    let first ← collectDerivationTerms sign left
    let second ← collectDerivationTerms sign right
    return first ++ second
  | .binOp _ left .sub right => do
    let first ← collectDerivationTerms sign left
    let second ← collectDerivationTerms (-sign) right
    return first ++ second
  | _ => none

/-- Source `_parse_derivation`, over Python's parser. -/
def parseDerivation (parse : Text → Option Ast.Expr) (text field : Text) :
    Except StatementError (List DerivationTerm) :=
  let invalid := field ++ " is not a valid derivation expression: ".toList ++ Text.repr text ++
    ['.']
  match parse text with
  | none => chartError invalid field
  | some body =>
    match (Ast.walk (.expression body)).find? fun node => !isDerivationNode node with
    | some node => chartError (field ++ " contains a disallowed construct (".toList ++
        nodeTypeName node ++ ") in ".toList ++ Text.repr text ++
        "; only line codes joined by + or - are permitted.".toList) field
    | none =>
      match collectDerivationTerms 1 body with
      | none => chartError invalid field
      | some terms =>
        if (terms.map (·.code)).Nodup then .ok terms
        else chartError (field ++ " references a line more than once: ".toList ++ Text.repr text ++
          ['.']) field

/-- The value of a derivation, on the values of the lines it names. -/
def evaluate (value : Text → ℚ) : Ast.Expr → Option ℚ
  | .name _ id => some (value id)
  | .binOp _ left .add right => do
    let first ← evaluate value left
    let second ← evaluate value right
    return first + second
  | .binOp _ left .sub right => do
    let first ← evaluate value left
    let second ← evaluate value right
    return first - second
  | _ => none

/-- The signed sum of terms. -/
def signedSum (value : Text → ℚ) (terms : List DerivationTerm) : ℚ :=
  (terms.map fun term => value term.code * term.sign).sum

theorem signedSum_append (value : Text → ℚ) (terms terms' : List DerivationTerm) :
    signedSum value (terms ++ terms') = signedSum value terms + signedSum value terms' := by
  simp [signedSum]

/-- The terms of an expression sum to what it says. -/
theorem signedSum_collectDerivationTerms (value : Text → ℚ) (sign : Int) (body : Ast.Expr) :
    (collectDerivationTerms sign body).map (signedSum value) =
      (evaluate value body).map fun total => total * (sign : ℚ) := by
  induction body generalizing sign with
  | name => simp [collectDerivationTerms, evaluate, signedSum]
  | constant => rfl
  | unaryOp => rfl
  | other => rfl
  | binOp _ left op right ihLeft ihRight =>
    have joined (other : Int) (join : ℚ → ℚ → ℚ)
        (split : ∀ a b, join a b * sign = a * sign + b * other) :
        Option.map (signedSum value) (do
          let first ← collectDerivationTerms sign left
          let second ← collectDerivationTerms other right
          return first ++ second) =
        Option.map (fun total => total * (sign : ℚ)) (do
          let first ← evaluate value left
          let second ← evaluate value right
          return join first second) := by
      have first := ihLeft sign
      have second := ihRight other
      revert first second
      cases collectDerivationTerms sign left <;> cases evaluate value left <;>
        cases collectDerivationTerms other right <;> cases evaluate value right <;>
        grind [signedSum_append]
    cases op with
    | add => exact joined sign (· + ·) fun a b => add_mul a b sign
    | sub => exact joined (-sign) (· - ·) fun a b => by rw [Int.cast_neg]; ring
    | mult => rfl
    | div => rfl
    | other => rfl

/-- A derivation that is accepted names no line twice, and its terms sum to what its text says. -/
theorem parseDerivation_means {parse : Text → Option Ast.Expr} {text field : Text}
    {terms : List DerivationTerm} (parsed : parseDerivation parse text field = .ok terms) :
    (terms.map DerivationTerm.code).Nodup ∧ ∃ body, parse text = some body ∧
      ∀ value, evaluate value body = some (signedSum value terms) := by
  unfold parseDerivation at parsed
  split at parsed
  · cases parsed
  · next body read =>
    split at parsed
    · cases parsed
    · split at parsed
      · cases parsed
      · next collected =>
        split_ifs at parsed with distinct
        · cases parsed
          have sum := fun value => signedSum_collectDerivationTerms value 1 body
          simp only [collected, Int.cast_one, mul_one, Option.map_id'] at sum
          exact ⟨distinct, body, read, fun value => (sum value).symm⟩
        · cases parsed

/-- Revenue less cost. -/
def grossProfitBody : Ast.Expr :=
  .binOp ⟨1, 0⟩ (.name ⟨1, 0⟩ "revenue".toList) .sub (.name ⟨1, 10⟩ "cost".toList)

theorem parseDerivation_grossProfit : ∃ terms,
    parseDerivation (fun _ => some grossProfitBody) "revenue - cost".toList [] = .ok terms ∧
      evaluate (fun _ => 1) grossProfitBody = some (signedSum (fun _ => 1) terms) := by
  obtain ⟨terms, parsed⟩ : ∃ terms,
      parseDerivation (fun _ => some grossProfitBody) "revenue - cost".toList [] = .ok terms :=
    ⟨_, rfl⟩
  obtain ⟨_, body, read, means⟩ := parseDerivation_means parsed
  cases read
  exact ⟨terms, parsed, means _⟩

/-! ## Lines -/

/-- Source `SIGN_CONVENTIONS`. -/
inductive SignConvention where
  | positive
  | signed
  | percentage
  deriving DecidableEq, Repr

/-- Source `_forbids_negative`. -/
def forbidsNegative : SignConvention → Bool
  | .positive => true
  | .signed => false
  | .percentage => true

/-- Source `StatementLineDefinition`, as `_parse_row` builds it: a line has a derivation exactly
    when it is derived. -/
structure LineDefinition where
  code : Text
  signConvention : SignConvention
  isDerived : Bool
  derivation : Option (List DerivationTerm)
  consistent : isDerived = derivation.isSome
  deriving DecidableEq

/-- The definitions the constructor is given, keyed by their code. -/
structure Definitions where
  lines : List LineDefinition
  distinct : (lines.map (·.code)).Nodup

namespace Definitions

/-- Every code of the definitions. -/
def codes (definitions : Definitions) : List Text := definitions.lines.map (·.code)

/-- `self._by_code[code]`. -/
def find (definitions : Definitions) (code : Text) : Option LineDefinition :=
  definitions.lines.find? (·.code = code)

theorem find_eq_some_iff {definitions : Definitions} {code : Text} {line : LineDefinition} :
    definitions.find code = some line ↔ line ∈ definitions.lines ∧ line.code = code :=
  find?_key_eq_some_iff definitions.distinct

/-- Source `Chart.__init__`: no line derives from itself or from an unknown line. -/
def check (definitions : Definitions) : Except StatementError Unit :=
  definitions.lines.forM fun definition =>
    (definition.derivation.getD []).forM fun term =>
      if term.code = definition.code then
        chartError ("Line ".toList ++ Text.repr definition.code ++
          " cannot derive from itself.".toList) "statement_lines".toList
      else if definitions.codes.contains term.code then .ok ()
      else
        chartError ("Line ".toList ++ Text.repr definition.code ++
            " derives from unknown line ".toList ++ Text.repr term.code ++ ['.'])
          ("statement_lines.".toList ++ definition.code ++ ".derivation".toList)

/-- What each line derives from; the others are leaves. -/
def derivations (definitions : Definitions) : DepthFirst.Table Text :=
  definitions.lines.map fun definition =>
    (definition.code, definition.derivation.map fun terms => terms.map (·.code))

/-- What `self._by_code[code]` raises. -/
def unknownLine (code : Text) : StatementError := .raised (.keyError (String.ofList code))

/-- What a cycle raises. -/
def circularDerivation (code : Text) : StatementError :=
  .chart
    { message := "Circular derivation detected involving ".toList ++ Text.repr code ++ ['.']
      field := "statement_lines".toList }

/-- Source `_topological_derivation_order`. -/
def topologicalDerivationOrder (definitions : Definitions) : Except StatementError (List Text) :=
  (DepthFirst.visitAll definitions.derivations unknownLine circularDerivation).map (·.order)

/-- A line derives from another one. -/
def Derives (definitions : Definitions) (code term : Text) : Prop :=
  ∃ line ∈ definitions.lines, line.code = code ∧
    ∃ terms, line.derivation = some terms ∧ term ∈ terms.map (·.code)

/-- Every line a derivation names is defined. -/
def Closed (definitions : Definitions) : Prop :=
  ∀ code term, definitions.Derives code term → term ∈ definitions.codes

/-- No line derives from itself, however indirectly. -/
def Acyclic (definitions : Definitions) : Prop :=
  ∀ code, ¬ Relation.TransGen definitions.Derives code code

theorem dependencies_derivations (definitions : Definitions) (code : Text) :
    DepthFirst.dependencies definitions.derivations code =
      (definitions.find code).map fun line => line.derivation.map fun terms =>
        terms.map (·.code) := by
  unfold derivations find
  induction definitions.lines with
  | nil => rfl
  | cons line lines ih =>
    rw [List.map_cons, DepthFirst.dependencies_cons, List.find?_cons]
    by_cases same : code = line.code
    · simp [same]
    · simp only [ih, same, Ne.symm same, decide_false, if_false]

theorem depends_iff {definitions : Definitions} {code term : Text} :
    DepthFirst.Depends definitions.derivations code term ↔ definitions.Derives code term := by
  unfold DepthFirst.Depends Derives
  simp only [dependencies_derivations, Option.map_eq_some_iff, find_eq_some_iff]
  constructor
  · rintro ⟨_, ⟨line, ⟨listed, same⟩, terms, derived, rfl⟩, member⟩
    exact ⟨line, listed, same, terms, derived, member⟩
  · rintro ⟨line, listed, same, terms, derived, member⟩
    exact ⟨_, ⟨line, ⟨listed, same⟩, terms, derived, rfl⟩, member⟩

theorem check_eq_ok_iff {definitions : Definitions} :
    definitions.check = .ok () ↔
      ∀ code term, definitions.Derives code term → term ≠ code ∧ term ∈ definitions.codes := by
  unfold check
  simp only [forM_eq_ok_iff]
  constructor
  · rintro passed code term ⟨line, listed, rfl, terms, derived, member⟩
    obtain ⟨item, written, rfl⟩ := List.mem_map.mp member
    have step := passed line listed item (by rw [derived]; exact written)
    split_ifs at step with self known
    · cases step
    · exact ⟨self, List.contains_iff_mem.mp known⟩
    · cases step
  · intro passed line listed item written
    cases derived : line.derivation with
    | none =>
      rw [derived] at written
      cases written
    | some terms =>
      rw [derived] at written
      obtain ⟨other, known⟩ := passed line.code item.code
        ⟨line, listed, rfl, terms, derived, List.mem_map_of_mem written⟩
      rw [if_neg other, if_pos (List.contains_iff_mem.mpr known)]

theorem mem_codes_iff {definitions : Definitions} {code : Text} :
    code ∈ definitions.codes ↔ ∃ line, definitions.find code = some line := by
  simp only [codes, List.mem_map, find_eq_some_iff]

end Definitions

/-- Source `Chart`. -/
structure Chart where
  definitions : Definitions
  taxonomyVersion : Text
  derivationOrder : List Text
  checked : definitions.check = .ok ()
  ordered : definitions.topologicalDerivationOrder = .ok derivationOrder

namespace Chart

/-- Source `Chart.__init__`. -/
def make (definitions : Definitions) (taxonomyVersion : Text) : Except StatementError Chart :=
  match checked : definitions.check with
  | .error error => .error error
  | .ok () =>
    match ordered : definitions.topologicalDerivationOrder with
    | .error error => .error error
    | .ok derivationOrder =>
      .ok { definitions, taxonomyVersion, derivationOrder, checked, ordered }

theorem make_definitions {definitions : Definitions} {taxonomyVersion : Text} {chart : Chart}
    (made : make definitions taxonomyVersion = .ok chart) : chart.definitions = definitions := by
  unfold make at made
  split at made
  · cases made
  · split at made
    · cases made
    · cases made
      rfl

theorem make_returns_iff_checks {definitions : Definitions} {taxonomyVersion : Text} :
    (∃ chart, make definitions taxonomyVersion = .ok chart) ↔
      definitions.check = .ok () ∧
        ∃ order, definitions.topologicalDerivationOrder = .ok order := by
  unfold make
  split
  · rename_i error failed
    simp [failed]
  · rename_i checked
    split
    · rename_i error failed
      simp [failed]
    · rename_i order ordered
      simp [checked, ordered]

theorem topologicalDerivationOrder_eq_ok_iff {definitions : Definitions} {order : List Text} :
    definitions.topologicalDerivationOrder = .ok order ↔
      ∃ progress, DepthFirst.visitAll definitions.derivations Definitions.unknownLine
        Definitions.circularDerivation = .ok progress ∧ progress.order = order := by
  unfold Definitions.topologicalDerivationOrder
  cases DepthFirst.visitAll definitions.derivations Definitions.unknownLine
    Definitions.circularDerivation <;> simp [Except.map]

theorem closed_iff {definitions : Definitions} :
    DepthFirst.Closed definitions.derivations ↔ definitions.Closed := by
  unfold DepthFirst.Closed Definitions.Closed
  simp only [Definitions.depends_iff, Definitions.dependencies_derivations,
    Option.map_eq_some_iff, Definitions.mem_codes_iff]
  constructor
  · intro closed code term derives
    obtain ⟨_, line, found, _⟩ := closed code term derives
    exact ⟨line, found⟩
  · intro closed code term derives
    obtain ⟨line, found⟩ := closed code term derives
    exact ⟨_, line, found, rfl⟩

theorem acyclic_iff {definitions : Definitions} :
    DepthFirst.Acyclic definitions.derivations ↔ definitions.Acyclic := by
  have same : DepthFirst.Depends definitions.derivations = definitions.Derives := by
    ext code term
    exact Definitions.depends_iff
  rw [DepthFirst.Acyclic, Definitions.Acyclic, same]

/-- The constructor accepts the definitions whose derivations are closed and have no cycle. -/
theorem make_returns_iff (definitions : Definitions) (taxonomyVersion : Text) :
    (∃ chart, make definitions taxonomyVersion = .ok chart) ↔
      definitions.Closed ∧ definitions.Acyclic := by
  have ordered : (∃ order, definitions.topologicalDerivationOrder = .ok order) ↔
      definitions.Closed ∧ definitions.Acyclic := by
    rw [← closed_iff, ← acyclic_iff, ← @DepthFirst.visitAll_returns_iff _ _ _ _
      Definitions.unknownLine Definitions.circularDerivation]
    simp only [topologicalDerivationOrder_eq_ok_iff]
    constructor
    · rintro ⟨order, progress, returned, _⟩
      exact ⟨progress, returned⟩
    · rintro ⟨progress, returned⟩
      exact ⟨progress.order, progress, returned, rfl⟩
  rw [make_returns_iff_checks, ordered, Definitions.check_eq_ok_iff]
  constructor
  · exact fun accepted => accepted.2
  · intro accepted
    refine ⟨fun code term derives => ⟨?_, accepted.1 code term derives⟩, accepted⟩
    rintro rfl
    exact accepted.2 term (.single derives)

/-- The order lists the derived lines, each after the lines it derives from. -/
theorem derivationOrder_ordered (chart : Chart) :
    DepthFirst.Ordered chart.definitions.derivations chart.derivationOrder ∧
    ∀ code, code ∈ chart.derivationOrder ↔
      ∃ line, chart.definitions.find code = some line ∧ line.isDerived = true := by
  obtain ⟨progress, returned, same⟩ := topologicalDerivationOrder_eq_ok_iff.mp chart.ordered
  obtain ⟨sound, visited⟩ := DepthFirst.visitAll_sound returned
  rw [← same]
  refine ⟨sound.ordered, fun code => ?_⟩
  rw [sound.listed code]
  simp only [Definitions.dependencies_derivations, Option.map_eq_some_iff]
  constructor
  · rintro ⟨_, deps, line, found, terms, derived, _⟩
    refine ⟨line, found, ?_⟩
    rw [line.consistent, derived]
    rfl
  · rintro ⟨line, found, derived⟩
    rw [line.consistent, Option.isSome_iff_exists] at derived
    obtain ⟨terms, derived⟩ := derived
    refine ⟨visited code ?_, _, line, found, terms, derived, rfl⟩
    obtain ⟨listed, named⟩ := Definitions.find_eq_some_iff.mp found
    rw [Definitions.derivations, List.map_map, ← named]
    exact List.mem_map_of_mem listed

theorem accepted (chart : Chart) : chart.definitions.Closed ∧ chart.definitions.Acyclic := by
  have built : ∃ built, make chart.definitions chart.taxonomyVersion = .ok built :=
    make_returns_iff_checks.mpr ⟨chart.checked, _, chart.ordered⟩
  exact (make_returns_iff chart.definitions chart.taxonomyVersion).mp built

end Chart

end Statements

end CovenantRadar
