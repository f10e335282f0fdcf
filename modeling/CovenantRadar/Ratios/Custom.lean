import CovenantRadar.Statements.Chart

/-!
# Custom formulas

Source `domain/ratios/custom.py`: the checks of a formula a bank has typed, and its evaluation over the
lines of a period, on exact rationals. Python's own parser is a parameter, and so is the search for
similar names that a refusal suggests.
-/

namespace CovenantRadar

namespace Ratios

open Statements (nodeTypeName)

/-- Source `FormulaRefused`. -/
structure FormulaRefused where
  message : Text
  construct : Text
  deriving DecidableEq

/-- Source `NotComputableReason`. -/
inductive NotComputableReason where
  | missingLine
  | zeroDenominator
  | signMeaninglessDenominator
  | periodIncomplete
  | facilityFactsAbsent
  | formulaNotComputable
  deriving DecidableEq, Repr

/-- Source `FormulaOutcome`, computable with a value or not computable for a reason. -/
inductive FormulaOutcome where
  | computed (value : ℚ) (inputsUsed : List (Text × ℚ))
  | notComputable (reason : NotComputableReason) (inputsUsed : List (Text × ℚ))
      (reasonContext : List (Text × Text))
  deriving DecidableEq

/-- `outcome.value`. -/
def FormulaOutcome.value : FormulaOutcome → Option ℚ
  | computed value _ => some value
  | notComputable _ _ _ => none

/-- `outcome.reason`. -/
def FormulaOutcome.reason : FormulaOutcome → Option NotComputableReason
  | computed _ _ => none
  | notComputable reason _ _ => some reason

/-- What the evaluation of an expression raises. -/
inductive EvaluationError where
  | zeroDivisionError
  | keyError (name : Text)
  | assertionError (message : Text)
  deriving DecidableEq

/-- Source `MAX_FORMULA_LENGTH`. -/
def maxFormulaLength : Nat := 500

/-- Source `MAX_FORMULA_DEPTH`. -/
def maxFormulaDepth : Nat := 20

/-! ## The checks -/

/-- Source `_CONSTRUCT_NAMES`, by the names of the types. -/
def constructNames : List (Text × Text) :=
  [("Call", "a function call"), ("Attribute", "attribute access"), ("Subscript", "a subscript"),
    ("Slice", "a slice"), ("ListComp", "a list comprehension"), ("SetComp", "a set comprehension"),
    ("DictComp", "a dict comprehension"), ("GeneratorExp", "a generator expression"),
    ("Lambda", "a lambda"), ("Import", "an import"), ("ImportFrom", "an import"),
    ("NamedExpr", "a walrus assignment"), ("Compare", "a comparison"),
    ("BoolOp", "a boolean operator"), ("IfExp", "a conditional expression"),
    ("Starred", "a starred expression"), ("Await", "an await expression"),
    ("Yield", "a yield expression"), ("YieldFrom", "a yield expression"),
    ("JoinedStr", "an f-string"), ("List", "a list literal"), ("Tuple", "a tuple literal"),
    ("Set", "a set literal"), ("Dict", "a dict literal"),
    ("FormattedValue", "an f-string expression")].map fun entry => (entry.1.toList, entry.2.toList)

/-- Where a node stands; operators have no position. -/
def positionOf : Ast.Node → Option Ast.Position
  | .expr (.constant position _) => some position
  | .expr (.name position _) => some position
  | .expr (.unaryOp position _ _) => some position
  | .expr (.binOp position _ _ _) => some position
  | .expr (.other position _) => some position
  | .expression _ => none
  | .operator _ => none
  | .unaryOperator _ => none
  | .load => none

/-- Source `_position`. -/
def position (node : Ast.Node) : Text :=
  match positionOf node with
  | some place => "line ".toList ++ Text.ofNat place.lineno ++ ", column ".toList ++
      Text.ofNat (place.colOffset + 1)
  | none => "an unknown position".toList

/-- Source `_construct_name`. -/
def constructName (node : Ast.Node) : Text :=
  (dictGet constructNames (nodeTypeName node)).getD (nodeTypeName node)

/-- Source `_refuse_construct`. -/
def refuseConstruct (node : Ast.Node) : FormulaRefused :=
  ⟨"The custom formula uses ".toList ++ constructName node ++ " at ".toList ++ position node ++
    ", which is not permitted; only literals, statement-line names, +, -, *, / ".toList ++
    "and parentheses are allowed.".toList, constructName node⟩

/-- `repr(node.value)`, of a constant that is no number. -/
def constantRepr : Ast.Constant → Text
  | .bool true => "True".toList
  | .bool false => "False".toList
  | .int value => Text.ofNat value
  | .float literal => literal.text
  | .infinity => "inf".toList
  | .other repr => repr

/-- Source `_refuse_non_numeric_constant`. -/
def refuseNonNumericConstant (node : Ast.Node) (value : Ast.Constant) : FormulaRefused :=
  ⟨"The custom formula has a non-numeric literal (".toList ++ constantRepr value ++
    ") at ".toList ++ position node ++ "; only numeric literals are permitted.".toList,
    "non_numeric_constant".toList⟩

/-- Source `_refuse_unknown_line`, with the names close to the unknown one. -/
def refuseUnknownLine (node : Ast.Node) (id : Text) (closeMatches : List Text) : FormulaRefused :=
  let named := "The custom formula names ".toList ++ Text.repr id ++ " at ".toList ++
    position node ++ ", which is not a known statement line".toList
  if closeMatches = [] then
    ⟨named ++ ", and no similarly named line exists.".toList, "unknown_line".toList⟩
  else
    ⟨named ++ "; did you mean: ".toList ++ List.intercalate ", ".toList closeMatches ++ ['?'],
      "unknown_line".toList⟩

/-- Source `_refuse_no_line_referenced`. -/
def refuseNoLineReferenced (text : Text) : FormulaRefused :=
  ⟨"The custom formula ".toList ++ Text.repr text ++
    " references no statement line; a constant is not a covenant.".toList,
    "no_line_referenced".toList⟩

/-- Source `_refuse_too_long`. -/
def refuseTooLong (text : Text) : FormulaRefused :=
  ⟨"The custom formula is ".toList ++ Text.ofNat text.length ++
    " characters long, exceeding the 500-character limit.".toList, "formula_too_long".toList⟩

/-- Source `_refuse_too_deep`. -/
def refuseTooDeep (text : Text) (depth : Nat) : FormulaRefused :=
  ⟨"The custom formula ".toList ++ Text.repr text ++ " nests ".toList ++ Text.ofNat depth ++
    " levels deep, exceeding the 20-level limit.".toList, "formula_too_deep".toList⟩

/-- Source `_refuse_unparseable`. -/
def refuseUnparseable (text : Text) : FormulaRefused :=
  ⟨"The custom formula ".toList ++ Text.repr text ++ " is not a valid expression.".toList,
    "syntax_error".toList⟩

/-- `isinstance(node, _ALLOWED_NODES)`. -/
def isAllowedNode : Ast.Node → Bool
  | .expression _ => true
  | .expr (.constant _ _) => true
  | .expr (.name _ _) => true
  | .expr (.unaryOp _ _ _) => true
  | .expr (.binOp _ _ _ _) => true
  | .expr (.other _ _) => false
  | .operator (.other _) => false
  | .operator _ => true
  | .unaryOperator (.other _) => false
  | .unaryOperator _ => true
  | .load => true

/-- An integer or a finite float, and no boolean. -/
def isNumeric : Ast.Constant → Bool
  | .int _ => true
  | .float _ => true
  | .bool _ => false
  | .infinity => false
  | .other _ => false

variable (parse : Text → Option Ast.Expr) (getCloseMatches : Text → List Text → List Text)

/-- What the loop of `_validate_nodes_and_collect_names` does with one node: the name it requires. -/
def validateNode (allowedLines : List Text) (node : Ast.Node) :
    Except FormulaRefused (Option Text) :=
  if isAllowedNode node = false then .error (refuseConstruct node)
  else
    match node with
    | .expr (.constant _ value) =>
      if isNumeric value then .ok none else .error (refuseNonNumericConstant node value)
    | .expr (.name _ id) =>
      if allowedLines.contains id then .ok (some id)
      else .error (refuseUnknownLine node id (getCloseMatches id (sortedSet allowedLines)))
    | _ => .ok none

/-- Source `_validate_nodes_and_collect_names`; the names in order. -/
def validateNodesAndCollectNames (body : Ast.Expr) (allowedLines : List Text) :
    Except FormulaRefused (List Text) := do
  let names ← (Ast.walk (.expression body)).mapM (validateNode getCloseMatches allowedLines)
  return sortedSet (names.filterMap id)

/-- The loop of `_tree_depth`: a stack of nodes with their depths, at most `bound` turns. -/
def depthFrom : Nat → Nat → List (Ast.Node × Nat) → Nat
  | 0, deepest, _ => deepest
  | _ + 1, deepest, [] => deepest
  | bound + 1, deepest, entry :: stack =>
    depthFrom bound (max deepest entry.2)
      ((entry.1.children.map fun child => (child, entry.2 + 1)).reverse ++ stack)

/-- Source `_tree_depth`. -/
def treeDepth (root : Ast.Node) : Nat := depthFrom root.size 0 [(root, 1)]

/-- Source `Formula`, with the tree its evaluator keeps. -/
structure Formula where
  text : Text
  requiredLines : List Text
  body : Ast.Expr

/-- Source `parse_custom_formula`. -/
def parseCustomFormula (text : Text) (allowedLines : List Text) : Except FormulaRefused Formula :=
  if text = [] ∨ maxFormulaLength < text.length then .error (refuseTooLong text)
  else do
    let body ← (parse text).elim (.error (refuseUnparseable text)) .ok
    let requiredLines ← validateNodesAndCollectNames getCloseMatches body allowedLines
    let depth := treeDepth (.expression body)
    if requiredLines = [] then .error (refuseNoLineReferenced text)
    else if maxFormulaDepth < depth then .error (refuseTooDeep text depth)
    else .ok ⟨text, requiredLines, body⟩

/-! ## Evaluation -/

/-- Source `_decimal_constant`. What `str` writes for a float is always read as a decimal. -/
def decimalConstant : Ast.Constant → Except EvaluationError ℚ
  | .int value => .ok value
  | .float literal => .ok ((Decimal.ofText literal.text).elim 0 Decimal.value)
  | value => .error (.assertionError ("Unreachable: ".toList ++ constantRepr value ++
      " should have been refused as a non-numeric constant.".toList))

/-- Source `_evaluate_node`. -/
def evaluateNode (values : List (Text × ℚ)) : Ast.Expr → Except EvaluationError ℚ
  | .constant _ value => decimalConstant value
  | .name _ id => (dictGet values id).elim (.error (.keyError id)) .ok
  | .unaryOp _ op operand => do
    let value ← evaluateNode values operand
    match op with
    | .uSub => .ok (-value)
    | .uAdd => .ok value
    | .other typeName => .error (.assertionError
        ("Unreachable unary operator: ".toList ++ typeName ++ ['.']))
  | .binOp _ leftNode op rightNode => do
    let left ← evaluateNode values leftNode
    let right ← evaluateNode values rightNode
    match op with
    | .add => .ok (left + right)
    | .sub => .ok (left - right)
    | .mult => .ok (left * right)
    | .div => if right = 0 then .error .zeroDivisionError else .ok (left / right)
    | .other typeName => .error (.assertionError
        ("Unreachable binary operator: ".toList ++ typeName ++ ['.']))
  | .other _ typeName => .error (.assertionError
      ("Unreachable: ".toList ++ typeName ++ " should have been refused at parse time.".toList))

/-- Source `Formula.evaluate`, on a mapping of lines to values. -/
def Formula.evaluate (formula : Formula) (lines : Text → Option ℚ) :
    Except EvaluationError FormulaOutcome :=
  let missing := formula.requiredLines.filter fun name => (lines name).isNone
  if missing ≠ [] then
    .ok (.notComputable .missingLine []
      [("names".toList, List.intercalate ", ".toList missing)])
  else do
    let inputsUsed ← formula.requiredLines.mapM fun name =>
      (lines name).elim (.error (.keyError name)) fun value => .ok (name, value)
    match evaluateNode inputsUsed formula.body with
    | .ok value => .ok (.computed value inputsUsed)
    | .error .zeroDivisionError =>
      .ok (.notComputable .formulaNotComputable inputsUsed
        [("detail".toList, "division by zero".toList)])
    | .error error => .error error

/-! ## What the checks let through -/

/-- The divisors in an expression. -/
def divisors : Ast.Expr → List Ast.Expr
  | .constant _ _ => []
  | .name _ _ => []
  | .unaryOp _ _ operand => divisors operand
  | .binOp _ left .div right => right :: (divisors left ++ divisors right)
  | .binOp _ left _ right => divisors left ++ divisors right
  | .other _ _ => []

/-- The expressions `_evaluate_node` handles, over the lines it is given. -/
inductive Evaluable (names : List Text) : Ast.Expr → Prop
  | constant {position : Ast.Position} {value : Ast.Constant} (numeric : isNumeric value = true) :
      Evaluable names (.constant position value)
  | name {position : Ast.Position} {id : Text} (listed : id ∈ names) :
      Evaluable names (.name position id)
  | unaryOp {position : Ast.Position} {op : Ast.UnaryOperator} {operand : Ast.Expr}
      (known : isAllowedNode (.unaryOperator op) = true) (inner : Evaluable names operand) :
      Evaluable names (.unaryOp position op operand)
  | binOp {position : Ast.Position} {op : Ast.Operator} {left right : Ast.Expr}
      (known : isAllowedNode (.operator op) = true) (first : Evaluable names left)
      (second : Evaluable names right) : Evaluable names (.binOp position left op right)

/-- Nodes that pass one by one make an expression that can be evaluated. -/
theorem evaluable_of_nodes {names : List Text} {body : Ast.Expr}
    (allowed : ∀ node ∈ body.nodes, isAllowedNode node = true)
    (numeric : ∀ position value, .expr (.constant position value) ∈ body.nodes →
      isNumeric value = true)
    (listed : ∀ position id, .expr (.name position id) ∈ body.nodes → id ∈ names) :
    Evaluable names body := by
  induction body with
  | constant position value => exact .constant (numeric position value List.mem_cons_self)
  | name position id => exact .name (listed position id List.mem_cons_self)
  | unaryOp position op operand ih =>
    have below {node : Ast.Node} (inside : node ∈ operand.nodes) :
        node ∈ (Ast.Expr.unaryOp position op operand).nodes :=
      List.mem_cons_of_mem _ (List.mem_cons_of_mem _ inside)
    refine .unaryOp (allowed _ (List.mem_cons_of_mem _ List.mem_cons_self)) (ih ?_ ?_ ?_)
    · exact fun node inside => allowed node (below inside)
    · exact fun position value inside => numeric position value (below inside)
    · exact fun position id inside => listed position id (below inside)
  | binOp position left op right first second =>
    have inLeft {node : Ast.Node} (inside : node ∈ left.nodes) :
        node ∈ (Ast.Expr.binOp position left op right).nodes :=
      List.mem_cons_of_mem _ (List.mem_cons_of_mem _ (List.mem_append_left _ inside))
    have inRight {node : Ast.Node} (inside : node ∈ right.nodes) :
        node ∈ (Ast.Expr.binOp position left op right).nodes :=
      List.mem_cons_of_mem _ (List.mem_cons_of_mem _ (List.mem_append_right _ inside))
    refine .binOp (allowed _ (List.mem_cons_of_mem _ List.mem_cons_self)) (first ?_ ?_ ?_)
      (second ?_ ?_ ?_)
    · exact fun node inside => allowed node (inLeft inside)
    · exact fun position value inside => numeric position value (inLeft inside)
    · exact fun position id inside => listed position id (inLeft inside)
    · exact fun node inside => allowed node (inRight inside)
    · exact fun position value inside => numeric position value (inRight inside)
    · exact fun position id inside => listed position id (inRight inside)
  | other position typeName =>
    have refused := allowed (.expr (.other position typeName)) List.mem_cons_self
    cases refused

/-- A node that passes is allowed, and a number or a known line where it is a leaf. -/
theorem validateNode_eq_ok {allowedLines : List Text} {node : Ast.Node} {required : Option Text}
    (passed : validateNode getCloseMatches allowedLines node = .ok required) :
    isAllowedNode node = true ∧
      (∀ position value, node = .expr (.constant position value) → isNumeric value = true) ∧
        ∀ position id, node = .expr (.name position id) → required = some id := by
  unfold validateNode at passed
  split_ifs at passed with refused
  refine ⟨by simpa using refused, ?_, ?_⟩
  · rintro position value rfl
    simp only at passed
    split_ifs at passed with numeric
    exact numeric
  · rintro position id rfl
    simp only at passed
    split_ifs at passed with known
    exact (Except.ok.inj passed).symm

/-- The lines an accepted formula requires are the names in it, and it can be evaluated over them. -/
theorem evaluable_of_validate {body : Ast.Expr} {allowedLines requiredLines : List Text}
    (passed : validateNodesAndCollectNames getCloseMatches body allowedLines = .ok requiredLines) :
    Evaluable requiredLines body := by
  obtain ⟨names, each, collected⟩ := Except.bind_eq_ok_iff.mp passed
  cases collected
  have pairs := forall₂_exists (mapM_eq_ok_iff.mp each)
  have walked : ∀ node ∈ body.nodes, node ∈ Ast.walk (.expression body) := fun node inside =>
    (Ast.walk_perm _).mem_iff.mpr (List.mem_cons_of_mem _ inside)
  refine evaluable_of_nodes ?_ ?_ ?_
  · intro node inside
    obtain ⟨required, -, valid⟩ := pairs.1 node (walked node inside)
    exact (validateNode_eq_ok getCloseMatches valid).1
  · intro position value inside
    obtain ⟨required, -, valid⟩ := pairs.1 _ (walked _ inside)
    exact (validateNode_eq_ok getCloseMatches valid).2.1 position value rfl
  · intro position id inside
    obtain ⟨required, listed, valid⟩ := pairs.1 _ (walked _ inside)
    have isName := (validateNode_eq_ok getCloseMatches valid).2.2 position id rfl
    refine mem_sortedSet.mpr (List.mem_filterMap.mpr ⟨required, listed, ?_⟩)
    exact isName

theorem evaluable_of_parseCustomFormula {text : Text} {allowedLines : List Text} {formula : Formula}
    (accepted : parseCustomFormula parse getCloseMatches text allowedLines = .ok formula) :
    Evaluable formula.requiredLines formula.body := by
  unfold parseCustomFormula at accepted
  split_ifs at accepted with long
  obtain ⟨body, parsed, accepted⟩ := Except.bind_eq_ok_iff.mp accepted
  obtain ⟨requiredLines, valid, accepted⟩ := Except.bind_eq_ok_iff.mp accepted
  simp only at accepted
  split_ifs at accepted with constant deep
  cases accepted
  exact evaluable_of_validate getCloseMatches valid

/-! ## What an evaluation reports -/

theorem decimalConstant_returns {value : Ast.Constant} (numeric : isNumeric value = true) :
    ∃ number, decimalConstant value = .ok number := by
  cases value with
  | int value => exact ⟨_, rfl⟩
  | float literal => exact ⟨_, rfl⟩
  | bool value => cases numeric
  | infinity => cases numeric
  | other repr => cases numeric

/-- An expression has a value and no divisor is zero, or it is a division by zero and some divisor
    is. -/
theorem evaluateNode_outcome {names : List Text} {values : List (Text × ℚ)} {e : Ast.Expr}
    (evaluable : Evaluable names e)
    (present : ∀ name ∈ names, ∃ value, dictGet values name = some value) :
    ((∃ value, evaluateNode values e = .ok value) ∧
        ∀ divisor ∈ divisors e, evaluateNode values divisor ≠ .ok 0) ∨
      (evaluateNode values e = .error .zeroDivisionError ∧
        ∃ divisor ∈ divisors e, evaluateNode values divisor = .ok 0) := by
  induction evaluable with
  | constant numeric => exact .inl ⟨decimalConstant_returns numeric, fun _ inside => nomatch inside⟩
  | @name position id listed =>
    obtain ⟨value, found⟩ := present id listed
    refine .inl ⟨⟨value, ?_⟩, fun _ inside => nomatch inside⟩
    rw [evaluateNode, found]
    rfl
  | @unaryOp position op operand known inner ih =>
    rcases ih with ⟨⟨value, returned⟩, nonzero⟩ | ⟨raised, zero⟩
    · refine .inl ⟨?_, nonzero⟩
      cases op with
      | uSub => exact ⟨-value, Except.bind_eq_ok_iff.mpr ⟨value, returned, rfl⟩⟩
      | uAdd => exact ⟨value, Except.bind_eq_ok_iff.mpr ⟨value, returned, rfl⟩⟩
      | other typeName => cases known
    · refine .inr ⟨?_, zero⟩
      rw [evaluateNode, raised]
      rfl
  | @binOp position op left right known first second ihLeft ihRight =>
    have inLeft {divisor : Ast.Expr} (inside : divisor ∈ divisors left) :
        divisor ∈ divisors (.binOp position left op right) := by
      cases op <;> simp [divisors, inside]
    have inRight {divisor : Ast.Expr} (inside : divisor ∈ divisors right) :
        divisor ∈ divisors (.binOp position left op right) := by
      cases op <;> simp [divisors, inside]
    rcases ihLeft with ⟨⟨a, returned⟩, nonzero⟩ | ⟨raised, divisor, inside, zero⟩
    · rcases ihRight with ⟨⟨b, returned'⟩, nonzero'⟩ | ⟨raised, divisor, inside, zero⟩
      · have both : ∀ divisor ∈ divisors left ++ divisors right,
            evaluateNode values divisor ≠ .ok 0 := by
          intro divisor inside
          rcases List.mem_append.mp inside with inside | inside
          · exact nonzero divisor inside
          · exact nonzero' divisor inside
        rw [evaluateNode, returned, returned']
        cases op with
        | add => exact .inl ⟨⟨a + b, rfl⟩, both⟩
        | sub => exact .inl ⟨⟨a - b, rfl⟩, both⟩
        | mult => exact .inl ⟨⟨a * b, rfl⟩, both⟩
        | div =>
          by_cases zero : b = 0
          · refine .inr ⟨if_pos zero, right, List.mem_cons_self, ?_⟩
            rw [returned', zero]
          · refine .inl ⟨⟨a / b, if_neg zero⟩, fun divisor inside => ?_⟩
            rcases List.mem_cons.mp inside with rfl | inside
            · rw [returned']
              exact fun same => zero (Except.ok.inj same)
            · exact both divisor inside
        | other typeName => cases known
      · refine .inr ⟨?_, divisor, inRight inside, zero⟩
        rw [evaluateNode, returned, raised]
        rfl
    · refine .inr ⟨?_, divisor, inLeft inside, zero⟩
      rw [evaluateNode, raised]
      rfl

/-- The values of the required lines, as an evaluation reads them. -/
def Formula.Reads (formula : Formula) (lines : Text → Option ℚ) (inputs : List (Text × ℚ)) : Prop :=
  List.Forall₂ (fun name input => input.1 = name ∧ lines name = some input.2)
    formula.requiredLines inputs

theorem dictGet_of_reads {formula : Formula} {lines : Text → Option ℚ} {inputs : List (Text × ℚ)}
    (reads : formula.Reads lines inputs) {name : Text} (required : name ∈ formula.requiredLines) :
    ∃ value, dictGet inputs name = some value := by
  obtain ⟨input, listed, same, -⟩ := (forall₂_exists reads).1 name required
  cases found : dictGet inputs name with
  | some value => exact ⟨value, rfl⟩
  | none =>
    unfold dictGet at found
    rw [Option.map_eq_none_iff, List.find?_eq_none] at found
    exact absurd (decide_eq_true same) (found input listed)

theorem eq_of_reads {formula : Formula} {lines : Text → Option ℚ} {inputs : List (Text × ℚ)}
    (reads : formula.Reads lines inputs) :
    inputs = formula.requiredLines.map fun name => (name, (lines name).getD 0) := by
  have each := @map_eq_of_forall₂ _ _ _ _ (fun name => (name, (lines name).getD 0)) id _ _
    (fun name input related => by
      obtain ⟨same, found⟩ := related
      rw [found, ← same]
      rfl) reads
  rw [each, List.map_id]

/-- Where no required line is missing, the values of the lines are read and the body is evaluated. -/
theorem evaluate_of_reads {formula : Formula} {lines : Text → Option ℚ} {inputs : List (Text × ℚ)}
    (reads : formula.Reads lines inputs) (evaluable : Evaluable formula.requiredLines formula.body) :
    ((∃ value, evaluateNode inputs formula.body = .ok value ∧
        formula.evaluate lines = .ok (.computed value inputs)) ∧
        ∀ divisor ∈ divisors formula.body, evaluateNode inputs divisor ≠ .ok 0) ∨
      (evaluateNode inputs formula.body = .error .zeroDivisionError ∧
        formula.evaluate lines = .ok (.notComputable .formulaNotComputable inputs
          [("detail".toList, "division by zero".toList)]) ∧
        ∃ divisor ∈ divisors formula.body, evaluateNode inputs divisor = .ok 0) := by
  have missing : (formula.requiredLines.filter fun name => (lines name).isNone) = [] := by
    rw [List.filter_eq_nil_iff]
    intro name required
    obtain ⟨input, -, -, found⟩ := (forall₂_exists reads).1 name required
    simp [found]
  have read : (formula.requiredLines.mapM fun name =>
      (lines name).elim (Except.error (EvaluationError.keyError name)) fun value =>
        .ok (name, value)) = .ok inputs := by
    refine mapM_eq_ok_iff.mpr (reads.imp ?_)
    rintro name ⟨name', value⟩ ⟨same, found⟩
    rw [found, ← same]
    rfl
  unfold Formula.evaluate
  simp only [missing, ne_eq, not_true_eq_false, if_false, read]
  rcases evaluateNode_outcome evaluable (fun name => dictGet_of_reads reads) with
    ⟨⟨value, returned⟩, nonzero⟩ | ⟨raised, zero⟩
  · refine .inl ⟨⟨value, returned, ?_⟩, nonzero⟩
    refine Except.bind_eq_ok_iff.mpr ⟨inputs, rfl, ?_⟩
    simp only [returned]
  · refine .inr ⟨raised, ?_, zero⟩
    refine Except.bind_eq_ok_iff.mpr ⟨inputs, rfl, ?_⟩
    simp only [raised]

/-- Either a required line is missing, or every one has a value. -/
theorem missing_or_reads (formula : Formula) (lines : Text → Option ℚ) :
    (∃ name ∈ formula.requiredLines, lines name = none) ∨ ∃ inputs, formula.Reads lines inputs := by
  by_cases missing : ∃ name ∈ formula.requiredLines, lines name = none
  · exact .inl missing
  · push Not at missing
    unfold Formula.Reads
    generalize formula.requiredLines = names at missing
    right
    induction names with
    | nil => exact ⟨[], .nil⟩
    | cons name names ih =>
      obtain ⟨value, found⟩ := Option.ne_none_iff_exists'.mp (missing name List.mem_cons_self)
      obtain ⟨inputs, reads⟩ := ih fun other inside => missing other (List.mem_cons_of_mem _ inside)
      exact ⟨(name, value) :: inputs, .cons ⟨rfl, found⟩ reads⟩

theorem evaluate_congr {formula : Formula} {lines lines' : Text → Option ℚ}
    (same : ∀ name ∈ formula.requiredLines, lines' name = lines name) :
    formula.evaluate lines' = formula.evaluate lines := by
  have missing : (formula.requiredLines.filter fun name => (lines' name).isNone) =
      formula.requiredLines.filter fun name => (lines name).isNone :=
    List.filter_congr fun name required => by rw [same name required]
  have read : (formula.requiredLines.mapM fun name =>
      (lines' name).elim (Except.error (EvaluationError.keyError name)) fun value =>
        Except.ok (name, value)) = formula.requiredLines.mapM fun name =>
      (lines name).elim (Except.error (EvaluationError.keyError name)) fun value =>
        .ok (name, value) :=
    mapM_congr_forall₂ (List.forall₂_eq_eq_eq ▸ rfl) fun name required other equal => by
      rw [← equal, same name required]
  unfold Formula.evaluate
  rw [missing, read]

/-- An accepted formula is always evaluated to a value or to one of two reports: a missing line where
    a required one is absent, a division by zero where none is and a divisor is zero. Only the lines
    it requires count. -/
theorem evaluate_total {text : Text} {allowedLines : List Text} {formula : Formula}
    (accepted : parseCustomFormula parse getCloseMatches text allowedLines = .ok formula)
    (lines : Text → Option ℚ) :
    (∃ outcome, formula.evaluate lines = .ok outcome ∧
      (outcome.value.isSome ∨ outcome.reason = some .missingLine ∨
        outcome.reason = some .formulaNotComputable) ∧
      (outcome.reason = some .missingLine ↔ ∃ name ∈ formula.requiredLines, lines name = none) ∧
      (outcome.reason = some .formulaNotComputable ↔ ∃ inputs, formula.Reads lines inputs ∧
        ∃ divisor ∈ divisors formula.body, evaluateNode inputs divisor = .ok 0) ∧
      ∀ value, outcome.value = some value ↔
        ∃ inputs, formula.Reads lines inputs ∧ evaluateNode inputs formula.body = .ok value) ∧
    ∀ lines', (∀ name ∈ formula.requiredLines, lines' name = lines name) →
      formula.evaluate lines' = formula.evaluate lines := by
  refine ⟨?_, fun lines' same => evaluate_congr same⟩
  have evaluable := evaluable_of_parseCustomFormula parse getCloseMatches accepted
  have unique {inputs inputs' : List (Text × ℚ)} (reads : formula.Reads lines inputs)
      (reads' : formula.Reads lines inputs') : inputs' = inputs :=
    (eq_of_reads reads').trans (eq_of_reads reads).symm
  rcases missing_or_reads formula lines with missing | ⟨inputs, reads⟩
  · have unread : ¬ ∃ inputs, formula.Reads lines inputs := by
      rintro ⟨inputs, reads⟩
      obtain ⟨name, required, absent⟩ := missing
      obtain ⟨input, -, -, found⟩ := (forall₂_exists reads).1 name required
      rw [absent] at found
      cases found
    have some' : (formula.requiredLines.filter fun name => (lines name).isNone) ≠ [] := by
      obtain ⟨name, required, absent⟩ := missing
      exact List.ne_nil_of_mem (List.mem_filter.mpr ⟨required, by rw [absent]; rfl⟩)
    refine ⟨_, if_pos some', .inr (.inl rfl), iff_of_true rfl missing, ?_, fun value => ?_⟩
    · refine iff_of_false (by simp [FormulaOutcome.reason]) fun ⟨inputs, reads, _⟩ => ?_
      exact unread ⟨inputs, reads⟩
    · refine iff_of_false (by simp [FormulaOutcome.value]) fun ⟨inputs, reads, _⟩ => ?_
      exact unread ⟨inputs, reads⟩
  · have complete : ¬ ∃ name ∈ formula.requiredLines, lines name = none := by
      rintro ⟨name, required, absent⟩
      obtain ⟨input, -, -, found⟩ := (forall₂_exists reads).1 name required
      rw [absent] at found
      cases found
    rcases evaluate_of_reads reads evaluable with
      ⟨⟨value, returned, evaluated⟩, nonzero⟩ | ⟨raised, evaluated, zero⟩
    · refine ⟨_, evaluated, .inl rfl, iff_of_false (by simp [FormulaOutcome.reason]) complete, ?_,
        fun value' => ⟨fun same => ?_, fun ⟨inputs', reads', returned'⟩ => ?_⟩⟩
      · refine iff_of_false (by simp [FormulaOutcome.reason]) ?_
        rintro ⟨inputs', reads', divisor, inside, zero⟩
        exact nonzero divisor inside (unique reads reads' ▸ zero)
      · exact ⟨inputs, reads, returned.trans (congrArg Except.ok (Option.some.inj same))⟩
      · rw [unique reads reads', returned] at returned'
        exact congrArg some (Except.ok.inj returned')
    · refine ⟨_, evaluated, .inr (.inr rfl), iff_of_false (by simp [FormulaOutcome.reason]) complete,
        iff_of_true rfl ⟨inputs, reads, zero⟩, fun value => iff_of_false (by simp [FormulaOutcome.value]) ?_⟩
      rintro ⟨inputs', reads', returned⟩
      rw [unique reads reads', raised] at returned
      cases returned

/-! ## A formula over two lines -/

/-- `ebitda / (debt - cash)`, parsed. -/
def netLeverage : Ast.Expr :=
  .binOp ⟨1, 0⟩ (.name ⟨1, 0⟩ "ebitda".toList) .div
    (.binOp ⟨1, 10⟩ (.name ⟨1, 10⟩ "debt".toList) .sub (.name ⟨1, 17⟩ "cash".toList))

/-- The lines of a period in which the debt is covered by cash. -/
def coveredLines (name : Text) : Option ℚ :=
  if name = "ebitda".toList then some 12
  else if name = "debt".toList then some 5
  else if name = "cash".toList then some 5
  else none

/-- `ebitda / (debt - cash)` over equal debt and cash is a division by zero. -/
theorem evaluate_total_netLeverage :
    ∃ formula outcome, parseCustomFormula (fun _ => some netLeverage) (fun _ _ => [])
        "ebitda / (debt - cash)".toList ["cash".toList, "debt".toList, "ebitda".toList] =
          .ok formula ∧
      formula.evaluate coveredLines = .ok outcome ∧
      outcome.reason = some .formulaNotComputable := by
  have accepted : ∃ formula, parseCustomFormula (fun _ => some netLeverage) (fun _ _ => [])
      "ebitda / (debt - cash)".toList ["cash".toList, "debt".toList, "ebitda".toList] =
        .ok formula ∧ formula.requiredLines = ["cash".toList, "debt".toList, "ebitda".toList] ∧
          formula.body = netLeverage := ⟨_, rfl, by decide, rfl⟩
  obtain ⟨formula, accepted, required, body⟩ := accepted
  obtain ⟨⟨outcome, evaluated, -, -, division, -⟩, -⟩ := evaluate_total _ _ accepted coveredLines
  refine ⟨formula, outcome, accepted, evaluated, division.mpr ?_⟩
  refine ⟨[("cash".toList, 5), ("debt".toList, 5), ("ebitda".toList, 12)], ?_, ?_⟩
  · unfold Formula.Reads
    rw [required]
    exact .cons ⟨rfl, by decide⟩ (.cons ⟨rfl, by decide⟩ (.cons ⟨rfl, by decide⟩ .nil))
  · rw [body]
    refine ⟨_, List.mem_cons_self, ?_⟩
    show (Except.ok ((5 : ℚ) - 5) : Except EvaluationError ℚ) = .ok 0
    rw [sub_self]

end Ratios

end CovenantRadar
