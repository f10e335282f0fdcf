import CovenantRadar.Misc.Json
import Mathlib

/-!
# Python expressions

The trees `ast.parse(text, mode="eval")` returns, as far as the checks of formulas look at them,
and the two walks over them: `ast.walk`, and the depth measured with an explicit stack. The
parser itself is Python's own and a parameter wherever a text is parsed.
-/

namespace CovenantRadar

namespace Ast

/-- `lineno` and `col_offset`. -/
structure Position where
  lineno : Nat
  colOffset : Nat
  deriving DecidableEq, Repr

/-- The value of an `ast.Constant`. A literal beyond the largest float is infinite; text, bytes,
    complex numbers, `None` and `...` are kept by their `repr`. -/
inductive Constant where
  | bool (value : Bool)
  | int (value : Nat)
  | float (literal : FloatLiteral)
  | infinity
  | other (repr : Text)
  deriving DecidableEq

/-- `ast.operator`. -/
inductive Operator where
  | add
  | sub
  | mult
  | div
  | other (typeName : Text)
  deriving DecidableEq

/-- `ast.unaryop`. -/
inductive UnaryOperator where
  | uSub
  | uAdd
  | other (typeName : Text)
  deriving DecidableEq

/-- `ast.expr`. The parts of a construct of another type are left out: every check refuses the
    construct before it looks at them. -/
inductive Expr where
  | constant (position : Position) (value : Constant)
  | name (position : Position) (id : Text)
  | unaryOp (position : Position) (op : UnaryOperator) (operand : Expr)
  | binOp (position : Position) (left : Expr) (op : Operator) (right : Expr)
  | other (position : Position) (typeName : Text)
  deriving DecidableEq

/-- `ast.AST`: the nodes of a parsed expression. -/
inductive Node where
  | expression (body : Expr)
  | expr (expr : Expr)
  | operator (op : Operator)
  | unaryOperator (op : UnaryOperator)
  | load
  deriving DecidableEq

namespace Expr

/-- The nodes of an expression, parents first. -/
def nodes : Expr → List Node
  | constant position value => [.expr (constant position value)]
  | name position id => [.expr (name position id), .load]
  | unaryOp position op operand =>
    .expr (unaryOp position op operand) :: .unaryOperator op :: operand.nodes
  | binOp position left op right =>
    .expr (binOp position left op right) :: .operator op :: (left.nodes ++ right.nodes)
  | other position typeName => [.expr (other position typeName)]

end Expr

namespace Node

/-- `ast.iter_child_nodes`. -/
def children : Node → List Node
  | expression body => [.expr body]
  | expr (.constant _ _) => []
  | expr (.name _ _) => [.load]
  | expr (.unaryOp _ op operand) => [.unaryOperator op, .expr operand]
  | expr (.binOp _ left op right) => [.expr left, .operator op, .expr right]
  | expr (.other _ _) => []
  | operator _ => []
  | unaryOperator _ => []
  | load => []

/-- A node and everything below it. -/
def nodes : Node → List Node
  | expression body => .expression body :: body.nodes
  | expr e => e.nodes
  | operator op => [.operator op]
  | unaryOperator op => [.unaryOperator op]
  | load => [.load]

/-- How many nodes there are. -/
def size (node : Node) : Nat := node.nodes.length

/-- Below a node there are the nodes of its children. -/
theorem nodes_perm (node : Node) : node.nodes.Perm (node :: node.children.flatMap nodes) := by
  cases node with
  | expression body => simp [nodes, children]
  | expr e =>
    cases e with
    | constant position value => simp [nodes, children, Expr.nodes]
    | name position id => simp [nodes, children, Expr.nodes]
    | unaryOp position op operand => simp [nodes, children, Expr.nodes]
    | binOp position left op right =>
      simp only [nodes, children, Expr.nodes, List.flatMap_cons, List.flatMap_nil,
        List.append_nil, List.singleton_append]
      refine List.Perm.cons _ ?_
      exact (@List.perm_middle _ _ left.nodes _).symm
    | other position typeName => simp [nodes, children, Expr.nodes]
  | operator op => simp [nodes, children]
  | unaryOperator op => simp [nodes, children]
  | load => simp [nodes, children]

/-- How many nodes a queue holds. -/
def total (queue : List Node) : Nat := (queue.flatMap nodes).length

theorem total_step (node : Node) (queue : List Node) :
    total (node :: queue) = 1 + total (queue ++ node.children) := by
  have length := node.nodes_perm.length_eq
  simp only [total, List.flatMap_cons, List.flatMap_append, List.length_append, length,
    List.length_cons]
  omega

end Node

/-! ## `ast.walk` -/

/-- The loop of `ast.walk`: a queue, at most `bound` turns. -/
def walkFrom : Nat → List Node → List Node
  | 0, _ => []
  | _ + 1, [] => []
  | bound + 1, node :: queue => node :: walkFrom bound (queue ++ node.children)

/-- `ast.walk(node)`. -/
def walk (node : Node) : List Node := walkFrom node.size [node]

/-- The loop yields every node of its queue once. -/
theorem walkFrom_perm {bound : Nat} {queue : List Node} (enough : Node.total queue ≤ bound) :
    (walkFrom bound queue).Perm (queue.flatMap Node.nodes) := by
  induction bound generalizing queue with
  | zero =>
    have none : queue.flatMap Node.nodes = [] := List.eq_nil_of_length_eq_zero (by
      simpa [Node.total] using enough)
    rw [none]
    rfl
  | succ bound ih =>
    cases queue with
    | nil => rfl
    | cons node queue =>
      have step := Node.total_step node queue
      have rest := @ih (queue ++ node.children) (by omega)
      have split := node.nodes_perm
      rw [walkFrom, List.flatMap_cons]
      rw [List.flatMap_append] at rest
      calc node :: walkFrom bound (queue ++ node.children)
        _ |>.Perm (node :: (queue.flatMap Node.nodes ++ node.children.flatMap Node.nodes)) :=
          rest.cons node
        _ |>.Perm (node :: (node.children.flatMap Node.nodes ++ queue.flatMap Node.nodes)) :=
          (List.perm_append_comm).cons node
        _ |>.Perm (node.nodes ++ queue.flatMap Node.nodes) := split.symm.append_right _

theorem walk_perm (node : Node) : (walk node).Perm node.nodes := by
  have enough : Node.total [node] ≤ node.size := by simp [Node.total, Node.size]
  simpa [walk] using walkFrom_perm enough

end Ast

end CovenantRadar
