import DuplicateLogic.Syntax.Node

/-! # Reading statements and expressions out of nodes

Each view names the parts of one form. A part that a malformed node lacks is absent; binary and
postfix expressions are read only when they have exactly their three or two children. -/

namespace DuplicateLogic

namespace Node

/-- The child right after the first `else`. -/
def alternative? (node : Node) : Option Node :=
  ((node.children.dropWhile fun child => child.kind ≠ .keyword .elseKeyword).drop 1).head?

theorem mem_children_of_alternative? {node alternative : Node}
    (found : node.alternative? = some alternative) : alternative ∈ node.children :=
  (List.dropWhile_sublist _).subset (List.mem_of_mem_drop (List.mem_of_mem_head? found))

/-- The members of a lone list node, or the nodes as they are. -/
def ungroup : List Node → List Node
  | [item] => if item.kind = .construct .syntaxList then item.children else [item]
  | items => items

/-- The children before the first colon, when there is a colon. -/
def beforeColon? (node : Node) : Option (List Node) :=
  if node.children.any fun child => child.kind = .punctuation .colon then
    some (node.children.takeWhile fun child => child.kind ≠ .punctuation .colon)
  else
    none

/-- The children after the first colon; none when there is no colon. -/
def afterColon (node : Node) : List Node :=
  (node.children.dropWhile fun child => child.kind ≠ .punctuation .colon).drop 1

end Node

/-- The parts of an `if` statement. -/
structure IfStatement where
  condition? : Option Node
  consequence? : Option Node
  alternative? : Option Node

namespace IfStatement

/-- The parts of an if-statement node. -/
def parts (node : Node) : IfStatement where
  condition? := node.operands[0]?
  consequence? := node.operands[1]?
  alternative? := node.alternative?

/-- The node read as an `if` statement. -/
def ofNode? (node : Node) : Option IfStatement :=
  if node.kind = .construct .ifStatement then some (parts node) else none

end IfStatement

/-- One `case` or `default` clause. -/
structure Clause where
  node : Node
  isDefault : Bool
  label? : Option Node
  statements : List Node

namespace Clause

/-- The node read as a clause. The label stands before the first colon and the statements, freed
from a list node around them, after it. -/
def ofNode? (node : Node) : Option Clause :=
  if node.kind = .construct .defaultClause then
    some ⟨node, true, none, Node.ungroup node.afterColon⟩
  else if node.kind = .construct .caseClause then
    some ⟨node, false,
      node.beforeColon?.bind fun front => front.find? fun child => !child.kind.isSyntaxToken,
      Node.ungroup node.afterColon⟩
  else
    none

end Clause

/-- The parts of a `switch` statement. -/
structure SwitchStatement where
  subject? : Option Node
  block? : Option (List Clause)

namespace SwitchStatement

/-- The clauses among the children of a case block, list nodes opened. -/
def clausesOfBlock (block : Node) : List Clause :=
  (block.children.flatMap fun child => Node.ungroup [child]).filterMap Clause.ofNode?

/-- The node read as a `switch` statement. -/
def ofNode? (node : Node) : Option SwitchStatement :=
  if node.kind = .construct .switchStatement then
    some ⟨node.operands[0]?,
      (node.childOfKind? (.construct .caseBlock)).map clausesOfBlock⟩
  else
    none

/-- The clauses in source order; none when the case block is missing. -/
def clauses (statement : SwitchStatement) : List Clause :=
  statement.block?.getD []

end SwitchStatement

/-- The parts of a conditional expression. -/
structure ConditionalExpression where
  condition? : Option Node
  whenTrue? : Option Node
  whenFalse? : Option Node

/-- The node read as a conditional expression. -/
def ConditionalExpression.ofNode? (node : Node) : Option ConditionalExpression :=
  if node.kind = .construct .conditionalExpression then
    some ⟨node.operands[0]?, node.operands[1]?, node.operands[2]?⟩
  else
    none

/-- The parts of a binary expression. -/
structure BinaryExpression where
  left : Node
  sign : Node
  right : Node

/-- The node read as a binary expression. -/
def BinaryExpression.ofNode? (node : Node) : Option BinaryExpression :=
  match node.children with
  | [left, sign, right] =>
      if node.kind = .construct .binaryExpression then some ⟨left, sign, right⟩ else none
  | _ => none

/-- The parts of a postfix expression. -/
structure PostfixExpression where
  operand : Node
  sign : Node

/-- The node read as a postfix expression. -/
def PostfixExpression.ofNode? (node : Node) : Option PostfixExpression :=
  match node.children with
  | [operand, sign] =>
      if node.kind = .construct .postfixUnaryExpression then some ⟨operand, sign⟩ else none
  | _ => none

end DuplicateLogic
