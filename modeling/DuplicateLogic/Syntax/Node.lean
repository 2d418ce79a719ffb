import DuplicateLogic.Syntax.Kind
import DuplicateLogic.Syntax.Position

/-! # Syntax trees

A node without children is a token. The text of a composite node is the source it covers; only
suppression comments and end positions ever read it. -/

namespace DuplicateLogic

/-- One node of a syntax tree. -/
structure Node where
  kind : Kind
  text : String
  start : Position
  children : List Node
  deriving Repr

namespace Node

/-- Whether the node is a leaf. -/
def isToken (node : Node) : Bool :=
  node.children.isEmpty

/-- The children that fill operand slots: all but punctuation, operators and keywords. -/
def operands (node : Node) : List Node :=
  node.children.filter fun child => !child.kind.isSyntaxToken

/-- The first child of a kind. -/
def childOfKind? (node : Node) (kind : Kind) : Option Node :=
  node.children.find? fun child => child.kind == kind

/-- The place just past the node. -/
def stop (node : Node) : Position :=
  node.start.past node.text

/-- The same node moved to another place. -/
def placedAt (node : Node) (line column : Nat) : Node :=
  { node with start := ⟨line, column⟩ }

end Node

end DuplicateLogic
