import DuplicateLogic.Syntax.Node

/-! # Structural equivalence

Two nodes are the same code when they have the same kind and shape and when their names and
literals are spelled alike. Positions, texts of composite nodes and spellings of all other leaves
do not count. -/

namespace DuplicateLogic

mutual

/-- Whether two nodes are the same code. -/
def Node.equivalent : Node → Node → Bool
  | ⟨kind, text, _, []⟩, ⟨kind', text', _, []⟩ =>
      kind == kind' && (!kind.isTextSignificant || text == text')
  | ⟨kind, _, _, children⟩, ⟨kind', _, _, children'⟩ =>
      kind == kind' && Node.allEquivalent children children'

/-- Whether two lists of nodes have the same length and pairwise equivalent members. -/
def Node.allEquivalent : List Node → List Node → Bool
  | [], [] => true
  | first :: rest, first' :: rest' => first.equivalent first' && Node.allEquivalent rest rest'
  | _, _ => false

end

/-- What a branch holds: one node or a run of siblings. -/
inductive Operand where
  | single (node : Node)
  | sequence (nodes : List Node)

/-- Whether two operands are the same code. A node is never a sequence of one node. -/
def Operand.equivalent : Operand → Operand → Bool
  | single first, single second => first.equivalent second
  | sequence first, sequence second => Node.allEquivalent first second
  | _, _ => false

end DuplicateLogic
