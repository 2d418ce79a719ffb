import DuplicateLogic.Rules.Rule
import DuplicateLogic.Syntax.View

/-! # Chains of conditionals

An `if` whose `else` leads to another `if` forms one chain with it. A chain is examined from its
first `if` only; every later one stands directly below an `if`. -/

namespace DuplicateLogic

/-- The `if` statements that follow each other through `else`, and the plain `else` body at the
end. -/
structure Chain where
  members : List Node
  final? : Option Node

namespace Chain

theorem sizeOf_alternative_lt {node alternative : Node}
    (found : node.alternative? = some alternative) : sizeOf alternative < sizeOf node := by
  have inside := List.sizeOf_lt_of_mem (Node.mem_children_of_alternative? found)
  cases node
  simp_all
  omega

/-- The chain that starts at an `if` statement. -/
def startingAt (node : Node) : Chain :=
  match _found : node.alternative? with
  | none => ⟨[node], none⟩
  | some alternative =>
      if alternative.kind = .construct .ifStatement then
        let rest := startingAt alternative
        ⟨node :: rest.members, rest.final?⟩
      else
        ⟨[node], some alternative⟩
termination_by sizeOf node
decreasing_by exact sizeOf_alternative_lt _found

theorem startingAt_of_none {node : Node} (last : node.alternative? = none) :
    startingAt node = ⟨[node], none⟩ := by
  rw [startingAt]
  split
  · rfl
  · simp_all

theorem startingAt_of_if {node alternative : Node} (found : node.alternative? = some alternative)
    (isIf : alternative.kind = .construct .ifStatement) :
    startingAt node =
      ⟨node :: (startingAt alternative).members, (startingAt alternative).final?⟩ := by
  rw [startingAt]
  split
  · simp_all
  · simp_all

theorem startingAt_of_else {node alternative : Node}
    (found : node.alternative? = some alternative)
    (notIf : alternative.kind ≠ .construct .ifStatement) :
    startingAt node = ⟨[node], some alternative⟩ := by
  rw [startingAt]
  split
  · simp_all
  · simp_all

/-- The conditions in source order. -/
def conditions (chain : Chain) : List Node :=
  chain.members.filterMap fun member => (IfStatement.parts member).condition?

/-- The bodies in source order, that of a plain `else` last. -/
def branches (chain : Chain) : List Node :=
  (chain.members.filterMap fun member => (IfStatement.parts member).consequence?) ++
    chain.final?.toList

/-- Whether the chain ends with a plain `else`. -/
def endsWithElse (chain : Chain) : Bool :=
  chain.final?.isSome

end Chain

/-- Whether an `if` statement is the first of its chain. -/
def Context.isChainRoot (context : Context) : Bool :=
  !context.isBelow (.construct .ifStatement)

end DuplicateLogic
