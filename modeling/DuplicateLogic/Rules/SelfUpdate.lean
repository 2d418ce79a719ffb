import DuplicateLogic.Equivalence
import DuplicateLogic.Rules.Rule
import DuplicateLogic.Syntax.View

/-! # Useless self-updates

A postfix update has the old value, so assigning it back to its own target undoes it. -/

namespace DuplicateLogic.SelfUpdate

/-- The rule and the message for an update sign. -/
def verdict? : Kind → Option (RuleId × String)
  | .operator .plusPlus =>
      some (.uselessSelfIncrement, "Remove this increment or correct the code not to waste it.")
  | .operator .minusMinus =>
      some (.uselessSelfDecrement, "Remove this decrement or correct the code not to waste it.")
  | _ => none

/-- Examines an assignment. The finding stands at the update sign. -/
def visit (context : Context) (node : Node) : Option (List Finding) := do
  let assignment ← BinaryExpression.ofNode? node
  if assignment.sign.kind ≠ .operator .equals then
    none
  let update ← PostfixExpression.ofNode? assignment.right
  if !assignment.left.equivalent update.operand then
    none
  let (rule, message) ← verdict? update.sign.kind
  return [Finding.about message rule.text context.file update.sign]

/-- The rule against assignments that undo their own update. -/
def rule : Rule :=
  .stateless "UselessSelfIncrementRule" [.uselessSelfIncrement, .uselessSelfDecrement]
    [.construct .binaryExpression] visit

end DuplicateLogic.SelfUpdate
