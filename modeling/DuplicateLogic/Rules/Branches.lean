import DuplicateLogic.Equivalence
import DuplicateLogic.Rules.Chain

/-! # Duplicated branches

A conditional whose branches are all the same code decides nothing. An `if` chain counts only
when it ends with a plain `else`, a `switch` only when it has a default clause. -/

namespace DuplicateLogic.Branches

/-- The message for chains and switches. -/
def statementMessage : String :=
  "Remove this conditional structure or edit its code blocks so that they're not all the same."

/-- The message for conditional expressions. -/
def conditionalMessage : String :=
  "This conditional operation returns the same value whether the condition is \"true\" or " ++
    "\"false\"."

/-- Whether every element is related to the next one. -/
def eachNext {α : Type} (related : α → α → Bool) : List α → Bool
  | [] => true
  | [_] => true
  | first :: second :: rest => related first second && eachNext related (second :: rest)

/-- Whether there are two elements at least and every one is related to the next. -/
def allAlike {α : Type} (related : α → α → Bool) (items : List α) : Bool :=
  2 ≤ items.length && eachNext related items

/-- The statements without a `break` at their end. -/
def withoutBreak (statements : List Node) : List Node :=
  match statements.getLast? with
  | some last =>
      if last.kind = .construct .breakStatement then statements.dropLast else statements
  | none => statements

/-- The bodies that are compared: an empty clause falls through to the next one and is left out,
unless it is the last. -/
def comparedBodies : List Clause → List (List Node)
  | [] => []
  | [last] => [withoutBreak last.statements]
  | clause :: next :: rest =>
      if clause.statements.isEmpty then
        comparedBodies (next :: rest)
      else
        withoutBreak clause.statements :: comparedBodies (next :: rest)

/-- A finding about a statement. -/
def statementFinding (context : Context) (node : Node) : List Finding :=
  [Finding.about statementMessage RuleId.duplicatedBranchesStatement.text context.file node]

/-- Examines the chain of an `if` statement. -/
def visitIf (context : Context) (node : Node) : Option (List Finding) :=
  let chain := Chain.startingAt node
  if context.isChainRoot && chain.endsWithElse && allAlike Node.equivalent chain.branches then
    some (statementFinding context node)
  else
    none

/-- Examines a `switch` statement. -/
def visitSwitch (context : Context) (node : Node) : Option (List Finding) := do
  let statement ← SwitchStatement.ofNode? node
  let clauses := statement.clauses
  if clauses.any (·.isDefault) && allAlike Node.allEquivalent (comparedBodies clauses) then
    some (statementFinding context node)
  else
    none

/-- Examines a conditional expression. -/
def visitConditional (context : Context) (node : Node) : Option (List Finding) := do
  let expression ← ConditionalExpression.ofNode? node
  let whenTrue ← expression.whenTrue?
  let whenFalse ← expression.whenFalse?
  if whenTrue.equivalent whenFalse then
    some [Finding.about conditionalMessage RuleId.duplicatedBranchesConditional.text
      context.file node]
  else
    none

/-- Examines a conditional of any sort. -/
def visit (context : Context) (node : Node) : Option (List Finding) :=
  match node.kind with
  | .construct .ifStatement => visitIf context node
  | .construct .switchStatement => visitSwitch context node
  | .construct .conditionalExpression => visitConditional context node
  | _ => none

/-- The rule against conditionals whose branches are all the same. -/
def rule : Rule :=
  .stateless "DuplicatedBranchesRule"
    [.duplicatedBranchesStatement, .duplicatedBranchesConditional]
    [.construct .ifStatement, .construct .switchStatement, .construct .conditionalExpression]
    visit

end DuplicateLogic.Branches
