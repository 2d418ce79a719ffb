import DuplicateLogic.Equivalence
import DuplicateLogic.Rules.Chain

/-! # Duplicated conditions

A condition of an `if` chain that repeats an earlier one can never decide anything, and neither
can a case label. A condition is reported against the first earlier one it repeats, a label
against every earlier one. -/

namespace DuplicateLogic.Conditions

/-- A finding about a node that repeats an earlier one. -/
def repetition (what : String) (context : Context) (earlier later : Node) : Finding :=
  (Finding.about
    ("This " ++ what ++ " duplicates the one on line " ++ toString earlier.start.line)
    RuleId.duplicatedCondition.text context.file later).relatedTo earlier "Original"

/-- For each node the first earlier one it repeats; `before` holds the earlier nodes in order. -/
def firstRepeats (before : List Node) : List Node → List (Node × Node)
  | [] => []
  | later :: rest =>
      match before.find? fun earlier => earlier.equivalent later with
      | some earlier => (earlier, later) :: firstRepeats (before ++ [later]) rest
      | none => firstRepeats (before ++ [later]) rest

/-- For each node all earlier ones it repeats; `before` holds the earlier nodes in order. -/
def allRepeats (before : List Node) : List Node → List (Node × Node)
  | [] => []
  | later :: rest =>
      ((before.filter fun earlier => earlier.equivalent later).map fun earlier =>
        (earlier, later)) ++ allRepeats (before ++ [later]) rest

/-- Findings about pairs of nodes, or nothing when there are no pairs. -/
def report (what : String) (context : Context) (pairs : List (Node × Node)) :
    Option (List Finding) :=
  if pairs.isEmpty then
    none
  else
    some (pairs.map fun (earlier, later) => repetition what context earlier later)

/-- Examines the chain of an `if` statement. -/
def visitIf (context : Context) (node : Node) : Option (List Finding) :=
  if context.isChainRoot then
    report "branch" context (firstRepeats [] (Chain.startingAt node).conditions)
  else
    none

/-- Examines a `switch` statement. -/
def visitSwitch (context : Context) (node : Node) : Option (List Finding) := do
  let statement ← SwitchStatement.ofNode? node
  report "case" context (allRepeats [] (statement.clauses.filterMap (·.label?)))

/-- Examines a conditional statement. -/
def visit (context : Context) (node : Node) : Option (List Finding) :=
  match node.kind with
  | .construct .ifStatement => visitIf context node
  | .construct .switchStatement => visitSwitch context node
  | _ => none

/-- The rule against conditions that repeat an earlier one. -/
def rule : Rule :=
  .stateless "DuplicatedConditionRule" [.duplicatedCondition]
    [.construct .ifStatement, .construct .switchStatement] visit

end DuplicateLogic.Conditions
