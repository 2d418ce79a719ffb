import DuplicateLogic.Rules.Finding
import DuplicateLogic.Settings

/-! # Rules

A rule names the kinds of nodes it wants to see and is shown each of them once. It may keep a
state of its own between two nodes. -/

namespace DuplicateLogic

/-- What a rule knows besides the node it is shown. -/
structure Context where
  file : Path
  parent? : Option Node
  settings : Settings

/-- Whether the node stands directly below a node of a kind. -/
def Context.isBelow (context : Context) (kind : Kind) : Bool :=
  context.parent?.any fun parent => parent.kind == kind

/-- A rule together with its present state. -/
structure Rule where
  State : Type
  state : State
  name : String
  ids : List String
  kinds : List Kind
  visit : State → Context → Node → Option (List Finding) × State

namespace Rule

/-- A rule that keeps nothing between two nodes. -/
def stateless (name : String) (ids : List RuleId) (kinds : List Kind)
    (visit : Context → Node → Option (List Finding)) : Rule where
  State := Unit
  state := ()
  name := name
  ids := ids.map (·.text)
  kinds := kinds
  visit _ context node := (visit context node, ())

/-- Shows a node to a rule: what it reports, and the rule afterwards. -/
def inspect (rule : Rule) (context : Context) (node : Node) : Option (List Finding) × Rule :=
  let (found, state) := rule.visit rule.state context node
  (found, { rule with state := state })

end Rule

end DuplicateLogic
