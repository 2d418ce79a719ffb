import DuplicateLogic.Rules.Rule

/-! # Walking a tree

A tree is walked once, every node before its children. A table made beforehand says which rules
want to see a kind; they are shown a node in the order in which they were given, and each of them
once, however often it names the kind. -/

namespace DuplicateLogic

/-- For each kind the positions of the rules that want to see it. -/
abbrev Dispatch := List (Kind × List Nat)

namespace Dispatch

/-- The positions of the rules that want to see a kind. -/
def interested (table : Dispatch) (kind : Kind) : List Nat :=
  (table.lookup kind).getD []

/-- Notes that a rule wants to see a kind, unless that is known. -/
def note (index : Nat) (kind : Kind) : Dispatch → Dispatch
  | [] => [(kind, [index])]
  | (key, indices) :: rest =>
      if key = kind then
        (key, if index ∈ indices then indices else indices ++ [index]) :: rest
      else
        (key, indices) :: note index kind rest

/-- The table for the rules from a position on. -/
def ofRulesFrom (table : Dispatch) (index : Nat) : List Rule → Dispatch
  | [] => table
  | rule :: rest =>
      ofRulesFrom (rule.kinds.foldl (fun table kind => note index kind table) table)
        (index + 1) rest

/-- The table for a list of rules. -/
def ofRules (rules : List Rule) : Dispatch :=
  ofRulesFrom [] 0 rules

end Dispatch

namespace Walk

/-- Shows a node to the rule at a position. -/
def inspectAt (context : Context) (node : Node) (index : Nat) (rules : List Rule) :
    List Finding × List Rule :=
  match rules[index]? with
  | none => ([], rules)
  | some rule =>
      let (found, rule) := rule.inspect context node
      (found.getD [], rules.set index rule)

/-- Shows a node to the rules at several positions, one after the other. -/
def inspectAll (context : Context) (node : Node) : List Nat → List Rule →
    List Finding × List Rule
  | [], rules => ([], rules)
  | index :: rest, rules =>
      let (found, rules) := inspectAt context node index rules
      let (later, rules) := inspectAll context node rest rules
      (found ++ later, rules)

mutual

/-- Walks a node and all below it. -/
def visitNode (table : Dispatch) (file : Path) (settings : Settings) (parent? : Option Node) :
    Node → List Rule → List Finding × List Rule
  | ⟨kind, text, start, children⟩, rules =>
      let node : Node := ⟨kind, text, start, children⟩
      let (found, rules) :=
        inspectAll ⟨file, parent?, settings⟩ node (table.interested kind) rules
      let (later, rules) := visitNodes table file settings node children rules
      (found ++ later, rules)

/-- Walks the children of a node one after the other. -/
def visitNodes (table : Dispatch) (file : Path) (settings : Settings) (parent : Node) :
    List Node → List Rule → List Finding × List Rule
  | [], rules => ([], rules)
  | node :: rest, rules =>
      let (found, rules) := visitNode table file settings (some parent) node rules
      let (later, rules) := visitNodes table file settings parent rest rules
      (found ++ later, rules)

end

end Walk

/-- The findings of a list of rules in a tree, in the order of the walk. -/
def walk (root : Node) (rules : List Rule) (file : Path) (settings : Settings) : List Finding :=
  (Walk.visitNode (Dispatch.ofRules rules) file settings none root rules).1

end DuplicateLogic
