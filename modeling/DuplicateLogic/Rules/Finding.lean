import DuplicateLogic.Path
import DuplicateLogic.Syntax.Node

/-! # Findings

A finding names a rule and the node it was found at. The catalogue gives the category and the
severity of every rule; a rule that is not in it counts as a matter of quality. -/

namespace DuplicateLogic

/-- What sort of trouble a rule reports. -/
inductive Category where
  | bug
  | codeSmell
  deriving DecidableEq, Repr

/-- The text of a category. -/
def Category.text : Category → String
  | bug => "Bug"
  | codeSmell => "CodeSmell"

/-- How much a rule matters. -/
inductive Severity where
  | high
  | medium
  deriving DecidableEq, Repr

/-- The text of a severity. -/
def Severity.text : Severity → String
  | high => "HIGH"
  | medium => "MEDIUM"

/-- The rules that can report. -/
inductive RuleId where
  | duplicatedBranchesStatement
  | duplicatedBranchesConditional
  | duplicatedCondition
  | uselessSelfIncrement
  | uselessSelfDecrement
  deriving DecidableEq, Repr

namespace RuleId

/-- The identifier of a rule in settings, comments and reports. -/
def text : RuleId → String
  | duplicatedBranchesStatement => "duplicated-branches-statement"
  | duplicatedBranchesConditional => "duplicated-branches-conditional-expression"
  | duplicatedCondition => "duplicated-condition"
  | uselessSelfIncrement => "useless-self-increment"
  | uselessSelfDecrement => "useless-self-decrement"

/-- The category of a rule. -/
def category : RuleId → Category
  | duplicatedBranchesStatement => .codeSmell
  | duplicatedBranchesConditional => .codeSmell
  | duplicatedCondition => .bug
  | uselessSelfIncrement => .bug
  | uselessSelfDecrement => .bug

/-- The severity of a rule. -/
def severity : RuleId → Severity
  | duplicatedBranchesStatement => .medium
  | duplicatedBranchesConditional => .medium
  | duplicatedCondition => .high
  | uselessSelfIncrement => .high
  | uselessSelfDecrement => .high

/-- Every rule once. -/
def all : List RuleId :=
  [.duplicatedBranchesStatement, .duplicatedBranchesConditional, .duplicatedCondition,
    .uselessSelfIncrement, .uselessSelfDecrement]

theorem mem_all (rule : RuleId) : rule ∈ all := by
  cases rule <;> decide

/-- The rule with an identifier. -/
def ofText? (id : String) : Option RuleId :=
  all.find? fun rule => rule.text == id

end RuleId

/-- A second place that a finding refers to. -/
structure RelatedPlace where
  place : Position
  message : String
  deriving DecidableEq, Repr

/-- One piece of trouble in a file. -/
structure Finding where
  rule : String
  category : String
  severity : String
  message : String
  file : Path
  start : Position
  stop : Position
  related? : Option RelatedPlace
  deriving DecidableEq, Repr

namespace Finding

/-- A finding of a rule over the extent of a node. -/
def about (message id : String) (file : Path) (anchor : Node) : Finding where
  rule := id
  category := ((RuleId.ofText? id).map fun rule => rule.category.text).getD "Quality"
  severity := ((RuleId.ofText? id).map fun rule => rule.severity.text).getD "MEDIUM"
  message := message
  file := file
  start := anchor.start
  stop := anchor.stop
  related? := none

/-- The finding with a reference to another node. -/
def relatedTo (finding : Finding) (node : Node) (message : String) : Finding :=
  { finding with related? := some ⟨node.start, message⟩ }

end Finding

end DuplicateLogic
