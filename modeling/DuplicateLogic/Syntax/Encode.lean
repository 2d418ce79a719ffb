import DuplicateLogic.Json.Printer
import DuplicateLogic.Syntax.Node

/-! # Writing trees

A node is written as an object with its kind, text, position and, unless there are none, its
children. -/

namespace DuplicateLogic

open Json

/-- A position as a JSON value. -/
def Position.toValue (place : Position) : Value :=
  .object [("line", .ofNat place.line), ("column", .ofNat place.column)]

mutual

/-- A node as a JSON value. -/
def Node.toValue : Node → Value
  | ⟨kind, text, start, children⟩ =>
      .object ([("kind", .string kind.tag), ("text", .string text), ("span", start.toValue)] ++
        match children with
        | [] => []
        | first :: rest => [("children", .array (first.toValue :: Node.toValues rest))])

/-- Several nodes as JSON values. -/
def Node.toValues : List Node → List Value
  | [] => []
  | node :: rest => node.toValue :: Node.toValues rest

end

/-- A tree as JSON text. -/
def Node.render (node : Node) : String :=
  node.toValue.compact

end DuplicateLogic
