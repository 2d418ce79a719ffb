import DuplicateLogic.Analyzer
import DuplicateLogic.Json.Printer

/-! # The report as JSON

A report is written as an object of its findings, its parse errors and the number of files. A path
is written as the text that it is. A finding that was written can be read again; its fields may
stand in an object, in any order, or in a list. -/

namespace DuplicateLogic

open Json

/-- A second place as a JSON value. -/
def RelatedPlace.toValue (related : RelatedPlace) : Value :=
  .object [("line", .ofNat related.place.line), ("col", .ofNat related.place.column),
    ("message", .string related.message)]

/-- A finding as a JSON value. -/
def Finding.toValue (finding : Finding) : Value :=
  .object ([("rule_id", .string finding.rule), ("category", .string finding.category),
    ("severity", .string finding.severity), ("message", .string finding.message),
    ("file", .string finding.file.text), ("line", .ofNat finding.start.line),
    ("col", .ofNat finding.start.column), ("end_line", .ofNat finding.stop.line),
    ("end_col", .ofNat finding.stop.column)] ++
      match finding.related? with
      | some related => [("related", related.toValue)]
      | none => [])

/-- A parse error as a JSON value. -/
def ParseError.toValue (failure : ParseError) : Value :=
  .object [("file", .string failure.file.text), ("error", .string failure.error)]

/-- An analysis as a JSON value. -/
def Analysis.toValue (result : Analysis) : Value :=
  .object [("findings", .array (result.findings.map Finding.toValue)),
    ("parse_errors", .array (result.parseErrors.map ParseError.toValue)),
    ("files_analyzed", .ofNat result.filesAnalyzed)]

/-- Whether every path in an analysis is a text. -/
def Analysis.hasTextPaths (result : Analysis) : Bool :=
  (result.findings.all fun finding => finding.file.raw.isText) &&
    result.parseErrors.all fun failure => failure.file.raw.isText

/-- The whole report. -/
def Report.jsonText (result : Analysis) : String :=
  result.toValue.pretty ++ "\n"

namespace Json.Value

/-- How a message names a value. -/
def found : Value → Found
  | null => .null
  | bool value => .bool value
  | number value => .number value
  | string value => .string value
  | array _ => .sequence
  | object _ => .map

/-- The text that a value is. -/
def text (expected : String) : Value → Except Problem String
  | string value => .ok value
  | other => .error (.wrongType other.found expected)

/-- The count that a value is. -/
def count : Value → Except Problem Nat
  | number value => value.count
  | other => .error (.wrongType other.found countType)

/-- A field that has to be there. -/
def required {α : Type} (name : String) : Option α → Except Problem α
  | some value => .ok value
  | none => .error (.missingField name)

/-- Members ordered by their keys; of members with the same key the last one. -/
def sortedMembers (members : List (String × Value)) : List (String × Value) :=
  let ordered := members.reverse.mergeSort fun first second => first.1 ≤ second.1
  ordered.foldr
    (fun member rest =>
      match rest with
      | next :: more => if next.1 = member.1 then member :: more else member :: rest
      | [] => [member])
    []

end Json.Value

/-- The fields of a second place, as far as they are there. -/
structure RelatedPlace.Draft where
  line? : Option Nat := none
  column? : Option Nat := none
  message? : Option String := none

namespace RelatedPlace

/-- The draft with one more member. -/
def Draft.add (draft : Draft) : String × Value → Except Problem Draft
  | ("line", value) => return { draft with line? := some (← value.count) }
  | ("col", value) => return { draft with column? := some (← value.count) }
  | ("message", value) => return { draft with message? := some (← value.text "a string") }
  | _ => .ok draft

/-- The second place that a value is. -/
def ofValue : Value → Except Problem RelatedPlace
  | .object members => do
      let draft ← (Value.sortedMembers members).foldlM Draft.add {}
      let line ← Value.required "line" draft.line?
      let column ← Value.required "col" draft.column?
      let message ← Value.required "message" draft.message?
      return ⟨⟨line, column⟩, message⟩
  | .array items => do
      let short (length : Nat) : Problem :=
        .wrongLength length "struct RelatedLocation with 3 elements"
      match items with
      | [] => .error (short 0)
      | line :: rest =>
          let line ← line.count
          match rest with
          | [] => .error (short 1)
          | column :: rest =>
              let column ← column.count
              match rest with
              | [] => .error (short 2)
              | message :: rest =>
                  let message ← message.text "a string"
                  if rest.isEmpty then
                    return ⟨⟨line, column⟩, message⟩
                  else
                    .error (.wrongLength items.length "fewer elements in array")
  | other => .error (.wrongType other.found "struct RelatedLocation")

/-- The second place that a value is, when it is one at all. -/
def ofValue? : Value → Except Problem (Option RelatedPlace)
  | .null => .ok none
  | value => return some (← ofValue value)

end RelatedPlace

namespace Finding

/-- The fields of a finding, as far as they are there. -/
structure Draft where
  rule? : Option String := none
  category? : Option String := none
  severity? : Option String := none
  message? : Option String := none
  file? : Option String := none
  line? : Option Nat := none
  column? : Option Nat := none
  stopLine? : Option Nat := none
  stopColumn? : Option Nat := none
  related? : Option RelatedPlace := none

/-- The draft with one more member. -/
def Draft.add (draft : Draft) : String × Value → Except Problem Draft
  | ("rule_id", value) => return { draft with rule? := some (← value.text "a string") }
  | ("category", value) => return { draft with category? := some (← value.text "a string") }
  | ("severity", value) => return { draft with severity? := some (← value.text "a string") }
  | ("message", value) => return { draft with message? := some (← value.text "a string") }
  | ("file", value) => return { draft with file? := some (← value.text "path string") }
  | ("line", value) => return { draft with line? := some (← value.count) }
  | ("col", value) => return { draft with column? := some (← value.count) }
  | ("end_line", value) => return { draft with stopLine? := some (← value.count) }
  | ("end_col", value) => return { draft with stopColumn? := some (← value.count) }
  | ("related", value) => return { draft with related? := ← RelatedPlace.ofValue? value }
  | _ => .ok draft

/-- The finding with the fields of a draft; a missing field is a problem. -/
def Draft.finish (draft : Draft) : Except Problem Finding := do
  let rule ← Value.required "rule_id" draft.rule?
  let category ← Value.required "category" draft.category?
  let severity ← Value.required "severity" draft.severity?
  let message ← Value.required "message" draft.message?
  let file ← Value.required "file" draft.file?
  let line ← Value.required "line" draft.line?
  let column ← Value.required "col" draft.column?
  let stopLine ← Value.required "end_line" draft.stopLine?
  let stopColumn ← Value.required "end_col" draft.stopColumn?
  return ⟨rule, category, severity, message, .mk file, ⟨line, column⟩, ⟨stopLine, stopColumn⟩,
    draft.related?⟩

/-- The names of the fields in the order in which a list holds them. -/
def fieldNames : List String :=
  ["rule_id", "category", "severity", "message", "file", "line", "col", "end_line", "end_col",
    "related"]

/-- The finding that a list of fields is. Only the last one may be missing. -/
def ofItems (items : List Value) : Except Problem Finding := do
  let draft ← (fieldNames.zip items).foldlM Draft.add {}
  if items.length < 9 then
    .error (.wrongLength items.length "struct Finding with 10 elements")
  else if 10 < items.length then
    .error (.wrongLength items.length "fewer elements in array")
  else
    draft.finish

/-- The finding that a value is. -/
def ofValue : Value → Except Problem Finding
  | .object members => do
      let draft ← (Value.sortedMembers members).foldlM Draft.add {}
      draft.finish
  | .array items => ofItems items
  | other => .error (.wrongType other.found "struct Finding")

end Finding

end DuplicateLogic
