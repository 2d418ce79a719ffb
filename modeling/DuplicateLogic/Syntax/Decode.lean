import DuplicateLogic.Json.Skip
import DuplicateLogic.Json.Value
import DuplicateLogic.Syntax.Node

/-! # Reading trees

A node is written as an object with the members `kind`, `text`, `span` and `children`, or as a
list of them in that order. Only the kind is required; members with other keys are skipped. A
position is written the same way and needs both of its members. -/

namespace DuplicateLogic

open Json

/-- The kind that a JSON value names: a tag, or an object whose only member is a named tag without
a value. -/
def Kind.ofValue? : Value → Option Kind
  | .string tag => some (ofTag tag)
  | .object [(tag, .null)] => named? tag
  | _ => none

/-- Reads a kind. A value that names none is a fault without a place of its own. -/
def Kind.read (fuel depth : Nat) (text : List Char) : Except Fault (Kind × List Char) := do
  let (data, rest) ← Value.read fuel depth text
  match Kind.ofValue? data with
  | some kind => return (kind, rest)
  | none => .error (.floating (.noVariant "SyntaxKind") rest)

/-- The kind that a whole text names. -/
def Kind.parse (text : String) : Except Fault Kind := do
  let chars := text.toList
  let (kind, rest) ← Kind.read (fuelFor chars) maxDepth chars
  readEnd rest
  return kind

/-- Reads an element of a list if there is one more. -/
def readOptional {α : Type} (element : Reader α) (fallback : α) (text : List Char) :
    Except Fault (α × List Char) := do
  let (more, text) ← nextElement false text
  if more then element text else return (fallback, text)

namespace Position

/-- How messages name the record. -/
def recordName : String :=
  "Span"

/-- The members of a position read so far. -/
structure Draft where
  line? : Option Nat := none
  column? : Option Nat := none

/-- Reads the value of a member, from the colon on. -/
def Draft.readField (fuel : Nat) (draft : Draft) (key : String) (text : List Char) :
    Except Fault (Draft × List Char) := do
  if key = "line" then
    if draft.line?.isSome then .error (.floating (.duplicateField key) text)
    let (line, text) ← readCount (← readColon text)
    return ({ draft with line? := some line }, text)
  else if key = "column" then
    if draft.column?.isSome then .error (.floating (.duplicateField key) text)
    let (column, text) ← readCount (← readColon text)
    return ({ draft with column? := some column }, text)
  else
    let text ← skipValue fuel (← readColon text)
    return (draft, text)

/-- The finished position; a missing member is a fault. -/
def Draft.finish (draft : Draft) (text : List Char) : Except Fault (Position × List Char) :=
  match draft.line?, draft.column? with
  | some line, some column => .ok (⟨line, column⟩, text)
  | none, _ => .error (.floating (.missingField "line") text)
  | _, none => .error (.floating (.missingField "column") text)

/-- Reads members up to the closing brace. -/
def readFields (fuel : Nat) : Nat → Bool → Draft → Reader Position
  | 0, _, _, _ => .error (.placed .endInObject 0)
  | rounds + 1, first, draft, text => do
      let (key?, text) ← nextKey first text
      match key? with
      | none => draft.finish text
      | some key =>
          let (draft, text) ← draft.readField fuel key text
          readFields fuel rounds false draft text

/-- Reads both members as elements of a list. -/
def readElements (text : List Char) : Except Fault (Position × List Char) := do
  let short (count : Nat) (text : List Char) : Fault :=
    .floating (.wrongLength count ("struct " ++ recordName ++ " with 2 elements")) text
  let (more, text) ← nextElement true text
  if !more then .error (short 0 text)
  let (line, text) ← readCount text
  let (more, text) ← nextElement false text
  if !more then .error (short 1 text)
  let (column, text) ← readCount text
  return (⟨line, column⟩, text)

/-- Reads a position. -/
def read (fuel : Nat) (deeper : Bool) : Reader Position :=
  readRecord recordName deeper readElements (readFields fuel fuel true {})

end Position

namespace Node

/-- How messages name the record. -/
def recordName : String :=
  "SyntaxNode"

/-- The members of a node read so far. -/
structure Draft where
  kind? : Option Kind := none
  text? : Option String := none
  start? : Option Position := none
  children? : Option (List Node) := none

/-- The position of a node that has none. -/
def unplaced : Position :=
  ⟨0, 0⟩

/-- Reads the value of a member, from the colon on. `depth` brackets may be opened inside, and
`child?` reads a child when one of them may be a list of children. -/
def Draft.readField (fuel depth : Nat) (child? : Option (Reader Node)) (draft : Draft)
    (key : String) (text : List Char) : Except Fault (Draft × List Char) := do
  if key = "kind" then
    if draft.kind?.isSome then .error (.floating (.duplicateField key) text)
    let (kind, text) ← Kind.read fuel depth (← readColon text)
    return ({ draft with kind? := some kind }, text)
  else if key = "text" then
    if draft.text?.isSome then .error (.floating (.duplicateField key) text)
    let (value, text) ← readText (← readColon text)
    return ({ draft with text? := some value }, text)
  else if key = "span" then
    if draft.start?.isSome then .error (.floating (.duplicateField key) text)
    let (start, text) ← Position.read fuel (0 < depth) (← readColon text)
    return ({ draft with start? := some start }, text)
  else if key = "children" then
    if draft.children?.isSome then .error (.floating (.duplicateField key) text)
    let (children, text) ← readList fuel child? (← readColon text)
    return ({ draft with children? := some children }, text)
  else
    let text ← skipValue fuel (← readColon text)
    return (draft, text)

/-- The finished node; only a missing kind is a fault. -/
def Draft.finish (draft : Draft) (text : List Char) : Except Fault (Node × List Char) :=
  match draft.kind? with
  | some kind =>
      .ok (⟨kind, draft.text?.getD "", draft.start?.getD unplaced, draft.children?.getD []⟩, text)
  | none => .error (.floating (.missingField "kind") text)

/-- Reads members up to the closing brace. -/
def readFields (fuel depth : Nat) (child? : Option (Reader Node)) :
    Nat → Bool → Draft → Reader Node
  | 0, _, _, _ => .error (.placed .endInObject 0)
  | rounds + 1, first, draft, text => do
      let (key?, text) ← nextKey first text
      match key? with
      | none => draft.finish text
      | some key =>
          let (draft, text) ← draft.readField fuel depth child? key text
          readFields fuel depth child? rounds false draft text

/-- Reads the members as elements of a list; missing ones at the end have their defaults. -/
def readElements (fuel depth : Nat) (child? : Option (Reader Node)) (text : List Char) :
    Except Fault (Node × List Char) := do
  let (more, text) ← nextElement true text
  if !more then
    .error (.floating (.wrongLength 0 ("struct " ++ recordName ++ " with 4 elements")) text)
  let (kind, text) ← Kind.read fuel depth text
  let (value, text) ← readOptional readText "" text
  let (start, text) ← readOptional (Position.read fuel (0 < depth)) unplaced text
  let (children, text) ← readOptional (readList fuel child?) [] text
  return (⟨kind, value, start, children⟩, text)

/-- Reads a node, inside which `depth` brackets may be opened. -/
def readWith (fuel : Nat) (deeper : Bool) (depth : Nat) (child? : Option (Reader Node)) :
    Reader Node :=
  readRecord recordName deeper (readElements fuel depth child?)
    (readFields fuel depth child? fuel true {})

/-- Reads a node in which at most `depth` brackets are open at once. A child stands two brackets
deeper than its parent. -/
def read (fuel : Nat) : Nat → Reader Node
  | 0 => readWith fuel false 0 none
  | 1 => readWith fuel true 0 none
  | depth + 2 => readWith fuel true (depth + 1) (some (read fuel depth))

/-- The tree that a whole text is. -/
def parse (text : String) : Except Fault Node := do
  let chars := text.toList
  let (node, rest) ← read (fuelFor chars) maxDepth chars
  readEnd rest
  return node

end Node

end DuplicateLogic
