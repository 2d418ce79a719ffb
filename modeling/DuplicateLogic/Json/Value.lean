import DuplicateLogic.Json.Layout

/-! # JSON values

The general data of a JSON text. Members of an object keep their order and may repeat a key. -/

namespace DuplicateLogic.Json

/-- A JSON value. -/
inductive Value where
  | null
  | bool (value : Bool)
  | number (value : Number)
  | string (value : String)
  | array (items : List Value)
  | object (members : List (String × Value))
  deriving Repr

namespace Value

/-- A value that is a natural number. -/
def ofNat (value : Nat) : Value :=
  .number (.natural value)

/-- The last member with a key. -/
def member? (key : String) : Value → Option Value
  | object members => (members.reverse.find? fun member => member.1 == key).map (·.2)
  | _ => none

/-- Reads members up to and with the closing brace; `front` holds those so far, last first. -/
def readMembers (value : Reader Value) :
    Nat → Bool → List (String × Value) → Reader (List (String × Value))
  | 0, _, _, _ => .error (.placed .endInObject 0)
  | fuel + 1, first, front, text => do
      let (key?, text) ← nextKey first text
      match key? with
      | none => return (front.reverse, text.drop 1)
      | some key =>
          let text ← readColon text
          let (item, text) ← value text
          readMembers value fuel false ((key, item) :: front) text

/-- Reads a value, with the reader of the values inside it when a bracket may be entered. -/
def readWith (fuel : Nat) (inner? : Option (Reader Value)) (text : List Char) :
    Except Fault (Value × List Char) :=
  match skipBlanks text with
  | [] => .error (.placed .endInValue 0)
  | c :: rest =>
      if c = 'n' then
        (readWord "ull".toList rest).map fun rest => (null, rest)
      else if c = 't' then
        (readWord "rue".toList rest).map fun rest => (bool true, rest)
      else if c = 'f' then
        (readWord "alse".toList rest).map fun rest => (bool false, rest)
      else if c = '-' then
        (readNumber false rest).map fun (value, rest) => (number value, rest)
      else if (digit? c).isSome then
        (readNumber true (c :: rest)).map fun (value, rest) => (number value, rest)
      else if c = '"' then
        (readString rest).map fun (value, rest) => (string value, rest)
      else if c = '[' then
        match inner? with
        | some inner =>
            (readElements inner fuel true [] rest).map fun (items, rest) => (array items, rest)
        | none => .error (.ahead .tooDeep (c :: rest))
      else if c = '{' then
        match inner? with
        | some inner =>
            (readMembers inner fuel true [] rest).map fun (members, rest) =>
              (object members, rest)
        | none => .error (.ahead .tooDeep (c :: rest))
      else
        .error (.ahead .expectedValue (c :: rest))

/-- Reads a value in which at most `depth` brackets are open at once. -/
def read (fuel : Nat) : Nat → Reader Value
  | 0 => readWith fuel none
  | depth + 1 => readWith fuel (some (read fuel depth))

end Value

/-- How many brackets may be open at once. -/
def maxDepth : Nat :=
  127

/-- The fuel that no loop over a text uses up. -/
def fuelFor (text : List Char) : Nat :=
  text.length + 1

/-- The value that a whole text is. -/
def Value.parse (text : String) : Except Fault Value := do
  let chars := text.toList
  let (value, rest) ← Value.read (fuelFor chars) maxDepth chars
  readEnd rest
  return value

end DuplicateLogic.Json
