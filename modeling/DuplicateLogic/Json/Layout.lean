import DuplicateLogic.Json.Scan

/-! # Brackets, commas and colons

The readers of what stands between the values of a JSON text. A list or object is read element by
element; before each element the reader looks whether the closing bracket comes instead. Loops
carry the number of characters of the whole text as fuel: each round takes at least one. -/

namespace DuplicateLogic.Json

/-- Whether an element of a list follows. The text is left at the element or at the closing
bracket. -/
def nextElement (first : Bool) (text : List Char) : Except Fault (Bool × List Char) :=
  match skipBlanks text with
  | [] => .error (.placed .endInList 0)
  | c :: rest =>
      if c = ']' then
        .ok (false, c :: rest)
      else if first then
        .ok (true, c :: rest)
      else if c = ',' then
        match skipBlanks rest with
        | [] => .error (.placed .endInValue 0)
        | d :: more =>
            if d = ']' then .error (.ahead .trailingComma (d :: more))
            else .ok (true, d :: more)
      else
        .error (.ahead .expectedCommaInList (c :: rest))

/-- Reads the next key of an object, or nothing when the closing brace comes. -/
def nextKey (first : Bool) (text : List Char) : Except Fault (Option String × List Char) :=
  match skipBlanks text with
  | [] => .error (.placed .endInObject 0)
  | c :: rest =>
      if c = '}' then
        .ok (none, c :: rest)
      else if first then
        if c = '"' then (readString rest).map fun (key, rest) => (some key, rest)
        else .error (.ahead .keyNotString (c :: rest))
      else if c = ',' then
        match skipBlanks rest with
        | [] => .error (.placed .endInValue 0)
        | d :: more =>
            if d = '"' then (readString more).map fun (key, rest) => (some key, rest)
            else if d = '}' then .error (.ahead .trailingComma (d :: more))
            else .error (.ahead .keyNotString (d :: more))
      else
        .error (.ahead .expectedCommaInObject (c :: rest))

/-- Reads the colon after a key. -/
def readColon (text : List Char) : Except Fault (List Char) :=
  match skipBlanks text with
  | [] => .error (.placed .endInObject 0)
  | c :: rest => if c = ':' then .ok rest else .error (.ahead .expectedColon (c :: rest))

/-- Reads the bracket that closes a list whose elements have all been read. -/
def closeList (text : List Char) : Except Fault (List Char) :=
  match skipBlanks text with
  | [] => .error (.placed .endInList 0)
  | c :: rest =>
      if c = ']' then
        .ok rest
      else if c = ',' then
        match skipBlanks rest with
        | d :: more =>
            if d = ']' then .error (.ahead .trailingComma (d :: more))
            else .error (.ahead .trailingCharacters (d :: more))
        | [] => .error (.placed .trailingCharacters 0)
      else
        .error (.ahead .trailingCharacters (c :: rest))

/-- Reads the brace that closes an object whose members have all been read. -/
def closeObject (text : List Char) : Except Fault (List Char) :=
  match skipBlanks text with
  | [] => .error (.placed .endInObject 0)
  | c :: rest =>
      if c = '}' then .ok rest
      else if c = ',' then .error (.ahead .trailingComma (c :: rest))
      else .error (.ahead .trailingCharacters (c :: rest))

/-- What an attempt to close a list leaves unread. -/
def pastListEnd (text : List Char) : List Char :=
  match skipBlanks text with
  | ']' :: rest => rest
  | ',' :: rest => skipBlanks rest
  | rest => rest

/-- What an attempt to close an object leaves unread. -/
def pastObjectEnd (text : List Char) : List Char :=
  match skipBlanks text with
  | '}' :: rest => rest
  | rest => rest

/-- Reads elements up to and with the closing bracket; `front` holds those so far, last first. -/
def readElements {α : Type} (element : Reader α) :
    Nat → Bool → List α → Reader (List α)
  | 0, _, _, _ => .error (.placed .endInList 0)
  | fuel + 1, first, front, text => do
      let (more, text) ← nextElement first text
      if more then
        let (item, text) ← element text
        readElements element fuel false (item :: front) text
      else
        return (front.reverse, text.drop 1)

/-- The fault of a value of another type. A scalar is read before its place is taken, a bracket
is not. -/
def typeFault (expected : String) (text : List Char) : Fault :=
  let scalar (found : Found) (rest : List Char) : Fault :=
    .behind (.wrongType found expected) rest
  match text with
  | [] => .placed .expectedValue 0
  | c :: rest =>
      if c = 'n' then
        match readWord "ull".toList rest with
        | .error fault => fault
        | .ok rest => scalar .null rest
      else if c = 't' then
        match readWord "rue".toList rest with
        | .error fault => fault
        | .ok rest => scalar (.bool true) rest
      else if c = 'f' then
        match readWord "alse".toList rest with
        | .error fault => fault
        | .ok rest => scalar (.bool false) rest
      else if c = '-' then
        match readNumber false rest with
        | .error fault => fault
        | .ok (number, rest) => scalar (.number number) rest
      else if (digit? c).isSome then
        match readNumber true text with
        | .error fault => fault
        | .ok (number, rest) => scalar (.number number) rest
      else if c = '"' then
        match readString rest with
        | .error fault => fault
        | .ok (value, rest) => scalar (.string value) rest
      else if c = '[' then
        scalar .sequence text
      else if c = '{' then
        scalar .map text
      else
        .ahead .expectedValue text

/-- Reads a string where nothing else is allowed. -/
def readText (text : List Char) : Except Fault (String × List Char) :=
  match skipBlanks text with
  | [] => .error (.placed .endInValue 0)
  | c :: rest => if c = '"' then readString rest else .error (typeFault "a string" (c :: rest))

/-- The name of the type of counts in messages. -/
def countType : String :=
  "usize"

/-- The count that a number is. -/
def Number.count : Number → Except Problem Nat
  | .natural value => .ok value
  | .negative value => .error (.wrongInteger value countType)
  | .double value => .error (.wrongType (.number (.double value)) countType)

/-- Reads a count of 64 bits where nothing else is allowed. -/
def readCount (text : List Char) : Except Fault (Nat × List Char) := do
  let place (result : Number × List Char) : Except Fault (Nat × List Char) :=
    match result.1.count with
    | .ok value => .ok (value, result.2)
    | .error problem => .error (.behind problem result.2)
  match skipBlanks text with
  | [] => .error (.placed .endInValue 0)
  | c :: rest =>
      if c = '-' then
        (readNumber false rest).bind place
      else if (digit? c).isSome then
        (readNumber true (c :: rest)).bind place
      else
        .error (typeFault countType (c :: rest))

/-- Reads a record, which is written as an object or as a list of its fields. A bracket may be
entered only when `deeper` allows it; a floating fault of the contents is placed behind the end of
the record. -/
def readRecord {α : Type} (name : String) (deeper : Bool) (asList asObject : Reader α)
    (text : List Char) : Except Fault (α × List Char) :=
  match skipBlanks text with
  | [] => .error (.placed .endInValue 0)
  | c :: rest =>
      if c = '[' then
        if deeper then
          match asList rest with
          | .ok (value, rest) => (closeList rest).map fun rest => (value, rest)
          | .error fault => .error (fault.settle pastListEnd)
        else
          .error (.ahead .tooDeep (c :: rest))
      else if c = '{' then
        if deeper then
          match asObject rest with
          | .ok (value, rest) => (closeObject rest).map fun rest => (value, rest)
          | .error fault => .error (fault.settle pastObjectEnd)
        else
          .error (.ahead .tooDeep (c :: rest))
      else
        .error (typeFault ("struct " ++ name) (c :: rest))

/-- Reads a list where nothing else is allowed; `element` is absent when no bracket may be
entered. -/
def readList {α : Type} (fuel : Nat) (element? : Option (Reader α)) (text : List Char) :
    Except Fault (List α × List Char) :=
  match skipBlanks text with
  | [] => .error (.placed .endInValue 0)
  | c :: rest =>
      if c = '[' then
        match element? with
        | some element => readElements element fuel true [] rest
        | none => .error (.ahead .tooDeep (c :: rest))
      else
        .error (typeFault "a sequence" (c :: rest))

/-- Checks that only blanks follow. -/
def readEnd (text : List Char) : Except Fault Unit :=
  match skipBlanks text with
  | [] => .ok ()
  | rest => .error (.ahead .trailingCharacters rest)

end DuplicateLogic.Json
