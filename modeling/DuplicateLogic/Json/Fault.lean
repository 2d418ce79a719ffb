import DuplicateLogic.Json.Number
import DuplicateLogic.Text.Quoted

/-! # What can be wrong with a JSON text

A fault is a problem together with the place where it was noticed. Places are counted in bytes,
from the end of the text, so that no reader has to carry a position: how much text is left says
where the reader stands. A problem with the contents of a record is noticed before the record is
closed; it floats until the reader of that record has tried to close it. -/

namespace DuplicateLogic.Json

/-- What stood where something else was expected. -/
inductive Found where
  | null
  | bool (value : Bool)
  | number (value : Number)
  | string (value : String)
  | sequence
  | map

/-- The cause of a failed decoding. -/
inductive Problem where
  | endInValue
  | endInList
  | endInObject
  | endInString
  | expectedValue
  | expectedColon
  | expectedCommaInList
  | expectedCommaInObject
  | expectedIdent
  | keyNotString
  | trailingComma
  | trailingCharacters
  | tooDeep
  | invalidNumber
  | numberOutOfRange
  | invalidEscape
  | controlCharacter
  | loneSurrogate
  | endInSurrogatePair
  | wrongType (found : Found) (expected : String)
  | wrongInteger (value : Int) (expected : String)
  | missingField (name : String)
  | duplicateField (name : String)
  | wrongLength (length : Nat) (expected : String)
  | noVariant (type : String)

/-- How a message names what was found. -/
def Found.describe : Found → String
  | null => "null"
  | bool value => "boolean `" ++ (if value then "true" else "false") ++ "`"
  | number (.double value) => "floating point `" ++ (Number.double value).text ++ "`"
  | number value => "integer `" ++ value.text ++ "`"
  | string value => "string " ++ Text.quoted value
  | sequence => "sequence"
  | map => "map"

/-- The message for a problem, without its place. -/
def Problem.message : Problem → String
  | endInValue => "EOF while parsing a value"
  | endInList => "EOF while parsing a list"
  | endInObject => "EOF while parsing an object"
  | endInString => "EOF while parsing a string"
  | expectedValue => "expected value"
  | expectedColon => "expected `:`"
  | expectedCommaInList => "expected `,` or `]`"
  | expectedCommaInObject => "expected `,` or `\x7d`"
  | expectedIdent => "expected ident"
  | keyNotString => "key must be a string"
  | trailingComma => "trailing comma"
  | trailingCharacters => "trailing characters"
  | tooDeep => "recursion limit exceeded"
  | invalidNumber => "invalid number"
  | numberOutOfRange => "number out of range"
  | invalidEscape => "invalid escape"
  | controlCharacter => "control character (\\u0000-\\u001F) found while parsing a string"
  | loneSurrogate => "lone leading surrogate in hex escape"
  | endInSurrogatePair => "unexpected end of hex escape"
  | wrongType found expected =>
      "invalid type: " ++ found.describe ++ ", expected " ++ expected
  | wrongInteger value expected =>
      "invalid value: integer `" ++ toString value ++ "`, expected " ++ expected
  | missingField name => "missing field `" ++ name ++ "`"
  | duplicateField name => "duplicate field `" ++ name ++ "`"
  | wrongLength length expected =>
      "invalid length " ++ toString length ++ ", expected " ++ expected
  | noVariant type => "data did not match any variant of untagged enum " ++ type

/-- The number of bytes of a text. -/
def byteCount (chars : List Char) : Nat :=
  chars.foldl (fun total c => total + c.utf8Size) 0

/-- A problem, either placed by the number of bytes still unread or floating before the text that
the reader stood at. -/
inductive Fault where
  | placed (problem : Problem) (unread : Nat)
  | floating (problem : Problem) (rest : List Char)

namespace Fault

/-- A problem with what has just been read. -/
def behind (problem : Problem) (rest : List Char) : Fault :=
  placed problem (byteCount rest)

/-- A problem with the next byte; at the end of the text it stands at the end. -/
def ahead (problem : Problem) (rest : List Char) : Fault :=
  placed problem (byteCount rest - 1)

/-- Places a floating problem behind what is left after `advance`. -/
def settle (advance : List Char → List Char) : Fault → Fault
  | floating problem rest => behind problem (advance rest)
  | fault => fault

/-- The problem of a fault. -/
def problem : Fault → Problem
  | placed problem _ => problem
  | floating problem _ => problem

end Fault

/-- A line from one and a count of bytes on it. -/
structure Place where
  line : Nat
  column : Nat
  deriving DecidableEq, Repr

/-- The place past the next `count` bytes of a text, which may end inside a character. -/
def Place.past (place : Place) (count : Nat) : List Char → Place
  | [] => place
  | c :: rest =>
      if count = 0 then place
      else if c = '\n' then Place.past ⟨place.line + 1, 0⟩ (count - 1) rest
      else Place.past ⟨place.line, place.column + min count c.utf8Size⟩ (count - c.utf8Size) rest

/-- The message of a fault in a text, with its line and column when it has a place. -/
def Fault.message (text : List Char) : Fault → String
  | floating problem _ => problem.message
  | placed problem unread =>
      let place := Place.past ⟨1, 0⟩ (byteCount text - unread) text
      problem.message ++ " at line " ++ toString place.line ++ " column " ++
        toString place.column

/-- A reader takes a value off the front of a text. -/
abbrev Reader (α : Type) := List Char → Except Fault (α × List Char)

end DuplicateLogic.Json
