/-! # TOML strings

Basic strings know escapes, literal strings do not. Both come in a form of one line and in a form
of several lines between three quotes. Every reader starts behind the opening quotes and gives
nothing when the string is malformed. -/

namespace DuplicateLogic.Toml

/-- A reader takes a value off the front of a text; it gives nothing when there is none. -/
abbrev Reader (α : Type) := List Char → Option (α × List Char)

/-- Whether a character may stand in a line as it is: all but controls other than the tab. -/
def isPlain (c : Char) : Bool :=
  c = '\t' || (0x20 ≤ c.toNat && c.toNat ≠ 0x7F)

/-- Whether a character separates tokens within a line. -/
def isBlank (c : Char) : Bool :=
  c = ' ' || c = '\t'

/-- What follows a line end at the front of a text. -/
def dropNewline? : List Char → Option (List Char)
  | '\n' :: rest => some rest
  | '\r' :: '\n' :: rest => some rest
  | _ => none

/-- The value of a hexadecimal digit. -/
def hexDigit? (c : Char) : Option Nat :=
  if '0' ≤ c ∧ c ≤ '9' then some (c.toNat - '0'.toNat)
  else if 'a' ≤ c ∧ c ≤ 'f' then some (c.toNat - 'a'.toNat + 10)
  else if 'A' ≤ c ∧ c ≤ 'F' then some (c.toNat - 'A'.toNat + 10)
  else none

/-- The character with a code of a fixed number of hexadecimal digits. -/
def readCode (value : Nat) : Nat → Reader Char
  | 0, text => if value.isValidChar then some (Char.ofNat value, text) else none
  | _ + 1, [] => none
  | count + 1, c :: rest =>
      match hexDigit? c with
      | some digit => readCode (value * 16 + digit) count rest
      | none => none

/-- Reads an escape, its backslash already read. -/
def readEscape : Reader Char
  | 'b' :: rest => some ('\x08', rest)
  | 't' :: rest => some ('\t', rest)
  | 'n' :: rest => some ('\n', rest)
  | 'f' :: rest => some ('\x0c', rest)
  | 'r' :: rest => some ('\r', rest)
  | 'e' :: rest => some ('\x1b', rest)
  | '"' :: rest => some ('"', rest)
  | '\\' :: rest => some ('\\', rest)
  | 'x' :: rest => readCode 0 2 rest
  | 'u' :: rest => readCode 0 4 rest
  | 'U' :: rest => readCode 0 8 rest
  | _ => none

/-- Reads a basic string of one line. -/
def readBasic : Nat → List Char → Reader String
  | 0, _, _ => none
  | _ + 1, _, [] => none
  | fuel + 1, front, c :: rest =>
      if c = '"' then
        some (String.ofList front.reverse, rest)
      else if c = '\\' then
        (readEscape rest).bind fun (d, rest) => readBasic fuel (d :: front) rest
      else if isPlain c then
        readBasic fuel (c :: front) rest
      else
        none

/-- Reads a literal string of one line. -/
def readLiteral (front : List Char) : Reader String
  | [] => none
  | c :: rest =>
      if c = '\x27' then some (String.ofList front.reverse, rest)
      else if isPlain c then readLiteral (c :: front) rest
      else none

/-- Whether a character is skipped behind a backslash at the end of a line. -/
def isSkipped (c : Char) : Bool :=
  c = ' ' || c = '\t' || c = '\n' || c = '\r'

/-- What follows the blanks and line ends behind a backslash, if a line ends there. -/
def dropContinuation? (text : List Char) : Option (List Char) :=
  match dropNewline? (text.dropWhile isBlank) with
  | some rest => some (rest.dropWhile isSkipped)
  | none => none

/-- Reads the quotes at the end of a string of several lines: three close it, and up to two more
before them belong to it. -/
def closing? (quote : Char) (front text : List Char) : Option (String × List Char) :=
  let quotes := (text.takeWhile (· = quote)).length
  let count := min quotes 5
  if 3 ≤ count then
    let inner := List.replicate (count - 3) quote
    some (String.ofList ((inner ++ front).reverse), text.drop count)
  else
    none

/-- Reads a basic string of several lines. -/
def readLongBasic : Nat → List Char → Reader String
  | 0, _, _ => none
  | _ + 1, _, [] => none
  | fuel + 1, front, c :: rest =>
      match closing? '"' front (c :: rest) with
      | some result => some result
      | none =>
          if c = '\\' then
            match dropContinuation? rest with
            | some rest => readLongBasic fuel front rest
            | none => (readEscape rest).bind fun (d, rest) => readLongBasic fuel (d :: front) rest
          else
            match dropNewline? (c :: rest) with
            | some rest => readLongBasic fuel ('\n' :: front) rest
            | none => if isPlain c then readLongBasic fuel (c :: front) rest else none

/-- Reads a literal string of several lines. -/
def readLongLiteral : Nat → List Char → Reader String
  | 0, _, _ => none
  | _ + 1, _, [] => none
  | fuel + 1, front, c :: rest =>
      match closing? '\x27' front (c :: rest) with
      | some result => some result
      | none =>
          match dropNewline? (c :: rest) with
          | some rest => readLongLiteral fuel ('\n' :: front) rest
          | none => if isPlain c then readLongLiteral fuel (c :: front) rest else none

/-- A text without the line end right behind its opening quotes. -/
def dropFirstNewline (text : List Char) : List Char :=
  (dropNewline? text).getD text

/-- Reads a string of one line, if one starts here. -/
def readShort (fuel : Nat) : Reader String
  | '"' :: rest => readBasic fuel [] rest
  | '\x27' :: rest => readLiteral [] rest
  | _ => none

/-- Reads a string of any form, if one starts here. -/
def readQuoted (fuel : Nat) (text : List Char) : Option (String × List Char) :=
  match text with
  | '"' :: '"' :: '"' :: rest => readLongBasic fuel [] (dropFirstNewline rest)
  | '\x27' :: '\x27' :: '\x27' :: rest => readLongLiteral fuel [] (dropFirstNewline rest)
  | _ => readShort fuel text

end DuplicateLogic.Toml
