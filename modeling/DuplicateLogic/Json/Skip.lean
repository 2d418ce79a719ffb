import DuplicateLogic.Json.Layout

/-! # Skipping values

A value that nobody asked for is checked for its form only. Open brackets are kept on a stack, so
there is no limit to their depth; numbers may be of any size and surrogates need no partner. -/

namespace DuplicateLogic.Json

/-- An open bracket. -/
inductive Bracket where
  | list
  | object
  deriving DecidableEq, Repr

namespace Bracket

/-- The character that closes the bracket. -/
def closer : Bracket → Char
  | list => ']'
  | object => '}'

/-- The problem of a text that ends inside the bracket. -/
def atEnd : Bracket → Problem
  | list => .endInList
  | object => .endInObject

/-- The problem of a missing comma inside the bracket. -/
def noComma : Bracket → Problem
  | list => .expectedCommaInList
  | object => .expectedCommaInObject

end Bracket

/-- Skips a string, its opening quote already read. -/
def skipString : List Char → Except Fault (List Char)
  | [] => .error (.placed .endInString 0)
  | c :: rest =>
      if c = '"' then
        .ok rest
      else if c = '\\' then
        match rest with
        | [] => .error (.placed .endInString 0)
        | 'u' :: a :: b :: c :: d :: tail =>
            if (hexUnit? a b c d).isSome then skipString tail
            else .error (badUnit (a :: b :: c :: d :: tail))
        | 'u' :: tail => .error (badUnit tail)
        | e :: tail =>
            if (simpleEscape? e).isSome then skipString tail
            else .error (.placed .invalidEscape (byteCount (e :: tail) - 1))
      else if c.toNat < 0x20 then
        .error (.behind .controlCharacter (c :: rest))
      else
        skipString rest

/-- Skips an exponent, its letter already read. -/
def skipExponent (text : List Char) : Except Fault (List Char) :=
  let (_, digits) := exponentSign text
  match digits with
  | [] => .error (.placed .invalidNumber 0)
  | c :: _ =>
      if (digit? c).isSome then .ok (splitDigits digits).2
      else .error (.placed .invalidNumber (byteCount digits - 1))

/-- Skips an exponent if there is one. -/
def skipScale (text : List Char) : Except Fault (List Char) :=
  match text with
  | 'e' :: rest => skipExponent rest
  | 'E' :: rest => skipExponent rest
  | rest => .ok rest

/-- Skips what follows the digits before the point. -/
def skipTail (text : List Char) : Except Fault (List Char) :=
  match text with
  | '.' :: rest =>
      let (digits, tail) := splitDigits rest
      if digits.isEmpty then .error (.ahead .invalidNumber rest) else skipScale tail
  | rest => skipScale rest

/-- Skips a number from its first digit on. -/
def skipNumber (text : List Char) : Except Fault (List Char) :=
  match text with
  | [] => .error (.placed .invalidNumber 0)
  | '0' :: rest =>
      match rest with
      | [] => .ok []
      | c :: _ =>
          if (digit? c).isSome then .error (.ahead .invalidNumber rest) else skipTail rest
  | c :: rest =>
      if (digit? c).isSome then skipTail (splitDigits rest).2
      else .error (.placed .invalidNumber (byteCount text - 1))

/-- Closes the brackets that end here. Nothing is left open when the skipped value is complete;
otherwise the next value of the innermost open bracket follows. A comma is accepted only after a
value. -/
def closeBrackets : Bool → List Bracket → List Char →
    Except Fault (List Bracket × List Char)
  | _, [], text => .ok ([], text)
  | afterValue, bracket :: outer, text =>
      match skipBlanks text with
      | [] => .error (.placed bracket.atEnd 0)
      | c :: rest =>
          if c = ',' && afterValue then
            .ok (bracket :: outer, rest)
          else if c = bracket.closer then
            closeBrackets true outer rest
          else if afterValue then
            .error (.ahead bracket.noComma (c :: rest))
          else
            .ok (bracket :: outer, c :: rest)

/-- Skips the key and the colon of a member. -/
def skipKey (text : List Char) : Except Fault (List Char) :=
  match skipBlanks text with
  | [] => .error (.placed .endInObject 0)
  | c :: rest =>
      if c = '"' then (skipString rest).bind readColon
      else .error (.ahead .keyNotString (c :: rest))

/-- Skips the scalar or opens the bracket at the front of a text; the stack is that of the open
brackets, with whether a value has just ended. -/
def skipOpening (stack : List Bracket) (text : List Char) :
    Except Fault (Bool × List Bracket × List Char) :=
  match skipBlanks text with
  | [] => .error (.placed .endInValue 0)
  | c :: rest =>
      let ended (rest : List Char) := (true, stack, rest)
      if c = 'n' then (readWord "ull".toList rest).map ended
      else if c = 't' then (readWord "rue".toList rest).map ended
      else if c = 'f' then (readWord "alse".toList rest).map ended
      else if c = '-' then (skipNumber rest).map ended
      else if (digit? c).isSome then (skipNumber (c :: rest)).map ended
      else if c = '"' then (skipString rest).map ended
      else if c = '[' then .ok (false, .list :: stack, rest)
      else if c = '{' then .ok (false, .object :: stack, rest)
      else .error (.ahead .expectedValue (c :: rest))

/-- Skips values until no bracket is open. -/
def skipNested : Nat → List Bracket → List Char → Except Fault (List Char)
  | 0, _, _ => .error (.placed .endInValue 0)
  | fuel + 1, stack, text => do
      let (afterValue, stack, text) ← skipOpening stack text
      let (stack, text) ← closeBrackets afterValue stack text
      match stack with
      | [] => return text
      | .list :: outer => skipNested fuel (.list :: outer) text
      | .object :: outer => do
          let text ← skipKey text
          skipNested fuel (.object :: outer) text

/-- Skips one value. -/
def skipValue (fuel : Nat) (text : List Char) : Except Fault (List Char) :=
  skipNested fuel [] text

end DuplicateLogic.Json
