import DuplicateLogic.Json.Fault

/-! # Reading words, strings and numbers

The readers of the leaves of a JSON text. Each starts right after the character that announces
the leaf, except the reader of numbers, which starts at the first digit. -/

namespace DuplicateLogic.Json

/-- The characters that may stand between tokens. -/
def isBlank (c : Char) : Bool :=
  c = ' ' || c = '\t' || c = '\n' || c = '\r'

/-- What follows the blanks at the front of a text. -/
def skipBlanks (text : List Char) : List Char :=
  text.dropWhile isBlank

/-- Reads the letters of a word. -/
def readWord : List Char → List Char → Except Fault (List Char)
  | [], rest => .ok rest
  | _ :: _, [] => .error (.placed .endInValue 0)
  | letter :: letters, c :: rest =>
      if c = letter then readWord letters rest
      else .error (.placed .expectedIdent (byteCount (c :: rest) - 1))

/-- The value of a decimal digit. -/
def digit? (c : Char) : Option Nat :=
  if '0' ≤ c ∧ c ≤ '9' then some (c.toNat - '0'.toNat) else none

/-- The value of a hexadecimal digit. -/
def hexDigit? (c : Char) : Option Nat :=
  if '0' ≤ c ∧ c ≤ '9' then some (c.toNat - '0'.toNat)
  else if 'a' ≤ c ∧ c ≤ 'f' then some (c.toNat - 'a'.toNat + 10)
  else if 'A' ≤ c ∧ c ≤ 'F' then some (c.toNat - 'A'.toNat + 10)
  else none

/-- The value of four hexadecimal digits. -/
def hexUnit? (a b c d : Char) : Option Nat := do
  let a ← hexDigit? a
  let b ← hexDigit? b
  let c ← hexDigit? c
  let d ← hexDigit? d
  return ((a * 16 + b) * 16 + c) * 16 + d

/-- The fault of an escape whose four bytes are not hexadecimal digits or not there. -/
def badUnit (rest : List Char) : Fault :=
  let count := byteCount rest
  if count < 4 then .placed .endInString 0 else .placed .invalidEscape (count - 4)

/-- The character that a one-letter escape stands for. -/
def simpleEscape? (c : Char) : Option Char :=
  match c with
  | '"' => some '"'
  | '\\' => some '\\'
  | '/' => some '/'
  | 'b' => some '\x08'
  | 'f' => some '\x0c'
  | 'n' => some '\n'
  | 'r' => some '\r'
  | 't' => some '\t'
  | _ => none

/-- Whether a unit opens a surrogate pair. -/
def isHighSurrogate (unit : Nat) : Bool :=
  0xD800 ≤ unit && unit ≤ 0xDBFF

/-- Whether a unit closes a surrogate pair. -/
def isLowSurrogate (unit : Nat) : Bool :=
  0xDC00 ≤ unit && unit ≤ 0xDFFF

/-- The character of a surrogate pair. -/
def pairChar (high low : Nat) : Char :=
  Char.ofNat ((high - 0xD800) * 0x400 + (low - 0xDC00) + 0x10000)

/-- The fault of a high surrogate that no escaped low surrogate follows. -/
def unpaired (rest : List Char) : Fault :=
  match rest with
  | [] => .placed .endInString 0
  | '\\' :: [] => .placed .endInString 0
  | '\\' :: 'u' :: tail => badUnit tail
  | '\\' :: tail => .placed .endInSurrogatePair (byteCount tail - 1)
  | _ => .placed .endInSurrogatePair (byteCount rest - 1)

/-- Reads a string up to its closing quote; `front` holds the characters so far, last first. -/
def readStringFrom (front : List Char) : Reader String
  | [] => .error (.placed .endInString 0)
  | c :: rest =>
      if c = '"' then
        .ok (String.ofList front.reverse, rest)
      else if c = '\\' then
        match rest with
        | [] => .error (.placed .endInString 0)
        | 'u' :: a :: b :: c :: d :: tail =>
            match hexUnit? a b c d with
            | none => .error (badUnit (a :: b :: c :: d :: tail))
            | some unit =>
                if isLowSurrogate unit then
                  .error (.behind .loneSurrogate tail)
                else if isHighSurrogate unit then
                  match tail with
                  | '\\' :: 'u' :: e :: f :: g :: h :: more =>
                      match hexUnit? e f g h with
                      | none => .error (badUnit (e :: f :: g :: h :: more))
                      | some second =>
                          if isLowSurrogate second then
                            readStringFrom (pairChar unit second :: front) more
                          else
                            .error (.behind .loneSurrogate more)
                  | _ => .error (unpaired tail)
                else
                  readStringFrom (Char.ofNat unit :: front) tail
        | 'u' :: tail => .error (badUnit tail)
        | e :: tail =>
            match simpleEscape? e with
            | some plain => readStringFrom (plain :: front) tail
            | none => .error (.placed .invalidEscape (byteCount (e :: tail) - 1))
      else if c.toNat < 0x20 then
        .error (.behind .controlCharacter rest)
      else
        readStringFrom (c :: front) rest

/-- Reads a string, its opening quote already read. -/
def readString : Reader String :=
  readStringFrom []

/-- The greatest integer of 64 bits. -/
def maxWord : Nat :=
  0xFFFFFFFFFFFFFFFF

/-- Reads digits into a significand for as long as it fits 64 bits, and counts them. -/
def readSignificand (significand count : Nat) : List Char → Nat × Nat × List Char
  | [] => (significand, count, [])
  | c :: rest =>
      match digit? c with
      | none => (significand, count, c :: rest)
      | some digit =>
          if significand * 10 + digit ≤ maxWord then
            readSignificand (significand * 10 + digit) (count + 1) rest
          else
            (significand, count, c :: rest)

/-- Splits the digits off the front of a text. -/
def splitDigits (text : List Char) : List Char × List Char :=
  text.span fun c => (digit? c).isSome

/-- A power of ten as a double. -/
def powerOfTen (exponent : Nat) : Float :=
  Float.ofScientific 1 false exponent

/-- Divides by a power of ten, in steps that stay in range. -/
def scaleDown (value : Float) (exponent : Nat) : Float :=
  if exponent ≤ 308 then value / powerOfTen exponent
  else if value == 0 then value
  else scaleDown (value / powerOfTen 308) (exponent - 308)
termination_by exponent

/-- Multiplies by a power of ten; nothing when the result is beyond all doubles. -/
def scaleUp? (value : Float) (exponent : Nat) : Option Float :=
  if exponent ≤ 308 then
    let scaled := value * powerOfTen exponent
    if scaled.isInf then none else some scaled
  else if value == 0 then some value
  else none

/-- The double of a significand and a power of ten, rounded once for each. -/
def assemble (positive : Bool) (significand : Nat) (exponent : Int) (rest : List Char) :
    Except Fault (Number × List Char) :=
  let value := (UInt64.ofNat significand).toFloat
  let scaled? :=
    if 0 ≤ exponent then scaleUp? value exponent.toNat
    else some (scaleDown value (-exponent).toNat)
  match scaled? with
  | none => .error (.behind .numberOutOfRange rest)
  | some scaled => .ok (.double (if positive then scaled else -scaled), rest)

/-- The greatest exponent that is counted exactly. -/
def maxExponent : Nat :=
  0x7FFFFFFF

/-- Reads the digits of an exponent for as long as it is counted exactly; the flag says whether
it outgrew that. -/
def readExponentDigits (exponent : Nat) : List Char → Nat × Bool × List Char
  | [] => (exponent, false, [])
  | c :: rest =>
      match digit? c with
      | none => (exponent, false, c :: rest)
      | some digit =>
          if exponent * 10 + digit ≤ maxExponent then
            readExponentDigits (exponent * 10 + digit) rest
          else
            (exponent, true, rest)

/-- The sign of an exponent and what follows it. -/
def exponentSign : List Char → Bool × List Char
  | '+' :: rest => (true, rest)
  | '-' :: rest => (false, rest)
  | rest => (true, rest)

/-- Reads an exponent, its letter already read. -/
def readExponent (positive : Bool) (significand : Nat) (scale : Int) (text : List Char) :
    Except Fault (Number × List Char) :=
  let (upward, digits) := exponentSign text
  match digits with
  | [] => .error (.placed .endInValue 0)
  | c :: _ =>
      if (digit? c).isNone then
        .error (.placed .invalidNumber (byteCount digits - 1))
      else
        let (exponent, outgrown, rest) := readExponentDigits 0 digits
        if outgrown then
          if significand ≠ 0 && upward then
            .error (.behind .numberOutOfRange rest)
          else
            .ok (.double (if positive then 0 else -0.0), (splitDigits rest).2)
        else
          assemble positive significand
            (if upward then scale + exponent else scale - exponent) rest

/-- Reads what may follow the digits of a number: an exponent or nothing. -/
def readScale (positive : Bool) (significand : Nat) (scale : Int) (text : List Char) :
    Except Fault (Number × List Char) :=
  match text with
  | 'e' :: rest => readExponent positive significand scale rest
  | 'E' :: rest => readExponent positive significand scale rest
  | rest => assemble positive significand scale rest

/-- Reads the digits after a decimal point. Digits beyond 64 bits are dropped. -/
def readFraction (positive : Bool) (significand : Nat) (scale : Int) (text : List Char) :
    Except Fault (Number × List Char) :=
  match text with
  | [] => .error (.placed .endInValue 0)
  | c :: _ =>
      if (digit? c).isNone then
        .error (.ahead .invalidNumber text)
      else
        let (significand, count, rest) := readSignificand significand 0 text
        readScale positive significand (scale - count) (splitDigits rest).2

/-- The integer of a literal without fraction and exponent. -/
def integer (positive : Bool) (significand : Nat) : Number :=
  if positive then .natural significand
  else if significand = 0 ∨ 0x8000000000000000 < significand then
    .double (-(UInt64.ofNat significand).toFloat)
  else .negative (-significand)

/-- Reads what follows a significand of 64 bits. -/
def readTail (positive : Bool) (significand : Nat) (text : List Char) :
    Except Fault (Number × List Char) :=
  match text with
  | '.' :: rest => readFraction positive significand 0 rest
  | 'e' :: rest => readExponent positive significand 0 rest
  | 'E' :: rest => readExponent positive significand 0 rest
  | rest => .ok (integer positive significand, rest)

/-- Reads what follows a significand that outgrew 64 bits: further digits only scale it. -/
def readLongTail (positive : Bool) (significand : Nat) (text : List Char) :
    Except Fault (Number × List Char) :=
  let (digits, rest) := splitDigits text
  match rest with
  | '.' :: tail => readFraction positive significand digits.length tail
  | _ => readScale positive significand digits.length rest

/-- Reads a number from its first digit on. -/
def readNumber (positive : Bool) (text : List Char) : Except Fault (Number × List Char) :=
  match text with
  | [] => .error (.placed .endInValue 0)
  | '0' :: rest =>
      match rest with
      | [] => readTail positive 0 []
      | c :: _ =>
          if (digit? c).isSome then .error (.ahead .invalidNumber rest)
          else readTail positive 0 rest
  | c :: rest =>
      match digit? c with
      | none => .error (.placed .invalidNumber (byteCount text - 1))
      | some digit =>
          let (significand, _, rest) := readSignificand digit 0 rest
          match rest with
          | [] => readTail positive significand []
          | c :: _ =>
              if (digit? c).isSome then readLongTail positive significand rest
              else readTail positive significand rest

end DuplicateLogic.Json
