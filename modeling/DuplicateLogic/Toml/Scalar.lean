/-! # Unquoted TOML scalars

Numbers, truth values and dates. Only their form and range matter here; their values do not. -/

namespace DuplicateLogic.Toml

/-- The value of a digit in a base. -/
def digitIn? (base : Nat) (c : Char) : Option Nat :=
  let value? :=
    if '0' ≤ c ∧ c ≤ '9' then some (c.toNat - '0'.toNat)
    else if 'a' ≤ c ∧ c ≤ 'f' then some (c.toNat - 'a'.toNat + 10)
    else if 'A' ≤ c ∧ c ≤ 'F' then some (c.toNat - 'A'.toNat + 10)
    else none
  value?.filter (· < base)

/-- Reads the digits of a number that may have single underscores between them. `value` is what
has been read; `afterDigit` says whether the last character was a digit. -/
def digitsFrom (base value : Nat) (afterDigit : Bool) : List Char → Option Nat
  | [] => if afterDigit then some value else none
  | c :: rest =>
      if c = '_' then
        if afterDigit then digitsFrom base value false rest else none
      else
        match digitIn? base c with
        | some digit => digitsFrom base (value * base + digit) true rest
        | none => none

/-- The number that digits with underscores between them stand for. -/
def digits? (base : Nat) (text : List Char) : Option Nat :=
  digitsFrom base 0 false text

/-- The magnitude of a decimal integer, which has no leading zero. -/
def decimal? (text : List Char) : Option Nat :=
  match text with
  | '0' :: _ :: _ => none
  | _ => digits? 10 text

/-- A sign and what follows it. -/
def splitSign : List Char → Bool × List Char
  | '-' :: rest => (true, rest)
  | '+' :: rest => (false, rest)
  | rest => (false, rest)

/-- Whether an integer fits 128 bits, with or without sign. -/
def fitsWord (negative : Bool) (magnitude : Nat) : Bool :=
  if negative then magnitude ≤ Nat.pow 2 127 else magnitude < Nat.pow 2 128

/-- Whether a text is an integer. -/
def isInteger (text : List Char) : Bool :=
  match text with
  | '0' :: 'x' :: rest => (digits? 16 rest).any (fitsWord false)
  | '0' :: 'o' :: rest => (digits? 8 rest).any (fitsWord false)
  | '0' :: 'b' :: rest => (digits? 2 rest).any (fitsWord false)
  | _ =>
      let (negative, rest) := splitSign text
      (decimal? rest).any (fitsWord negative)

/-- The number of digits in a text. -/
def digitCount (text : List Char) : Nat :=
  (text.filter Char.isDigit).length

/-- The exponent of a float, from its letter on; zero when there is none. -/
def exponent? (text : List Char) : Option Int :=
  match text with
  | [] => some 0
  | c :: rest =>
      if c = 'e' || c = 'E' then
        let (negative, rest) := splitSign rest
        (digits? 10 rest).map fun value => if negative then -(value : Int) else value
      else
        none

/-- Whether `significand * 10 ^ exponent` rounds to a finite double. -/
def isFinite (significand : Nat) (exponent : Int) : Bool :=
  let limit := Nat.pow 2 1024 - Nat.pow 2 970
  if significand = 0 then true
  else if exponent > 400 then false
  else significand * Nat.pow 10 exponent.toNat < limit * Nat.pow 10 (min (-exponent).toNat 2000) ||
    exponent < -2000

/-- Whether a text is a float with a fraction or an exponent. -/
def isDecimalFloat (text : List Char) : Bool :=
  let (_, rest) := splitSign text
  let isMark (c : Char) : Bool := c = '.' || c = 'e' || c = 'E'
  let whole := rest.takeWhile fun c => !isMark c
  match rest.dropWhile fun c => !isMark c with
  | [] => false
  | '.' :: tail =>
      let isExponentMark (c : Char) : Bool := c = 'e' || c = 'E'
      let fraction := tail.takeWhile fun c => !isExponentMark c
      match decimal? whole, digits? 10 fraction,
          exponent? (tail.dropWhile fun c => !isExponentMark c) with
      | some high, some low, some exponent =>
          let count := digitCount fraction
          isFinite (high * Nat.pow 10 count + low) (exponent - count)
      | _, _, _ => false
  | tail =>
      match decimal? whole, exponent? tail with
      | some high, some exponent => isFinite high exponent
      | _, _ => false

/-- Whether a text is a float. -/
def isFloat (text : List Char) : Bool :=
  let (_, rest) := splitSign text
  rest = "inf".toList || rest = "nan".toList || isDecimalFloat text

/-- A number of exactly so many digits. -/
def fixedDigits? (count : Nat) (text : List Char) : Option (Nat × List Char) :=
  let front := text.take count
  if front.length = count && front.all Char.isDigit then
    (digits? 10 front).map fun value => (value, text.drop count)
  else
    none

/-- What follows a character at the front of a text. -/
def dropChar? (c : Char) : List Char → Option (List Char)
  | d :: rest => if d = c then some rest else none
  | [] => none

/-- The number of days of a month. -/
def daysIn (year month : Nat) : Nat :=
  if month = 2 then
    if year % 4 = 0 && (year % 100 ≠ 0 || year % 400 = 0) then 29 else 28
  else if month ∈ [4, 6, 9, 11] then 30
  else 31

/-- What follows a date at the front of a text. -/
def dropDate? (text : List Char) : Option (List Char) := do
  let (year, text) ← fixedDigits? 4 text
  let text ← dropChar? '-' text
  let (month, text) ← fixedDigits? 2 text
  let text ← dropChar? '-' text
  let (day, text) ← fixedDigits? 2 text
  if 1 ≤ month && month ≤ 12 && 1 ≤ day && day ≤ daysIn year month then some text else none

/-- What follows the fraction of a second, if there is one. -/
def dropFraction? : List Char → Option (List Char)
  | '.' :: rest =>
      if (rest.takeWhile Char.isDigit).isEmpty then none else some (rest.dropWhile Char.isDigit)
  | rest => some rest

/-- What follows the seconds of a time, if there are any. -/
def dropSeconds? : List Char → Option (List Char)
  | ':' :: rest => do
      let (second, rest) ← fixedDigits? 2 rest
      if second ≤ 60 then dropFraction? rest else none
  | rest => some rest

/-- What follows a time at the front of a text. -/
def dropTime? (text : List Char) : Option (List Char) := do
  let (hour, text) ← fixedDigits? 2 text
  let text ← dropChar? ':' text
  let (minute, text) ← fixedDigits? 2 text
  if hour ≤ 23 && minute ≤ 59 then dropSeconds? text else none

/-- Whether a text is the offset of a time, or nothing. -/
def isOffset : List Char → Bool
  | [] => true
  | ['Z'] => true
  | ['z'] => true
  | sign :: rest =>
      (sign = '+' || sign = '-') &&
        match fixedDigits? 2 rest with
        | some (hour, ':' :: tail) =>
            match fixedDigits? 2 tail with
            | some (minute, []) => hour ≤ 23 && minute ≤ 59
            | _ => false
        | _ => false

/-- Whether a text is a date, a time, or a date with a time. -/
def isDatetime (text : List Char) : Bool :=
  match dropDate? text with
  | some [] => true
  | some (mark :: rest) =>
      (mark = 'T' || mark = 't' || mark = ' ') &&
        match dropTime? rest with
        | some offset => isOffset offset
        | none => false
  | none => dropTime? text = some []

/-- Whether a text is a scalar that is written without quotes. -/
def isScalar (text : List Char) : Bool :=
  text = "true".toList || text = "false".toList || isInteger text || isFloat text ||
    isDatetime text

end DuplicateLogic.Toml
