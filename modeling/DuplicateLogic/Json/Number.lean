import DuplicateLogic.Decimal

/-! # JSON numbers

An integer literal is a number of 64 bits when it fits and a double when it does not. Minus zero
is a double as well. -/

namespace DuplicateLogic

/-- A number as it was read. -/
inductive Json.Number where
  | natural (value : Nat)
  | negative (value : Int)
  | double (value : Float)
  deriving Repr

namespace Json.Number

/-- The text of an exponent: its sign and two digits at least. -/
def exponentText (power : Int) : String :=
  let digits := toString power.natAbs
  (if power < 0 then "e-" else "e+") ++ (if digits.length < 2 then "0" ++ digits else digits)

/-- The text of a non-negative finite double: positional from `1e-5` up to `1e16`, with one digit
after the point at least; with an exponent elsewhere. -/
def magnitudeText (bits : UInt64) : String :=
  let d := (Binary.ofBits bits).shortest
  let digits := Nat.toDigits 10 d.digits
  let count := digits.length
  let point : Int := count + d.exponent
  if d.digits = 0 then
    "0.0"
  else if 0 ≤ d.exponent ∧ point ≤ 16 then
    String.ofList (digits ++ List.replicate d.exponent.toNat '0') ++ ".0"
  else if 0 < point ∧ point ≤ 16 then
    String.ofList (digits.take point.toNat) ++ "." ++ String.ofList (digits.drop point.toNat)
  else if -5 < point ∧ point ≤ 0 then
    "0." ++ String.ofList (List.replicate (-point).toNat '0' ++ digits)
  else
    let lead := String.ofList (digits.take 1)
    let tail := if count = 1 then "" else "." ++ String.ofList (digits.drop 1)
    lead ++ tail ++ exponentText (point - 1)

/-- The text of a finite double. -/
def doubleText (value : Float) : String :=
  let bits := value.toBits
  if bits >>> 63 = 0 then
    magnitudeText bits
  else
    "-" ++ magnitudeText (bits &&& 0x7FFFFFFFFFFFFFFF)

/-- The number as JSON text. -/
def text : Json.Number → String
  | natural value => toString value
  | negative value => toString value
  | double value => doubleText value

end Json.Number

end DuplicateLogic
