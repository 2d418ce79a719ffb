/-! # Shortest decimals of binary numbers

A finite double stands for every real that rounds to it. Its shortest decimal is the decimal with
the fewest digits among those reals, and of two such decimals the nearer one. All comparisons are
exact, by cross-multiplying natural numbers. -/

namespace DuplicateLogic

/-- A finite non-negative double, `mantissa * 2 ^ exponent`. -/
structure Binary where
  mantissa : Nat
  exponent : Int
  /-- The gap to the value below is half the gap to the value above. -/
  narrowBelow : Bool

/-- The decimal `digits * 10 ^ exponent`. -/
structure Decimal where
  digits : Nat
  exponent : Int
  deriving DecidableEq, Repr

namespace Binary

/-- The magnitude held in the bits of a finite double. -/
def ofBits (bits : UInt64) : Binary :=
  let scale := ((bits >>> 52) &&& 0x7FF).toNat
  let fraction := (bits &&& 0xFFFFFFFFFFFFF).toNat
  if scale = 0 then
    ⟨fraction, -1074, false⟩
  else
    ⟨Nat.pow 2 52 + fraction, (scale : Int) - 1075, fraction == 0 && scale > 1⟩

/-- Compare `a * 10 ^ i` with `n * 2 ^ j`. -/
def compareScaled (a : Nat) (i : Int) (n : Nat) (j : Int) : Ordering :=
  compare (a * Nat.pow 10 i.toNat * Nat.pow 2 (-j).toNat)
    (n * Nat.pow 2 j.toNat * Nat.pow 10 (-i).toNat)

/-- Whether a decimal lies among the reals that round to the double. -/
def readsBack (x : Binary) (d : Decimal) : Bool :=
  let low := if x.narrowBelow then 4 * x.mantissa - 1 else 4 * x.mantissa - 2
  let high := 4 * x.mantissa + 2
  let closed := x.mantissa % 2 == 0
  let below := compareScaled d.digits d.exponent low (x.exponent - 2)
  let above := compareScaled d.digits d.exponent high (x.exponent - 2)
  (below == .gt || (closed && below == .eq)) && (above == .lt || (closed && above == .eq))

/-- The multiple of `10 ^ grid` at or below the double, as a count of the grid. -/
def floorOn (x : Binary) (grid : Int) : Nat :=
  (x.mantissa * Nat.pow 2 x.exponent.toNat * Nat.pow 10 (-grid).toNat) /
    (Nat.pow 2 (-x.exponent).toNat * Nat.pow 10 grid.toNat)

/-- The nearer of two neighbours on a grid that read back; of two equally near the even one. -/
def nearestOn (x : Binary) (grid : Int) : Option Decimal :=
  let lower := x.floorOn grid
  let down : Decimal := ⟨lower, grid⟩
  let up : Decimal := ⟨lower + 1, grid⟩
  match x.readsBack down, x.readsBack up with
  | true, true =>
      match compareScaled (2 * lower + 1) grid (2 * x.mantissa) x.exponent with
      | .lt => some up
      | .gt => some down
      | .eq => some (if lower % 2 = 0 then down else up)
  | true, false => some down
  | false, true => some up
  | false, false => none

/-- The least `k` with the double below `10 ^ k`, searched upward from an estimate. -/
def magnitude (x : Binary) : Int :=
  let low : Int := ((x.mantissa.log2 : Int) + x.exponent) * 30103 / 100000 - 2
  let candidates := (List.range 8).map fun (step : Nat) => low + step
  (candidates.find? fun k => compareScaled 1 k x.mantissa x.exponent == .gt).getD low

/-- Moves trailing zeros of the digits into the exponent. -/
def stripZeros : Nat → Decimal → Decimal
  | 0, d => d
  | fuel + 1, d =>
      if d.digits ≠ 0 ∧ d.digits % 10 = 0 then
        stripZeros fuel ⟨d.digits / 10, d.exponent + 1⟩
      else
        d

/-- The shortest decimal that rounds to the double. -/
def shortest (x : Binary) : Decimal :=
  if x.mantissa = 0 then
    ⟨0, 0⟩
  else
    let scale := x.magnitude
    let found := (List.range 18).findSome? fun count => x.nearestOn (scale - (count + 1 : Nat))
    stripZeros 18 (found.getD
      ⟨x.mantissa * Nat.pow 2 x.exponent.toNat * Nat.pow 5 (-x.exponent).toNat, min x.exponent 0⟩)

end Binary

end DuplicateLogic
