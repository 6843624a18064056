import ToolPack.Decimal.Binary
import ToolPack.Native

/-!
# The shortest decimal of a binary number

Of all decimals that round to a binary number, the one with the fewest digits, and of those the
nearest.  Everything is exact: the decimals that round to the number form an interval, and on the
grid of decimals with a given number of digits only the two neighbours of the number can be in it
first.

## What is here

* `Decimal`: `digits * 10 ^ exponent`;
* `Binary.shortest`: the shortest decimal of a number;
* `Decimal.positional`: its digits around a point, at least one on either side.
-/

set_option autoImplicit false

namespace ToolPack

open scoped Native

/-- The number `digits * 10 ^ exponent`. -/
structure Decimal where
  digits : Nat
  exponent : Int
  deriving DecidableEq, Repr

namespace Binary

/-- Four times the number, and four times the distances to the ends of the interval of numbers
that round to it, over a common denominator.  Below a power of two the neighbours are closer. -/
structure Interval where
  value : Nat
  below : Nat
  above : Nat
  den : Nat
  closed : Bool

/-- The interval of the numbers that round to a positive number. -/
def interval (b : Binary) : Interval :=
  let unit := if b.exponent < 0 then 1 else 2 ^ b.exponent.natAbs
  let den := if b.exponent < 0 then 4 * 2 ^ b.exponent.natAbs else 4
  let atPower := b.mantissa = 2 ^ (precision - 1) ∧ leastExponent < b.exponent
  ⟨4 * b.mantissa * unit, if atPower then unit else 2 * unit, 2 * unit, den,
    b.mantissa % 2 == 0⟩

/-- Whether `digits * 10 ^ exponent` is in an interval. -/
def Interval.holds (i : Interval) (digits : Nat) (exponent : Int) : Bool :=
  let (p, d) := scale digits 1 10 exponent
  let low := (i.value - i.below) * d
  let high := (i.value + i.above) * d
  let point := p * i.den
  if i.closed then low ≤ point && point ≤ high else low < point && point < high

/-- The point of the grid `10 ^ exponent` that is in an interval and nearest to its number. -/
def Interval.onGrid? (i : Interval) (exponent : Int) : Option Nat :=
  let (n, d) := scale i.value i.den 10 (-exponent)
  let low := n / d
  let nearest := roundHalfEven n d
  let further := if nearest = low then low + 1 else low
  if i.holds nearest exponent then some nearest
  else if i.holds further exponent then some further
  else none

/-- Tries grids from `exponent` down, `fuel` of them; the last one is taken as it is. -/
def Interval.search (i : Interval) : Nat → Int → Decimal
  | 0, exponent =>
    let (n, d) := scale i.value i.den 10 (-exponent)
    ⟨roundHalfEven n d, exponent⟩
  | fuel + 1, exponent =>
    match i.onGrid? exponent with
    | some digits => ⟨digits, exponent⟩
    | none => i.search fuel (exponent - 1)

/-- The number of decimal digits of a positive number. -/
def digitCount (n : Nat) : Nat := (Nat.toDigits 10 n).length

/-- The shortest decimal of a number.  Seventeen digits always suffice. -/
def shortest (b : Binary) : Decimal :=
  if b.mantissa = 0 then ⟨0, 0⟩
  else
    let i := b.interval
    let top := floorPower i.value i.den 10 ((digitCount i.value : Int) - (digitCount i.den : Int))
    i.search 17 top

end Binary

namespace Decimal

/-- The digits around a point: no exponent, and at least one digit on either side. -/
def positional (d : Decimal) : List Char :=
  let digits := Nat.toDigits 10 d.digits
  if d.exponent < 0 then
    let places := d.exponent.natAbs
    let padded := List.replicate (places + 1 - digits.length) '0' ++ digits
    let whole := padded.take (padded.length - places)
    let fraction :=
      ((padded.drop (padded.length - places)).reverse.dropWhile (· == '0')).reverse
    whole ++ '.' :: (if fraction.isEmpty then ['0'] else fraction)
  else digits ++ List.replicate (if d.digits = 0 then 0 else d.exponent.natAbs) '0' ++ ['.', '0']

end Decimal
end ToolPack
