import ToolPack.Native

/-!
# Binary floating-point numbers

A decimal number in a manifest is held with the precision of a 64-bit binary floating-point
number.  All steps are exact: a number is a mantissa times a power of two, and a ratio is rounded
to the nearest such number, a tie to the even mantissa.

## What is here

* `Binary`: a positive number or zero, `mantissa * 2 ^ exponent`;
* `roundHalfEven`: the whole number nearest to a ratio;
* `Binary.ofRatio?`: the nearest number to a ratio, none beyond the largest.
-/

set_option autoImplicit false

namespace ToolPack

open scoped Native

/-- The number `mantissa * 2 ^ exponent`. -/
structure Binary where
  mantissa : Nat
  exponent : Int
  deriving DecidableEq, Repr

/-- The whole number nearest to `num / den`, the even one of two. -/
def roundHalfEven (num den : Nat) : Nat :=
  let low := num / den
  let twice := 2 * (num % den)
  if twice < den then low
  else if den < twice then low + 1
  else if low % 2 = 0 then low else low + 1

/-- Multiplies by a power of `base`, as a numerator and a denominator. -/
def scale (num den base : Nat) (power : Int) : Nat × Nat :=
  if power < 0 then (num, den * base ^ power.natAbs) else (num * base ^ power.natAbs, den)

/-- The greatest power of `base` that is at most `num / den`, when `guess` is that power or one
more. -/
def floorPower (num den base : Nat) (guess : Int) : Int :=
  let (n, d) := scale num den base (-guess)
  if d ≤ n then guess else guess - 1

namespace Binary

/-- The bits of a mantissa. -/
def precision : Nat := 53

/-- The exponent of the smallest numbers. -/
def leastExponent : Int := -1074

/-- The exponent of the largest numbers. -/
def greatestExponent : Int := 971

/-- The number nearest to a positive ratio. -/
def ofRatio? (num den : Nat) : Option Binary :=
  if num = 0 then some ⟨0, leastExponent⟩
  else
    let power := floorPower num den 2 ((num.log2 : Int) - (den.log2 : Int))
    let exponent := max leastExponent (power - (precision - 1 : Nat))
    let (n, d) := scale num den 2 (-exponent)
    let mantissa := roundHalfEven n d
    let b : Binary := if mantissa = 2 ^ precision then ⟨2 ^ (precision - 1), exponent + 1⟩
      else ⟨mantissa, exponent⟩
    if greatestExponent < b.exponent then none else some b

end Binary
end ToolPack
