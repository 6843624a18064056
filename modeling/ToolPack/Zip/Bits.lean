import ToolPack.Native

/-!
# Rows of bits

Packed data are a row of bits; bytes hold them from the least significant bit on.

## What is here

* `lowFirst`: a number in a given width, its least significant bit first, and `takeNumber?`, which
  reads it back;
* `toBytes`: bits in bytes, the last one filled up with zeros;
* `ofBytes`: the bits of bytes.
-/

set_option autoImplicit false

namespace ToolPack
namespace Zip

open scoped Native

/-- A row of bits. -/
abbrev Bits := List Bool

namespace Bits

/-- A number in `width` bits, the least significant one first. -/
def lowFirst : Nat → Nat → Bits
  | 0, _ => []
  | width + 1, n => (n % 2 == 1) :: lowFirst width (n / 2)

/-- A number in `width` bits, the most significant one first. -/
def highFirst (width n : Nat) : Bits := (lowFirst width n).reverse

/-- Reads a number of `width` bits, the least significant one first. -/
def takeNumber? : Nat → Bits → Option (Nat × Bits)
  | 0, bits => some (0, bits)
  | _ + 1, [] => none
  | width + 1, b :: bits =>
    (takeNumber? width bits).map fun r => (b.toNat + 2 * r.1, r.2)

/-- A number that was written is read back, and what follows it stays. -/
theorem takeNumber?_lowFirst (width n : Nat) (rest : Bits) :
    takeNumber? width (lowFirst width n ++ rest) = some (n % 2 ^ width, rest) := by
  induction width generalizing n with
  | zero => simp [takeNumber?, lowFirst, Nat.mod_one]
  | succ width ih =>
    simp only [takeNumber?, lowFirst, List.cons_append, ih, Option.map_some, Option.some.injEq,
      Prod.mk.injEq, and_true]
    have hb : (n % 2 == 1).toNat = n % 2 := by
      rcases Nat.mod_two_eq_zero_or_one n with h | h <;> simp [h]
    rw [hb, Nat.pow_succ, Nat.mul_comm (2 ^ width) 2, Nat.mod_mul]

/-- The byte of eight bits, the least significant one first. -/
def byte (a b c d e f g h : Bool) : UInt8 :=
  UInt8.ofNat (a.toNat + 2 * b.toNat + 4 * c.toNat + 8 * d.toNat + 16 * e.toNat + 32 * f.toNat
    + 64 * g.toNat + 128 * h.toNat)

/-- Bits in bytes; zeros fill up the last one. -/
def toBytes : Bits → List UInt8
  | a :: b :: c :: d :: e :: f :: g :: h :: rest => byte a b c d e f g h :: toBytes rest
  | [] => []
  | rest =>
    [byte (rest.getD 0 false) (rest.getD 1 false) (rest.getD 2 false) (rest.getD 3 false)
      (rest.getD 4 false) (rest.getD 5 false) (rest.getD 6 false) (rest.getD 7 false)]

/-- The bits of bytes. -/
def ofBytes (bytes : List UInt8) : Bits := bytes.flatMap fun b => lowFirst 8 b.toNat

end Bits
end Zip
end ToolPack
