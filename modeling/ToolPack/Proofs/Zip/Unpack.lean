import ToolPack.Zip.Deflate

/-!
# Packed data unpack to what they were

Packing keeps blocks of tokens only if they unpack to the data, and writes the data as they are if
not.  So it is enough that plain blocks unpack: their bytes, read as bits, are numbers of eight and
of sixteen bits, and each block tells its length before its data.

## What is here

* `lowFirst_mod`, `ofBytes_bytes16`: the bits of numbers and of their bytes;
* `takeNumber?_byte`, `takeNumber?_bytes16`, `plainBytes?_ofBytes`: what was written is read back,
  and what follows it stays;
* `blocks?_plainFrom`: plain blocks, one after the other;
* `unpack?_pack`: data that were packed are unpacked.
-/

set_option autoImplicit false

namespace ToolPack
namespace Zip

open Bits
open scoped Native

/-! ## Numbers as bits and as bytes -/

/-- Only the lower part of a number shows in its bits. -/
theorem lowFirst_mod (width n : Nat) : lowFirst width (n % 2 ^ width) = lowFirst width n := by
  induction width generalizing n with
  | zero => rfl
  | succ width ih =>
    have hlow : n % 2 ^ (width + 1) % 2 = n % 2 := by
      rw [Nat.pow_succ, Nat.mul_comm, Nat.mod_mul_right_mod]
    have hhigh : n % 2 ^ (width + 1) / 2 = n / 2 % 2 ^ width := by
      rw [Nat.pow_succ, Nat.mul_comm, Nat.mod_mul_right_div_self]
    rw [lowFirst, lowFirst, hlow, hhigh, ih]

theorem lowFirst_add (width more n : Nat) :
    lowFirst (width + more) n = lowFirst width n ++ lowFirst more (n / 2 ^ width) := by
  induction width generalizing n with
  | zero => simp [lowFirst]
  | succ width ih =>
    rw [Nat.succ_add, lowFirst, lowFirst, ih, Nat.div_div_eq_div_mul, Nat.pow_succ, Nat.mul_comm 2,
      List.cons_append]

theorem length_lowFirst (width n : Nat) : (lowFirst width n).length = width := by
  induction width generalizing n with
  | zero => rfl
  | succ width ih => rw [lowFirst, List.length_cons, ih]

theorem ofBytes_cons (b : UInt8) (bytes : List UInt8) :
    ofBytes (b :: bytes) = lowFirst 8 b.toNat ++ ofBytes bytes := List.flatMap_cons

theorem ofBytes_append (bytes more : List UInt8) :
    ofBytes (bytes ++ more) = ofBytes bytes ++ ofBytes more := List.flatMap_append

theorem length_ofBytes (bytes : List UInt8) : (ofBytes bytes).length = 8 * bytes.length := by
  induction bytes with
  | nil => rfl
  | cons b bytes ih =>
    rw [ofBytes_cons, List.length_append, length_lowFirst, ih, List.length_cons, Nat.mul_succ,
      Nat.add_comm]

/-- The two bytes of a number have its bits. -/
theorem ofBytes_bytes16 (n : Nat) : ofBytes (bytes16 n) = lowFirst 16 n := by
  have hlow : (UInt8.ofNat (n % 256)).toNat = n % 2 ^ 8 := by simp
  have hhigh : (UInt8.ofNat (n / 256 % 256)).toNat = n / 2 ^ 8 % 2 ^ 8 := by simp
  rw [bytes16, ofBytes_cons, ofBytes_cons, hlow, hhigh, lowFirst_mod, lowFirst_mod,
    lowFirst_add 8 8 n, ofBytes, List.flatMap_nil, List.append_nil]

/-! ## Reading back -/

theorem takeNumber?_byte (b : UInt8) (bytes : List UInt8) :
    takeNumber? 8 (ofBytes (b :: bytes)) = some (b.toNat, ofBytes bytes) := by
  rw [ofBytes_cons, takeNumber?_lowFirst, Nat.mod_eq_of_lt b.toNat_lt]

theorem takeNumber?_bytes16 {n : Nat} (hn : n < 65536) (bytes : List UInt8) :
    takeNumber? 16 (ofBytes (bytes16 n ++ bytes)) = some (n, ofBytes bytes) := by
  have hmod : n % 2 ^ 16 = n := Nat.mod_eq_of_lt hn
  rw [ofBytes_append, ofBytes_bytes16, takeNumber?_lowFirst, hmod]

/-- Bytes that were written as they are. -/
theorem plainBytes?_ofBytes (out data rest : List UInt8) :
    plainBytes? data.length ⟨out.toArray⟩ (ofBytes (data ++ rest))
      = some (⟨(out ++ data).toArray⟩, ofBytes rest) := by
  induction data generalizing out with
  | nil => simp [plainBytes?]
  | cons b data ih =>
    have hpush : (⟨out.toArray⟩ : ByteArray).push (UInt8.ofNat b.toNat)
        = ⟨(out ++ [b]).toArray⟩ := by
      rw [UInt8.ofNat_toNat]
      exact ByteArray.ext (by simp)
    rw [List.length_cons, plainBytes?, List.cons_append, takeNumber?_byte]
    show plainBytes? data.length _ _ = _
    rw [hpush, ih, List.append_assoc, List.singleton_append]

/-- The length of plain data, its complement and the data. -/
theorem plainBlock?_ofBytes {out data : List UInt8} (hdata : data.length ≤ Block.plainLimit)
    (padding : Bits) (hpadding : padding.length < 8) (rest : List UInt8) :
    block? 0 ⟨out.toArray⟩ (padding ++ ofBytes (bytes16 data.length
        ++ bytes16 (Block.plainLimit - data.length) ++ data ++ rest))
      = some (⟨(out ++ data).toArray⟩, ofBytes rest) := by
  have hlimit : Block.plainLimit = 65535 := rfl
  have hskip : ∀ bytes, (padding ++ ofBytes bytes).length % 8 = padding.length := by
    intro bytes
    rw [List.length_append, length_ofBytes]
    omega
  have hsum : data.length + (Block.plainLimit - data.length) = 65535 := by omega
  have hlength := takeNumber?_bytes16 (n := data.length) (by omega)
  have hcomplement := takeNumber?_bytes16 (n := Block.plainLimit - data.length) (by omega)
  rw [List.append_assoc, List.append_assoc]
  simp only [block?, hskip, List.drop_left, hlength, hcomplement, Option.bind_eq_bind,
    Option.bind_some, hsum, if_true, plainBytes?_ofBytes]

/-! ## Blocks -/

/-- The byte in front of a plain block: whether it is the last one. -/
def plainMark (last : Bool) : UInt8 := if last then 1 else 0

/-- A plain block is read as a whole, and it is the last one if it says so. -/
theorem blocks?_plainBlock {data : List UInt8} (hdata : data.length ≤ Block.plainLimit)
    (last : Bool) (steps : Nat) (out rest : List UInt8) :
    blocks? (steps + 1) ⟨out.toArray⟩ (ofBytes (plainMark last :: (bytes16 data.length
        ++ bytes16 (Block.plainLimit - data.length) ++ data ++ rest)))
      = if last then some ⟨(out ++ data).toArray⟩
        else blocks? steps ⟨(out ++ data).toArray⟩ (ofBytes rest) := by
  have hmark : lowFirst 8 (plainMark last).toNat
      = lowFirst 1 last.toNat ++ (lowFirst 2 0 ++ List.replicate 5 false) := by
    cases last <;> decide
  have hlast : last.toNat % 2 ^ 1 = last.toNat := by cases last <;> rfl
  have hkind : 0 % 2 ^ 2 = 0 := rfl
  rw [ofBytes_cons, hmark, List.append_assoc, List.append_assoc, blocks?]
  simp only [takeNumber?_lowFirst, hlast, hkind, Option.bind_eq_bind, Option.bind_some]
  rw [plainBlock?_ofBytes hdata _ (by decide)]
  cases last <;> rfl

theorem plainFrom_succ (fuel : Nat) (data : List UInt8) :
    plainFrom (fuel + 1) data = plainMark (data.drop Block.plainLimit).isEmpty
      :: (bytes16 (data.take Block.plainLimit).length
        ++ bytes16 (Block.plainLimit - (data.take Block.plainLimit).length)
        ++ data.take Block.plainLimit
        ++ if (data.drop Block.plainLimit).isEmpty then []
          else plainFrom fuel (data.drop Block.plainLimit)) := rfl

/-- Plain blocks unpack to their data, behind what was unpacked before. -/
theorem blocks?_plainFrom {fuel steps : Nat} {data : List UInt8} (hfuel : data.length < fuel)
    (hsteps : (plainFrom fuel data).length < steps) (out : List UInt8) :
    blocks? steps ⟨out.toArray⟩ (ofBytes (plainFrom fuel data)) = some ⟨(out ++ data).toArray⟩ := by
  induction fuel generalizing steps data out with
  | zero => omega
  | succ fuel ih =>
    cases steps with
    | zero => omega
    | succ steps =>
      have hthese : (data.take Block.plainLimit).length ≤ Block.plainLimit := by
        rw [List.length_take]
        exact Nat.min_le_left _ _
      have hdata : data.take Block.plainLimit ++ data.drop Block.plainLimit = data :=
        List.take_append_drop _ _
      rw [plainFrom_succ, List.length_cons, List.length_append] at hsteps
      rw [plainFrom_succ, blocks?_plainBlock hthese]
      cases hrest : data.drop Block.plainLimit with
      | nil =>
        rw [hrest, List.append_nil] at hdata
        rw [hdata]
        rfl
      | cons b rest =>
        have hlimit : Block.plainLimit = 65535 := rfl
        have hlength := congrArg List.length hrest
        rw [List.length_drop, List.length_cons] at hlength
        have hshorter : (b :: rest).length < fuel := by
          rw [List.length_cons]
          omega
        rw [hrest] at hsteps hdata
        have hnext := ih hshorter
          (Nat.lt_of_le_of_lt (Nat.le_add_left _ _) (Nat.lt_of_succ_lt_succ hsteps))
          (out ++ data.take Block.plainLimit)
        rw [List.append_assoc, hdata] at hnext
        exact hnext

/-- **Data that were packed are unpacked.** -/
theorem unpack?_pack (data : ByteArray) : unpack? (pack data) = some data := by
  rw [pack]
  split
  · assumption
  · rw [unpack?, plain]
    have hsteps : (plainFrom (data.size + 1) data.data.toList).length
        < (ofBytes (plainFrom (data.size + 1) data.data.toList)).length + 1 := by
      rw [length_ofBytes]
      omega
    exact blocks?_plainFrom (Nat.lt_succ_self data.size) hsteps []

end Zip
end ToolPack
