/-!
# Bytes in base sixteen

Each byte is written as two digits, lower case.
-/

set_option autoImplicit false

namespace ToolPack
namespace Text

/-- The sixteen digits. -/
def hexDigit (n : Nat) : Char :=
  if n < 10 then Char.ofNat ('0'.toNat + n) else Char.ofNat ('a'.toNat + (n - 10))

/-- The two digits of a byte. -/
def hexByte (b : UInt8) : List Char := [hexDigit (b.toNat / 16), hexDigit (b.toNat % 16)]

/-- The digits of a row of bytes. -/
def hexText (bytes : List UInt8) : List Char := bytes.flatMap hexByte

theorem length_hexText (bytes : List UInt8) : (hexText bytes).length = 2 * bytes.length := by
  induction bytes with
  | nil => rfl
  | cons b bytes ih =>
    rw [hexText, List.flatMap_cons, List.length_append, ← hexText, ih]
    simp only [hexByte, List.length_cons, List.length_nil]
    omega

/-- What bytes are written with is a digit. -/
theorem exists_hexDigit_of_mem_hexText {bytes : List UInt8} {c : Char} (h : c ∈ hexText bytes) :
    ∃ n < 16, c = hexDigit n := by
  obtain ⟨b, -, hc⟩ := List.mem_flatMap.mp h
  have hb : b.toNat < 256 := b.toNat_lt
  rw [hexByte, List.mem_cons, List.mem_singleton] at hc
  rcases hc with rfl | rfl
  · exact ⟨b.toNat / 16, by omega, rfl⟩
  · exact ⟨b.toNat % 16, by omega, rfl⟩

end Text
end ToolPack
