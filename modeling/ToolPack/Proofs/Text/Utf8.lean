import Mathlib.Data.List.Basic
import Mathlib.Tactic.SplitIfs
import ToolPack.Text.Utf8

/-!
# Texts and their bytes

A character is written as one to four bytes, and the first of these tells which ones go on with it.
So the pieces that are read from the bytes of a text are its characters, and nothing is replaced.

The bytes below 128 are characters of their own, and no other character has one of them in it.
That is why a path can be cut at its slashes before it is known whether it is a text.

## What is here

* `utf8Bytes`: the bytes of a row of characters;
* `eq_singleton_of_mem`: bytes below 128;
* `following_utf8EncodeChar`, `utf8Pieces_append`: a character is read back from its bytes, whatever
  stands behind them;
* `mended_utf8Bytes`: a text is shown as it is.
-/

set_option autoImplicit false

namespace ToolPack
namespace Text

/-- The bytes of a row of characters. -/
def utf8Bytes (cs : List Char) : List UInt8 := cs.flatMap String.utf8EncodeChar

theorem utf8Bytes_toList (s : String) : utf8Bytes s.toList = s.toUTF8.data.toList := by
  have h : (utf8Bytes s.toList).toByteArray = s.toUTF8 := by
    rw [String.toUTF8_eq_toByteArray, ← String.utf8Encode_toList]
    rfl
  rw [← h, List.data_toByteArray]

theorem utf8Bytes_append (cs ds : List Char) :
    utf8Bytes (cs ++ ds) = utf8Bytes cs ++ utf8Bytes ds := List.flatMap_append

theorem utf8Bytes_cons (c : Char) (cs : List Char) :
    utf8Bytes (c :: cs) = String.utf8EncodeChar c ++ utf8Bytes cs := List.flatMap_cons

theorem toNat_ofNat {n : Nat} (h : n < 256) : (UInt8.ofNat n).toNat = n := by
  rw [UInt8.toNat_ofNat', Nat.mod_eq_of_lt h]

/-- Characters are numbered without the surrogates. -/
theorem toNat_cases (c : Char) :
    c.toNat < 0xD800 ∨ 0xDFFF < c.toNat ∧ c.toNat < 0x110000 := c.valid

/-! ## Bytes below 128 -/

theorem le_of_mem_utf8EncodeChar {c : Char} {b : UInt8} (hc : 128 ≤ c.toNat)
    (h : b ∈ String.utf8EncodeChar c) : 128 ≤ b.toNat := by
  have hv : ¬ c.val.toNat ≤ 127 := Nat.not_le_of_lt hc
  have hall : ∀ b ∈ String.utf8EncodeChar c, 128 ≤ b.toNat := by
    rw [String.utf8EncodeChar, if_neg hv]
    generalize c.val.toNat = v
    split_ifs <;>
      simp only [List.forall_mem_cons, List.not_mem_nil, UInt8.toNat_ofNat', false_imp_iff,
        implies_true, and_true] <;>
      omega
  exact hall b h

/-- A byte below 128 is a character of its own. -/
theorem eq_singleton_of_mem {c : Char} {b : UInt8} (h : b ∈ String.utf8EncodeChar c)
    (hb : b.toNat < 128) : String.utf8EncodeChar c = [b] ∧ c.toNat = b.toNat := by
  by_cases hc : c.toNat ≤ 127
  · have hbytes : String.utf8EncodeChar c = [UInt8.ofNat c.toNat] := if_pos hc
    rw [hbytes, List.mem_singleton] at h
    subst h
    exact ⟨hbytes, (toNat_ofNat (by omega)).symm⟩
  · exact absurd (le_of_mem_utf8EncodeChar (by omega) h) (by omega)

/-! ## Reading a character

The first byte tells how many bytes follow, and between which bounds the second one lies: that keeps
out characters that could be written shorter, surrogates, and numbers that are too large. -/

theorem fitting_zero (low high : Nat) (bytes : List UInt8) : fitting 0 low high bytes = [] := by
  cases bytes <;> rfl

theorem fitting_cons {owed low high n : Nat} (bytes : List UInt8) (hn : n < 256) (hlow : low ≤ n)
    (hhigh : n ≤ high) :
    fitting (owed + 1) low high (UInt8.ofNat n :: bytes)
      = UInt8.ofNat n :: fitting owed 0x80 0xBF bytes := by
  rw [fitting, if_neg (Nat.succ_ne_zero owed), toNat_ofNat hn, if_pos ⟨hlow, hhigh⟩,
    Nat.add_sub_cancel]

/-- The lead of a sequence of three bytes lets its second byte pass. -/
theorem exists_lead_three {v : Nat} (hv : 0x800 ≤ v) (h : v < 0xD800 ∨ 0xDFFF < v ∧ v < 0x10000) :
    ∃ low high, utf8Lead? (v / 4096 % 16 + 224) = some ⟨2, low, high⟩
      ∧ low ≤ v / 64 % 64 + 128 ∧ v / 64 % 64 + 128 ≤ high := by
  unfold utf8Lead?
  split_ifs <;> first | omega | exact ⟨_, _, rfl, by omega, by omega⟩

/-- So does the lead of a sequence of four. -/
theorem exists_lead_four {v : Nat} (hv : 0x10000 ≤ v) (h : v < 0x110000) :
    ∃ low high, utf8Lead? (v / 262144 % 8 + 240) = some ⟨3, low, high⟩
      ∧ low ≤ v / 4096 % 64 + 128 ∧ v / 4096 % 64 + 128 ≤ high := by
  unfold utf8Lead?
  split_ifs <;> first | omega | exact ⟨_, _, rfl, by omega, by omega⟩

/-- What goes on with the first byte of a character is the rest of that character. -/
theorem following_utf8EncodeChar {c : Char} {b : UInt8} {more : List UInt8}
    (h : String.utf8EncodeChar c = b :: more) (rest : List UInt8) :
    following b (more ++ rest) = more := by
  have hc : c.val.toNat < 0xD800 ∨ 0xDFFF < c.val.toNat ∧ c.val.toNat < 0x110000 := toNat_cases c
  rw [String.utf8EncodeChar] at h
  generalize c.val.toNat = v at h hc
  split_ifs at h with h₁ h₂ h₃
  · obtain ⟨rfl, rfl⟩ := List.cons.inj h
    rw [following, utf8Lead?, toNat_ofNat (by omega), if_pos (by omega)]
    exact fitting_zero _ _ rest
  · obtain ⟨rfl, rfl⟩ := List.cons.inj h
    rw [following, utf8Lead?, toNat_ofNat (by omega), if_neg (by omega), if_pos (by omega)]
    dsimp only
    rw [List.cons_append, fitting_cons _ (by omega) (by omega) (by omega), fitting_zero]
  · obtain ⟨rfl, rfl⟩ := List.cons.inj h
    obtain ⟨low, high, hlead, hlow, hhigh⟩ := exists_lead_three (v := v) (by omega) (by omega)
    rw [following, toNat_ofNat (by omega), hlead]
    dsimp only
    rw [List.cons_append, fitting_cons _ (by omega) hlow hhigh, List.cons_append,
      fitting_cons _ (by omega) (by omega) (by omega), fitting_zero]
  · obtain ⟨rfl, rfl⟩ := List.cons.inj h
    obtain ⟨low, high, hlead, hlow, hhigh⟩ := exists_lead_four (v := v) (by omega) (by omega)
    rw [following, toNat_ofNat (by omega), hlead]
    dsimp only
    rw [List.cons_append, fitting_cons _ (by omega) hlow hhigh, List.cons_append,
      fitting_cons _ (by omega) (by omega) (by omega), List.cons_append,
      fitting_cons _ (by omega) (by omega) (by omega), fitting_zero]

theorem utf8Piece_utf8EncodeChar (c : Char) : utf8Piece (String.utf8EncodeChar c) = .char c := by
  have h := List.utf8DecodeChar?_utf8Encode_singleton (c := c)
  rw [List.utf8Encode_singleton] at h
  rw [utf8Piece, h]

/-- A character is read back from its bytes, whatever stands behind them. -/
theorem utf8Pieces_append (c : Char) (rest : List UInt8) :
    utf8Pieces (String.utf8EncodeChar c ++ rest) = .char c :: utf8Pieces rest := by
  have hpiece := utf8Piece_utf8EncodeChar c
  cases h : String.utf8EncodeChar c with
  | nil => exact absurd h String.utf8EncodeChar_ne_nil
  | cons b more =>
    rw [h] at hpiece
    rw [List.cons_append, utf8Pieces, following_utf8EncodeChar h, hpiece, List.drop_left]

theorem utf8Pieces_utf8Bytes (cs : List Char) : utf8Pieces (utf8Bytes cs) = cs.map .char := by
  induction cs with
  | nil => rw [utf8Bytes, List.flatMap_nil, utf8Pieces, List.map_nil]
  | cons c cs ih => rw [utf8Bytes_cons, utf8Pieces_append, ih, List.map_cons]

/-- A text is shown as it is. -/
theorem mended_utf8Bytes (cs : List Char) : mended (utf8Bytes cs) = String.ofList cs := by
  rw [mended, utf8Pieces_utf8Bytes, List.map_map]
  exact congrArg String.ofList (List.map_id cs)

end Text
end ToolPack
