import ToolPack.Proofs.Json.Grammar
import ToolPack.Proofs.Package.RecordLines

/-!
# What a line of a record says

The name of an entry may have commas in it, and may look like the rest of a line.  But digest and
number have none, so the last two commas are those that were put between the parts, and all three
parts come back: the name as it is, the digest from its digits, the length from its own.  Nothing of
an entry but its name, its digest and its length shows in its line, and each of them does.

## What is here

* `Text.hexBytes?`, `Text.Hexadecimal`, `Text.Decimal`: texts that stand for bytes and for numbers;
* `Record.parts?`, `Record.parts?_line`: a line is cut at its last two commas;
* `Record.line_is_taken_apart`: what the parts stand for, and when two lines are equal.
-/

set_option autoImplicit false

namespace ToolPack
namespace Text

/-! ## Bytes -/

/-- The bytes of digits in base sixteen, two digits for each; none if there is something else. -/
def hexBytes? : List Char → Option (List UInt8)
  | [] => some []
  | high :: low :: rest => do
    return UInt8.ofNat ((← Json.hexValue? high) * 16 + (← Json.hexValue? low)) :: (← hexBytes? rest)
  | [_] => none

/-- A text stands for bytes, and its digits are lower case. -/
structure Hexadecimal (text : String) (bytes : List UInt8) : Prop where
  lower : ∀ c ∈ text.toList, c ∈ "0123456789abcdef".toList
  decoded : hexBytes? text.toList = some bytes

theorem hexBytes?_hexText (bytes : List UInt8) : hexBytes? (hexText bytes) = some bytes := by
  induction bytes with
  | nil => rfl
  | cons b bytes ih =>
    have hb : b.toNat < 256 := b.toNat_lt
    have hbyte : UInt8.ofNat (b.toNat / 16 * 16 + b.toNat % 16) = b := by
      rw [Nat.div_add_mod', UInt8.ofNat_toNat]
    rw [hexText, List.flatMap_cons, ← hexText, hexByte, List.cons_append, List.cons_append,
      List.nil_append, hexBytes?, Json.hexValue?_hexDigit _ (by omega),
      Json.hexValue?_hexDigit _ (by omega), ih]
    exact congrArg (fun b => some (b :: bytes)) hbyte

/-- Bytes are written in lower case. -/
theorem hexadecimal_hexText (bytes : List UInt8) :
    Hexadecimal (String.ofList (hexText bytes)) bytes where
  lower c hc := by
    have hdigit : ∀ n < 16, hexDigit n ∈ "0123456789abcdef".toList := by decide
    rw [String.toList_ofList] at hc
    obtain ⟨n, hn, rfl⟩ := exists_hexDigit_of_mem_hexText hc
    exact hdigit n hn
  decoded := by rw [String.toList_ofList, hexBytes?_hexText]

/-! ## Numbers -/

/-- A text stands for a number, and has no idle zero in front. -/
structure Decimal (text : String) (n : Nat) : Prop where
  some_digit : text ≠ ""
  digits : ∀ c ∈ text.toList, c.isDigit = true
  value : Nat.ofDigitChars 10 text.toList 0 = n
  no_idle_zero : text.toList.head? = some '0' → text = "0"

/-- The first digit of a number other than zero is another one than zero. -/
theorem head?_toDigits {n : Nat} (h : n ≠ 0) : (Nat.toDigits 10 n).head? ≠ some '0' := by
  induction n using Nat.strongRecOn with
  | ind n ih =>
    rw [Nat.toDigits_eq_if (by decide)]
    split
    · have hdigit : ∀ d < 10, d ≠ 0 → [d.digitChar].head? ≠ some '0' := by decide
      exact hdigit n ‹_› h
    · rw [List.head?_append_of_ne_nil _ Nat.toDigits_ne_nil]
      exact ih (n / 10) (by omega) (by omega)

/-- A number is written without idle zeros. -/
theorem decimal_toString (n : Nat) : Decimal (toString n) n := by
  rw [Nat.toString_eq_repr]
  refine ⟨fun h => ?_, fun c hc => ?_, ?_, fun h => ?_⟩
  · exact Nat.toDigits_ne_nil (Nat.toList_repr.symm.trans (congrArg String.toList h))
  · exact Nat.isDigit_of_mem_toDigits (by decide) (by decide) (Nat.toList_repr ▸ hc)
  · rw [Nat.toList_repr, Nat.ofDigitChars_ten_toDigits]
  · rw [Nat.toList_repr] at h
    obtain rfl : n = 0 := by
      by_contra hn
      exact head?_toDigits hn h
    rfl

/-! ## Cuts -/

/-- What stands behind the last separator of a text; the text itself if there is none in it. -/
def afterLast (sep : Char) (text : String) : String := (pieces sep text).getLastD ""

/-- A text with one more separator ends in what is put behind it, if there is none in that. -/
theorem afterLast_append {sep : Char} {mark back : String} (hmark : mark.toList = [sep])
    (hback : sep ∉ back.toList) (front : String) :
    afterLast sep (front ++ mark ++ back) = back := by
  rw [afterLast, pieces_append hmark, pieces_of_not_mem hback, List.getLastD_concat]

end Text

namespace Record

/-! ## Lines -/

/-- The parts of a line: what stands in front of its last two commas, between them and behind. -/
def parts? (line : String) : Option (String × String × String) := do
  let front ← Text.beforeLast? ',' line
  let name ← Text.beforeLast? ',' front
  return (name, Text.afterLast ',' front, Text.afterLast ',' line)

/-- The parts of a line are the name, the digest and the number that it was made of. -/
theorem parts?_line (path : String) (data : ByteArray) :
    parts? (line path data) = some (path, tag data, toString data.size) := by
  have hnumber : ',' ∉ (toString data.size).toList := fun h =>
    not_mem_marks_of_mem_toString h (by decide)
  have htag : ',' ∉ (tag data).toList := not_mem_tag (by decide) data
  rw [parts?, line_eq, Text.beforeLast?_append rfl hnumber, Text.afterLast_append rfl hnumber]
  simp only [Option.bind_eq_bind, Option.bind_some]
  rw [Text.beforeLast?_append rfl htag, Text.afterLast_append rfl htag]
  rfl

/-- Digests are told apart by what stands for them in a line. -/
theorem tag_eq_tag_iff {data data' : ByteArray} :
    tag data = tag data' ↔ Sha256.digest data = Sha256.digest data' := by
  constructor
  · intro h
    have hdigits := congrArg (fun text => Text.hexBytes? text.toList)
      ((String.append_right_inj _).mp h)
    simpa [Text.hexBytes?_hexText] using hdigits
  · intro h
    rw [tag, tag, h]

/-- **A line of a record is taken apart again.**  Cut at its last two commas it falls into the name
of the entry, whatever that is; `sha256=` and sixty-four lower-case digits that stand for the digest
of the data; and the length of the data in decimal, without idle zeros.  So two lines are equal
exactly if name, digest and length are. -/
theorem line_is_taken_apart (path : String) (data : ByteArray) :
    (∃ digits number, parts? (line path data) = some (path, "sha256=" ++ digits, number)
        ∧ digits.length = 64 ∧ Text.Hexadecimal digits (Sha256.digest data)
        ∧ Text.Decimal number data.size)
      ∧ ∀ path' data', line path data = line path' data'
        ↔ path = path' ∧ Sha256.digest data = Sha256.digest data' ∧ data.size = data'.size := by
  refine ⟨⟨_, _, parts?_line path data, ?_, Text.hexadecimal_hexText _, Text.decimal_toString _⟩,
    fun path' data' => ⟨fun h => ?_, ?_⟩⟩
  · rw [String.length_ofList, Text.length_hexText, Sha256.length_digest]
  · have hparts := congrArg parts? h
    rw [parts?_line, parts?_line] at hparts
    obtain ⟨hpath, htag, hnumber⟩ : path = path' ∧ tag data = tag data'
        ∧ toString data.size = toString data'.size := by simpa using hparts
    have hsize := (Text.decimal_toString data.size).value
    rw [hnumber, (Text.decimal_toString data'.size).value] at hsize
    exact ⟨hpath, tag_eq_tag_iff.mp htag, hsize.symm⟩
  · rintro ⟨rfl, hdigest, hsize⟩
    rw [line_eq, line_eq, tag_eq_tag_iff.mpr hdigest, hsize]

/-- The line of an empty entry whose name looks like the rest of a line. -/
example : parts? (line "a,sha256=0,1" ⟨#[]⟩) = some ("a,sha256=0,1",
    "sha256=e3b0c44298fc1c149afbf4c8996fb92427ae41e4649b934ca495991b7852b855", "0") := by
  decide +kernel

end Record
end ToolPack
