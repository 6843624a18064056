/-!
# Bytes that are no text

Core reads bytes as UTF-8 or refuses them.  When it refuses, the user is told where: this module
finds the first fault.  Where bytes are shown to the user all the same, each fault is replaced.

## What is here

* `Utf8Fault`: where the well-formed part ends, and how many bytes are at fault; none when the
  bytes end inside a sequence that is well formed so far;
* `firstFault`: the first fault of a list of bytes;
* `utf8Pieces`: the characters and the faults that bytes consist of;
* `mended`: the text with a replacement character for each fault.
-/

set_option autoImplicit false

namespace ToolPack
namespace Text

/-- The first fault of bytes that are no UTF-8. -/
structure Utf8Fault where
  /-- The number of bytes in front of the fault. -/
  index : Nat
  /-- The number of bytes at fault, none when bytes are lacking at the end. -/
  length : Option Nat
  deriving DecidableEq, Repr

/-- The wording of a fault. -/
def Utf8Fault.message (fault : Utf8Fault) : String :=
  match fault.length with
  | some n => "invalid utf-8 sequence of " ++ toString n ++ " bytes from index "
      ++ toString fault.index
  | none => "incomplete utf-8 byte sequence from index " ++ toString fault.index

/-- How a sequence starts: the number of bytes that follow the first one, and the range of the
second byte. -/
structure Utf8Lead where
  following : Nat
  low : Nat
  high : Nat

/-- The sequence that a byte starts, none when no sequence starts with it. -/
def utf8Lead? (b : Nat) : Option Utf8Lead :=
  if b ≤ 0x7F then some ⟨0, 0x80, 0xBF⟩
  else if 0xC2 ≤ b ∧ b ≤ 0xDF then some ⟨1, 0x80, 0xBF⟩
  else if b = 0xE0 then some ⟨2, 0xA0, 0xBF⟩
  else if b = 0xED then some ⟨2, 0x80, 0x9F⟩
  else if 0xE1 ≤ b ∧ b ≤ 0xEF then some ⟨2, 0x80, 0xBF⟩
  else if b = 0xF0 then some ⟨3, 0x90, 0xBF⟩
  else if 0xF1 ≤ b ∧ b ≤ 0xF3 then some ⟨3, 0x80, 0xBF⟩
  else if b = 0xF4 then some ⟨3, 0x80, 0x8F⟩
  else none

/-- Inside a sequence: `owed` more bytes, the next one between `low` and `high`.  `start` is the
index of the sequence, `seen` the number of its bytes so far. -/
structure Utf8State where
  start : Nat
  seen : Nat
  owed : Nat
  low : Nat
  high : Nat

/-- The first fault, when the bytes of a state have been passed. -/
def faultFrom (s : Utf8State) : List UInt8 → Option Utf8Fault
  | [] => if s.owed = 0 then none else some ⟨s.start, none⟩
  | b :: bs =>
    if s.owed = 0 then
      match utf8Lead? b.toNat with
      | none => some ⟨s.start + s.seen, some 1⟩
      | some lead => faultFrom ⟨s.start + s.seen, 1, lead.following, lead.low, lead.high⟩ bs
    else if s.low ≤ b.toNat ∧ b.toNat ≤ s.high then
      faultFrom ⟨s.start, s.seen + 1, s.owed - 1, 0x80, 0xBF⟩ bs
    else some ⟨s.start, some s.seen⟩

/-- The first fault of a list of bytes, none when they are UTF-8. -/
def firstFault (bytes : List UInt8) : Option Utf8Fault := faultFrom ⟨0, 0, 0, 0, 0⟩ bytes

/-! ## Reading past faults -/

/-- What stands in bytes that are read as UTF-8. -/
inductive Utf8Piece where
  | char (c : Char)
  /-- The start of a sequence that is none as a whole, or a byte that starts none. -/
  | fault (bytes : List UInt8)
  deriving DecidableEq, Repr

/-- The bytes in front that fit into a sequence: at most `owed`, the first one between `low` and
`high`. -/
def fitting (owed low high : Nat) : List UInt8 → List UInt8
  | [] => []
  | b :: bs =>
    if owed = 0 then []
    else if low ≤ b.toNat ∧ b.toNat ≤ high then b :: fitting (owed - 1) 0x80 0xBF bs
    else []

/-- The bytes that go on with the sequence that a byte starts. -/
def following (b : UInt8) (bytes : List UInt8) : List UInt8 :=
  match utf8Lead? b.toNat with
  | none => []
  | some lead => fitting lead.following lead.low lead.high bytes

/-- The character that a sequence is, if it is one. -/
def utf8Piece (bytes : List UInt8) : Utf8Piece :=
  match bytes.toByteArray.utf8DecodeChar? 0 with
  | some c => .char c
  | none => .fault bytes

/-- The characters and the faults that bytes consist of. -/
def utf8Pieces : List UInt8 → List Utf8Piece
  | [] => []
  | b :: bs =>
    let more := following b bs
    utf8Piece (b :: more) :: utf8Pieces (bs.drop more.length)
termination_by bytes => bytes.length
decreasing_by simp only [List.length_drop, List.length_cons]; omega

/-- The text with a replacement character for each fault. -/
def mended (bytes : List UInt8) : String :=
  String.ofList ((utf8Pieces bytes).map fun
    | .char c => c
    | .fault _ => '\uFFFD')

end Text
end ToolPack
