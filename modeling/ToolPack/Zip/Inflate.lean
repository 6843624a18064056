import ToolPack.Zip.Alphabet

/-!
# Unpacking data

Packed data are blocks: data as they are, tokens under the fixed codes, or tokens under codes that
the block brings along.

## What is here

* `unpack?`: the data of packed bytes, none when the bytes are not well formed.
-/

set_option autoImplicit false

namespace ToolPack
namespace Zip

/-- Two codes, ready for decoding. -/
structure Codes where
  literals : List PrefixCode.Layer
  distances : List PrefixCode.Layer

/-- The codes where none are given. -/
def fixedCodes : Codes := ⟨fixedLiterals.layers, fixedDistances.layers⟩

/-- Appends bytes that stand `distance` earlier, `length` of them. -/
def copyBytes (distance : Nat) : Nat → ByteArray → ByteArray
  | 0, out => out
  | length + 1, out => copyBytes distance length (out.push (out.data.getD (out.size - distance) 0))

/-- Appends the data of a token, if there is something to copy. -/
def Token.append? (out : ByteArray) : Token → Option ByteArray
  | literal b => some (out.push b)
  | copy length distance =>
    if distance = 0 ∨ out.size < distance then none else some (copyBytes distance length out)

/-- A number of a range: its symbol has been read, its further bits follow. -/
def rangeNumber? (ranges : Array NumberRange) (index : Nat) (bits : Bits) :
    Option (Nat × Bits) := do
  let range ← ranges[index]?
  let (extra, bits) ← Bits.takeNumber? range.width bits
  some (range.first + extra, bits)

/-- Appends the data of tokens up to the end of their block; every token takes a bit. -/
def tokens? (codes : Codes) : Nat → ByteArray → Bits → Option (ByteArray × Bits)
  | 0, _, _ => none
  | fuel + 1, out, bits => do
    let (symbol, bits) ← PrefixCode.decodeFrom? 0 codes.literals bits
    if symbol = endOfBlock then some (out, bits)
    else if symbol < endOfBlock then tokens? codes fuel (out.push (UInt8.ofNat symbol)) bits
    else do
      let (length, bits) ← rangeNumber? lengthRanges (symbol - firstLength) bits
      let (index, bits) ← PrefixCode.decodeFrom? 0 codes.distances bits
      let (distance, bits) ← rangeNumber? distanceRanges index bits
      let out ← (Token.copy length distance).append? out
      tokens? codes fuel out bits

/-- The lengths of the third code, as they are written. -/
def writtenLengths? : Nat → Bits → Option (List Nat × Bits)
  | 0, bits => some ([], bits)
  | n + 1, bits => do
    let (length, bits) ← Bits.takeNumber? 3 bits
    let (lengths, bits) ← writtenLengths? n bits
    some (length :: lengths, bits)

/-- The third code, of lengths in the order in which they are written. -/
def lengthCode (written : List Nat) : PrefixCode :=
  (List.range 19).map fun symbol => ((lengthOrder.zip written).lookup symbol).getD 0

/-- The lengths of codes, the last ones first, until there are `total`. -/
def codeLengths? (layers : List PrefixCode.Layer) (total : Nat) :
    Nat → List Nat → Bits → Option (List Nat × Bits)
  | 0, _, _ => none
  | fuel + 1, lengths, bits =>
    if lengths.length = total then some (lengths.reverse, bits)
    else if total < lengths.length then none
    else do
      let (symbol, bits) ← PrefixCode.decodeFrom? 0 layers bits
      if symbol < 16 then codeLengths? layers total fuel (symbol :: lengths) bits
      else if symbol = 16 then do
        let previous ← lengths.head?
        let (n, bits) ← Bits.takeNumber? 2 bits
        codeLengths? layers total fuel (List.replicate (n + 3) previous ++ lengths) bits
      else if symbol = 17 then do
        let (n, bits) ← Bits.takeNumber? 3 bits
        codeLengths? layers total fuel (List.replicate (n + 3) 0 ++ lengths) bits
      else do
        let (n, bits) ← Bits.takeNumber? 7 bits
        codeLengths? layers total fuel (List.replicate (n + 11) 0 ++ lengths) bits

/-- The codes that a block brings along. -/
def ownCodes? (bits : Bits) : Option (Codes × Bits) := do
  let (literals, bits) ← Bits.takeNumber? 5 bits
  let (distances, bits) ← Bits.takeNumber? 5 bits
  let (written, bits) ← Bits.takeNumber? 4 bits
  let (lengths, bits) ← writtenLengths? (written + 4) bits
  let total := literals + 257 + (distances + 1)
  let (all, bits) ← codeLengths? (lengthCode lengths).layers total (total + 1) [] bits
  some (⟨PrefixCode.layers (all.take (literals + 257)),
    PrefixCode.layers (all.drop (literals + 257))⟩, bits)

/-- Appends bytes as they are. -/
def plainBytes? : Nat → ByteArray → Bits → Option (ByteArray × Bits)
  | 0, out, bits => some (out, bits)
  | n + 1, out, bits => do
    let (b, bits) ← Bits.takeNumber? 8 bits
    plainBytes? n (out.push (UInt8.ofNat b)) bits

/-- Appends the data of a block whose kind has been read.  Plain data start with a byte, and as the
bits are those of whole bytes, the number of those that remain tells where. -/
def block? (kind : Nat) (out : ByteArray) (bits : Bits) : Option (ByteArray × Bits) :=
  match kind with
  | 0 => do
    let bits := bits.drop (bits.length % 8)
    let (length, bits) ← Bits.takeNumber? 16 bits
    let (complement, bits) ← Bits.takeNumber? 16 bits
    if length + complement = 65535 then plainBytes? length out bits else none
  | 1 => tokens? fixedCodes (bits.length + 1) out bits
  | 2 => do
    let (codes, bits) ← ownCodes? bits
    tokens? codes (bits.length + 1) out bits
  | _ => none

/-- Appends the data of all blocks; every block takes a bit. -/
def blocks? : Nat → ByteArray → Bits → Option ByteArray
  | 0, _, _ => none
  | fuel + 1, out, bits => do
    let (last, bits) ← Bits.takeNumber? 1 bits
    let (kind, bits) ← Bits.takeNumber? 2 bits
    let (out, bits) ← block? kind out bits
    if last = 1 then some out else blocks? fuel out bits

/-- The data of packed bytes. -/
def unpack? (packed : List UInt8) : Option ByteArray :=
  let bits := Bits.ofBytes packed
  blocks? (bits.length + 1) ByteArray.empty bits

end Zip
end ToolPack
