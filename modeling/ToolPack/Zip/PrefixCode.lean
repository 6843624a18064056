import ToolPack.Zip.Bits

/-!
# Prefix codes given by their lengths

A code gives every symbol a row of bits such that none starts another.  It is fixed by the lengths
of the rows alone: shorter rows come first, and rows of one length go in the order of their
symbols.  A length of zero means that the symbol does not occur.

## What is here

* `firstWord`: the first row of a length, as a number;
* `PrefixCode.words`: the rows of all symbols;
* `PrefixCode.Layer`, `PrefixCode.layers`: a code laid out by length, for decoding;
* `PrefixCode.decodeFrom?`: the symbol that a row of bits starts with.
-/

set_option autoImplicit false

namespace ToolPack
namespace Zip

/-- The lengths of the rows of bits, by symbol. -/
abbrev PrefixCode := List Nat

namespace PrefixCode

/-- The greatest length of a row. -/
def maxLength : Nat := 15

/-- How many rows have a length. -/
def count (code : PrefixCode) (length : Nat) : Nat :=
  if length = 0 then 0 else List.count length code

/-- The first row of a length, as a number: it follows the rows that are one shorter. -/
def firstWord (code : PrefixCode) : Nat → Nat
  | 0 => 0
  | length + 1 => 2 * (code.firstWord length + code.count length)

/-- The rows of the symbols; `next` has the next row of every length. -/
def wordsFrom (next : Array Nat) : PrefixCode → List Bits
  | [] => []
  | length :: rest =>
    Bits.highFirst length (next.getD length 0)
      :: wordsFrom (next.setIfInBounds length (next.getD length 0 + 1)) rest

/-- The rows of all symbols, by symbol; a symbol that does not occur has an empty one. -/
def words (code : PrefixCode) : Array Bits :=
  (wordsFrom ((List.range (maxLength + 1)).map code.firstWord).toArray code).toArray

/-- What decoding asks of one length: its first row, and the symbols of that length in order. -/
structure Layer where
  first : Nat
  symbols : Array Nat

/-- The symbols of a length, in order. -/
def symbolsOf (code : PrefixCode) (length : Nat) : List Nat :=
  (code.zipIdx.filter fun entry => entry.1 == length).map (·.2)

/-- The layers of a code, from length one on. -/
def layers (code : PrefixCode) : List Layer :=
  (List.range maxLength).map fun n =>
    ⟨code.firstWord (n + 1), (code.symbolsOf (n + 1)).toArray⟩

/-- The symbol that a row of bits starts with, and the rest; `word` holds the bits so far. -/
def decodeFrom? (word : Nat) : List Layer → Bits → Option (Nat × Bits)
  | [], _ => none
  | _, [] => none
  | layer :: layers, b :: bits =>
    let word := 2 * word + b.toNat
    match if layer.first ≤ word then layer.symbols[word - layer.first]? else none with
    | some symbol => some (symbol, bits)
    | none => decodeFrom? word layers bits

end PrefixCode
end Zip
end ToolPack
