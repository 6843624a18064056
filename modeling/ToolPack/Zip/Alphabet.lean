import ToolPack.Zip.PrefixCode

/-!
# The alphabets of packed data

Packed data are literal bytes and copies of earlier bytes.  Literals, the end of a block and the
lengths of copies share one alphabet, the distances of copies have another, and the lengths of the
codes themselves a third.  A symbol for a range of numbers is followed by further bits.

## What is here

* `Token`: literals and copies;
* `lengthRanges`, `distanceRanges`: the ranges of numbers, each with its first number and the
  width of what follows the symbol;
* `Item`: a symbol with what follows it;
* `fixedLiterals`, `fixedDistances`: the codes that hold where none are given.
-/

set_option autoImplicit false

namespace ToolPack
namespace Zip

/-- A part of packed data. -/
inductive Token where
  | literal (b : UInt8)
  /-- The bytes that stand `distance` earlier, `length` of them. -/
  | copy (length distance : Nat)
  deriving DecidableEq, Repr

/-- The numbers from `first` on that one symbol stands for, told apart by `width` bits. -/
structure NumberRange where
  first : Nat
  width : Nat

/-- Ranges of the given widths, one behind the other. -/
def rangesFrom (first : Nat) : List Nat → List NumberRange
  | [] => []
  | width :: widths => ⟨first, width⟩ :: rangesFrom (first + 2 ^ width) widths

/-- The ranges of the lengths of copies; the greatest length has a symbol of its own. -/
def lengthRanges : Array NumberRange :=
  (rangesFrom 3 [0, 0, 0, 0, 0, 0, 0, 0, 1, 1, 1, 1, 2, 2, 2, 2, 3, 3, 3, 3, 4, 4, 4, 4, 5, 5, 5, 5]
    ++ rangesFrom 258 [0]).toArray

/-- The ranges of the distances of copies. -/
def distanceRanges : Array NumberRange :=
  (rangesFrom 1 [0, 0, 0, 0, 1, 1, 2, 2, 3, 3, 4, 4, 5, 5, 6, 6, 7, 7, 8, 8, 9, 9, 10, 10, 11, 11,
    12, 12, 13, 13]).toArray

/-- The symbol of the end of a block. -/
def endOfBlock : Nat := 256

/-- The symbol of the first range of lengths. -/
def firstLength : Nat := 257

/-- How many symbols there are for literals and lengths. -/
def literalCount : Nat := 286

/-- How many symbols there are for distances. -/
def distanceCount : Nat := 30

/-- A symbol and what follows it. -/
structure Item where
  symbol : Nat
  extra : Nat
  width : Nat
  deriving Repr

/-- The item of a number: the last range that starts at or below it. -/
def rangeItem (ranges : Array NumberRange) (n : Nat) : Item :=
  let index := (ranges.toList.takeWhile fun r => r.first ≤ n).length - 1
  let range := ranges.getD index ⟨n, 0⟩
  ⟨index, n - range.first, range.width⟩

/-- The item of a length. -/
def lengthItem (length : Nat) : Item :=
  let item := rangeItem lengthRanges length
  { item with symbol := firstLength + item.symbol }

/-- The item of a distance. -/
def distanceItem (distance : Nat) : Item := rangeItem distanceRanges distance

/-- The code of literals and lengths where none is given. -/
def fixedLiterals : PrefixCode :=
  List.replicate 144 8 ++ List.replicate 112 9 ++ List.replicate 24 7 ++ List.replicate 8 8

/-- The code of distances where none is given. -/
def fixedDistances : PrefixCode := List.replicate 30 5

/-- The order in which the lengths of the third code are written, the likely ones first. -/
def lengthOrder : List Nat :=
  [16, 17, 18, 0, 8, 7, 9, 6, 10, 5, 11, 4, 12, 3, 13, 2, 14, 1, 15]

end Zip
end ToolPack
