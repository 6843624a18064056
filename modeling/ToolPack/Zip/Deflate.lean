import ToolPack.Native
import ToolPack.Zip.CodeLengths
import ToolPack.Zip.Inflate
import ToolPack.Zip.Search

/-!
# Packing data

Tokens are written in blocks, each under the codes that make it shortest: codes of its own, the
fixed codes, or none.  What comes out is unpacked again before it is used, so packed data always
unpack to what was packed, however the search and the codes are chosen.

## What is here

* `Block`: what is written, with the costs of its spellings in bits;
* `deflate`: blocks of the tokens of data;
* `plain`: data as they are, in blocks;
* `pack`: packed data.
-/

set_option autoImplicit false

namespace ToolPack
namespace Zip

open scoped Native

/-! ## Items -/

/-- The bits of an item under the rows of a code. -/
def Item.bits (words : Array Bits) (item : Item) : Bits :=
  words.getD item.symbol [] ++ Bits.lowFirst item.width item.extra

/-- The cost of symbols: the length of each row and of what follows it, as often as it occurs. -/
def cost (code : PrefixCode) (widths counts : List Nat) : Nat :=
  ((counts.zip (code ++ List.replicate counts.length 0)).zip
    (widths ++ List.replicate counts.length 0)).foldl
    (fun sum e => sum + e.1.1 * (e.1.2 + e.2)) 0

/-- The widths of what follows literals and lengths. -/
def literalWidths : List Nat :=
  List.replicate firstLength 0 ++ lengthRanges.toList.map (·.width)

/-- The widths of what follows distances. -/
def distanceWidths : List Nat := distanceRanges.toList.map (·.width)

/-! ## The lengths of codes -/

/-- Equal lengths that follow each other, as items of the third code.  `fresh` says that another
length is in front of them. -/
def runItems (length : Nat) : Nat → Bool → Nat → List Item
  | 0, _, _ => []
  | fuel + 1, fresh, run =>
    let plain := fun n => List.replicate n (⟨length, 0, 0⟩ : Item)
    if run = 0 then []
    else if length = 0 then
      let n := min run 138
      (if n < 3 then plain n else if n ≤ 10 then [⟨17, n - 3, 3⟩] else [⟨18, n - 11, 7⟩])
        ++ runItems length fuel false (run - n)
    else if fresh then
      let n := min run 7
      (if n < 4 then plain n else [⟨length, 0, 0⟩, ⟨16, n - 4, 2⟩])
        ++ runItems length fuel false (run - n)
    else
      let n := min run 6
      (if n < 3 then plain n else [⟨16, n - 3, 2⟩]) ++ runItems length fuel false (run - n)

/-- Equal neighbours, with their numbers. -/
def runs : List Nat → List (Nat × Nat)
  | [] => []
  | n :: ns =>
    match runs ns with
    | (m, count) :: rest => if n = m then (m, count + 1) :: rest else (n, 1) :: (m, count) :: rest
    | [] => [(n, 1)]

/-- The lengths of a code as items of the third code. -/
def lengthItems (code : PrefixCode) : List Item :=
  (runs code).flatMap fun r => runItems r.1 r.2 true r.2

/-- The lengths of the third code in the order in which they are written, at least four of them. -/
def written (third : PrefixCode) : List Nat :=
  let all := lengthOrder.map fun symbol => third.getD symbol 0
  let needed := (all.reverse.dropWhile (· == 0)).length
  all.take (max 4 needed)

/-- What a block says about its own codes, behind the three numbers it starts with. -/
structure CodeHeader where
  lengths : List Nat
  third : PrefixCode
  items : List Item

/-- The header for two codes. -/
def CodeHeader.of (literals distances : PrefixCode) : CodeHeader :=
  let items := lengthItems literals ++ lengthItems distances
  let counts := items.foldl (fun counts item => counts.modify item.symbol (· + 1))
    (Array.replicate 19 0)
  let third := PrefixCode.ofCounts 7 counts.toList
  ⟨written third, third, items⟩

/-- The bits of a header, without the three numbers. -/
def CodeHeader.bits (h : CodeHeader) : Bits :=
  h.lengths.flatMap (Bits.lowFirst 3) ++ h.items.flatMap (Item.bits h.third.words)

/-! ## Blocks -/

/-- Tokens that are written together, and the data they stand for. -/
structure Block where
  tokens : List Token
  data : List UInt8

namespace Block

/-- How many tokens are written together. -/
def tokenLimit : Nat := 16383

/-- The counts of literals and lengths, and those of distances. -/
def counts (b : Block) : List Nat × List Nat :=
  let start := (Array.replicate literalCount 0, Array.replicate distanceCount 0)
  let (literals, distances) := b.tokens.foldl (fun (literals, distances) token =>
    match token with
    | .literal byte => (literals.modify byte.toNat (· + 1), distances)
    | .copy length distance =>
      (literals.modify (lengthItem length).symbol (· + 1),
       distances.modify (distanceItem distance).symbol (· + 1))) start
  ((literals.modify endOfBlock (· + 1)).toList, distances.toList)

/-- The bits of a block's tokens under two codes, to the end of the block. -/
def body (b : Block) (literals distances : PrefixCode) : Bits :=
  let words := literals.words
  let distanceWords := distances.words
  b.tokens.flatMap (fun token => match token with
    | .literal byte => words.getD byte.toNat []
    | .copy length distance =>
      (lengthItem length).bits words ++ (distanceItem distance).bits distanceWords)
    ++ words.getD endOfBlock []

/-- How many bytes hold a number of bits. -/
def bytesFor (bits : Nat) : Nat := (bits + 7) / 8

/-- The greatest length of data that are written as they are. -/
def plainLimit : Nat := 65535

/-- The bits of a block that starts behind `position` bits: its data as they are, if that is
shortest; or its tokens under the fixed codes or under its own. -/
def bits (b : Block) (last : Bool) (position : Nat) : Bits :=
  let (literalCounts, distanceCounts) := b.counts
  let literals := PrefixCode.ofCounts PrefixCode.maxLength literalCounts
  let distances := PrefixCode.ofCounts PrefixCode.maxLength distanceCounts
  let header := CodeHeader.of literals distances
  let headerBits := header.bits
  let ownSize := bytesFor (3 + 14 + headerBits.length + cost literals literalWidths literalCounts
    + cost distances distanceWidths distanceCounts)
  let fixedSize := bytesFor (3 + cost fixedLiterals literalWidths literalCounts
    + cost fixedDistances distanceWidths distanceCounts)
  if b.data.length + 4 ≤ min ownSize fixedSize ∧ b.data.length ≤ plainLimit then
    last :: Bits.lowFirst 2 0 ++ List.replicate ((8 - (position + 3) % 8) % 8) false
      ++ Bits.lowFirst 16 b.data.length ++ Bits.lowFirst 16 (plainLimit - b.data.length)
      ++ Bits.ofBytes b.data
  else if fixedSize ≤ ownSize then
    last :: Bits.lowFirst 2 1 ++ b.body fixedLiterals fixedDistances
  else
    last :: Bits.lowFirst 2 2 ++ Bits.lowFirst 5 (literals.length - 257)
      ++ Bits.lowFirst 5 (distances.length - 1) ++ Bits.lowFirst 4 (header.lengths.length - 4)
      ++ headerBits ++ b.body literals distances

end Block

/-- How many bytes a token stands for. -/
def Token.size : Token → Nat
  | literal _ => 1
  | copy length _ => length

/-- The bits of tokens and the data they stand for, behind `position` bits. -/
def blockBits (position : Nat) : Nat → List Token → List UInt8 → Bits
  | 0, _, _ => []
  | fuel + 1, tokens, data =>
    let these := tokens.take Block.tokenLimit
    let rest := tokens.drop Block.tokenLimit
    let size := these.foldl (fun sum t => sum + t.size) 0
    let bits := Block.bits ⟨these, data.take size⟩ rest.isEmpty position
    if rest.isEmpty then bits
    else bits ++ blockBits (position + bits.length) fuel rest (data.drop size)

/-- Data as blocks of tokens. -/
def deflate (data : ByteArray) : List UInt8 :=
  let tokens := (search data).toList
  Bits.toBytes (blockBits 0 (tokens.length + 1) tokens data.data.toList)

/-- A number in two bytes, the least significant first. -/
def bytes16 (n : Nat) : List UInt8 := [UInt8.ofNat (n % 256), UInt8.ofNat (n / 256 % 256)]

/-- Data as they are, in blocks. -/
def plainFrom : Nat → List UInt8 → List UInt8
  | 0, _ => []
  | fuel + 1, data =>
    let these := data.take Block.plainLimit
    let rest := data.drop Block.plainLimit
    (if rest.isEmpty then 1 else 0) :: bytes16 these.length
      ++ bytes16 (Block.plainLimit - these.length) ++ these
      ++ if rest.isEmpty then [] else plainFrom fuel rest

/-- Data as they are. -/
def plain (data : ByteArray) : List UInt8 := plainFrom (data.size + 1) data.data.toList

/-- Packed data: blocks of tokens if they unpack to the data, and the data as they are if not. -/
def pack (data : ByteArray) : List UInt8 :=
  let packed := deflate data
  if unpack? packed = some data then packed else plain data

end Zip
end ToolPack
