import ToolPack.Zip.Alphabet

/-!
# Searching for copies

Data are shorter when bytes that have been there before are written as copies.  Earlier places are
found by a key of the four bytes there; places with one key form a chain, the nearest one first.

What is found decides how short the packed data are and nothing else; what they unpack to does not
hang on this search.

## What is here

* `Chains`: the places that have been entered;
* `Chains.seek`: the longest copy at a place;
* `Find`, `Find.shift`: a copy that was found, and how it gives way to one behind it that can
  start earlier;
* `search`: the tokens of data.
-/

set_option autoImplicit false

namespace ToolPack
namespace Zip

/-- The shortest copy. -/
def leastCopy : Nat := 4

/-- The longest copy. -/
def greatestCopy : Nat := 258

/-- How far back a copy may reach while data are searched. -/
def reach : Nat := 32506

/-- How many places of a chain are tried. -/
def chainLimit : Nat := 128

/-- A copy of this length is taken without looking further. -/
def niceCopy : Nat := 128

/-- The places inside copies up to this length are entered, too. -/
def enteredCopy : Nat := 256

/-- As long as this many bytes follow, the next copy is looked for before one is taken. -/
def lookAhead : Nat := 262

/-- The byte at a place; behind the data there are zeros. -/
def byteAt (data : ByteArray) (place : Nat) : UInt8 := data.data.getD place 0

/-- The key of the four bytes at a place. -/
def chainKey (data : ByteArray) (place : Nat) : Nat :=
  let word := (byteAt data place).toNat + 256 * (byteAt data (place + 1)).toNat
    + 65536 * (byteAt data (place + 2)).toNat + 16777216 * (byteAt data (place + 3)).toNat
  word * 2654435761 % 4294967296 / 65536

/-- How many bytes are equal at two places, at most `limit`. -/
def commonLength (data : ByteArray) (a b : Nat) : Nat → Nat
  | 0 => 0
  | limit + 1 =>
    if byteAt data a = byteAt data b then commonLength data (a + 1) (b + 1) limit + 1 else 0

/-! ## Chains -/

/-- The last place of every key, and the place before each place.  Zero ends a chain. -/
structure Chains where
  last : Array Nat
  before : Array Nat

namespace Chains

/-- No places, for data of a size. -/
def empty (size : Nat) : Chains := ⟨Array.replicate 65536 0, Array.replicate (size + 1) 0⟩

/-- Enters a place, and tells the one before it. -/
def enter (data : ByteArray) (place : Nat) (c : Chains) : Nat × Chains :=
  let key := chainKey data place
  let old := c.last.getD key 0
  if old = place then (old, c)
  else (old, ⟨c.last.setIfInBounds key place, c.before.setIfInBounds place old⟩)

/-- Enters `count` places. -/
def enterAll (data : ByteArray) : Nat → Nat → Chains → Chains
  | _, 0, c => c
  | place, count + 1, c => enterAll data (place + 1) count (c.enter data place).2

/-- The longest copy at `here` from the places of a chain, with its source: at most `fuel` places
are tried, and `left` bytes remain. -/
def longest (data : ByteArray) (c : Chains) (here left : Nat) :
    Nat → Nat → Nat × Nat → Nat × Nat
  | 0, _, best => best
  | fuel + 1, place, best =>
    if here ≤ place then best
    else
      let length := commonLength data place here greatestCopy
      if best.1 < length ∧ left < length then (left, place)
      else if best.1 < length ∧ niceCopy ≤ length then (length, place)
      else
        let best := if best.1 < length then (length, place) else best
        let next := c.before.getD place 0
        if next ≤ here - reach then best else longest data c here left fuel next best

end Chains

/-! ## Finds -/

/-- What was found at a place: a copy, or a literal, which has length one.  `entered` is the first
place that may not have been entered yet. -/
structure Find where
  start : Nat
  length : Nat
  source : Nat
  entered : Nat

namespace Find

/-- A literal at a place. -/
def literal (place : Nat) : Find := ⟨place, 1, 0, place⟩

/-- How many bytes in front of two places are equal: at most `limit`, with the first place staying
above `floor` and the second above zero. -/
def backward (data : ByteArray) (floor : Nat) : Nat → Nat → Nat → Nat
  | 0, _, _ => 0
  | limit + 1, start, source =>
    if floor < start ∧ 1 < source ∧ byteAt data (start - 1) = byteAt data (source - 1) then
      backward data floor limit (start - 1) (source - 1) + 1
    else 0

/-- Lets a copy start earlier, at the cost of the one in front of it, if that makes the latter
superfluous. -/
def shift (data : ByteArray) (first second : Find) : Find × Find :=
  if first.length ≤ 1 ∨ second.source + 1 < first.length ∨ second.start + 1 < first.length
      ∨ byteAt data (second.source + 1 - first.length)
        ≠ byteAt data (second.start + 1 - first.length) then (first, second)
  else
    let room := min first.length (256 - second.length)
    let moved := backward data (second.start - reach) room second.start second.source
    if 0 < moved ∧ first.length ≤ moved + 1 ∧ second.length + moved ≠ 2 then
      ({ first with length := first.length - moved },
       ⟨second.start - moved, second.length + moved, second.source - moved, second.entered + 1⟩)
    else (first, second)

/-- The tokens of a find. -/
def emit (data : ByteArray) (f : Find) (tokens : Array Token) : Array Token :=
  if f.length < leastCopy then
    (List.range f.length).foldl (fun ts n => ts.push (.literal (byteAt data (f.start + n)))) tokens
  else tokens.push (.copy f.length (f.start - f.source))

end Find

/-- The longest copy at a place whose chain goes on with `before`, or a literal. -/
def Chains.seek (data : ByteArray) (c : Chains) (here left before : Nat) : Find :=
  if before ≠ 0 ∧ before < here ∧ here - before ≤ reach then
    let (length, source) := c.longest data here left chainLimit before (2, 0)
    if length < leastCopy then .literal here else ⟨here, length, source, here⟩
  else .literal here

/-! ## Tokens -/

/-- A search: the place it has come to, and a find there that has been made already. -/
structure Search where
  chains : Chains
  place : Nat
  found : Option Find
  tokens : Array Token

namespace Search

/-- The find at the place that the search has come to. -/
def current (data : ByteArray) (s : Search) : Find × Chains :=
  let left := data.size - s.place
  match s.found with
  | some found => (found, s.chains)
  | none =>
    if left < leastCopy then (.literal s.place, s.chains)
    else
      let (before, chains) := s.chains.enter data s.place
      (chains.seek data s.place left before, chains)

/-- Enters the places that a find passes over, when `left` bytes remain in front of it. -/
def enterPassed (data : ByteArray) (left : Nat) (f : Find) (c : Chains) : Chains :=
  let stop := f.start + f.length
  if left ≤ f.length + leastCopy ∨ f.length < leastCopy then c
  else if f.length ≤ enteredCopy then
    let first := max (f.start + 1) f.entered
    c.enterAll data first (stop - first)
  else (c.enter data (stop - 1)).2

/-- One step: the find at the place is taken, after the one behind it has been looked for. -/
def step (data : ByteArray) (s : Search) : Search :=
  let left := data.size - s.place
  let s := if left < lookAhead then { s with found := none } else s
  let (current, chains) := s.current data
  let chains := enterPassed data left current chains
  if lookAhead < left then
    let behind := current.start + current.length
    let (before, chains) := chains.enter data behind
    let next := chains.seek data behind left before
    let (current, next) :=
      if next.length < leastCopy then (current, next) else current.shift data next
    ⟨chains, current.start + current.length, some next, current.emit data s.tokens⟩
  else ⟨chains, current.start + current.length, none, current.emit data s.tokens⟩

/-- Steps to the end of the data. -/
def toEnd (data : ByteArray) : Nat → Search → Search
  | 0, s => s
  | fuel + 1, s => if data.size ≤ s.place then s else toEnd data fuel (s.step data)

end Search

/-- The tokens of data. -/
def search (data : ByteArray) : Array Token :=
  (Search.toEnd data (2 * data.size + 1) ⟨.empty data.size, 0, none, #[]⟩).tokens

end Zip
end ToolPack
