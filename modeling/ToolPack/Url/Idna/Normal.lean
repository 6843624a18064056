import ToolPack.Text.Table
import ToolPack.Url.Idna.NormalData

/-!
# Canonical composition

Two spellings of one text, such as an accented letter and the letter with a combining accent, have
one composed form: decompose every character, put each row of combining marks in the order of
their classes, and compose from the left wherever no mark stands between.

Hangul syllables decompose and compose by arithmetic, all else by table.
-/

set_option autoImplicit false

namespace ToolPack
namespace Url
namespace Idna

/-- The table of combining classes. -/
def combiningTable : Text.Table := Text.Table.ofRuns combiningText

/-- The combining class of a character; zero for one that starts a row of marks. -/
def combiningClass (c : Char) : Nat :=
  if c.toNat < 0x300 then 0 else combiningTable.value c.toNat

/-- The table of decompositions. -/
def decompositionTable : Text.Table := Text.Table.ofGaps decompositionText

/-- The full decomposition of a character. -/
def decompose (c : Char) : List Char :=
  if c.toNat < 0xA0 then [c]
  else if 0xAC00 ≤ c.toNat ∧ c.toNat ≤ 0xD7A3 then
    let s := c.toNat - 0xAC00
    let lead := Char.ofNat (0x1100 + s / 588)
    let vowel := Char.ofNat (0x1161 + s % 588 / 28)
    if s % 28 = 0 then [lead, vowel] else [lead, vowel, Char.ofNat (0x11A7 + s % 28)]
  else match decompositionTable.row? c.toNat with
    | some numbers => numbers.map Char.ofNat
    | none => [c]

/-- Adds a mark to a reversed row, before those of a higher class. -/
def pushMark (c : Char) : List Char → List Char
  | d :: rest =>
    if combiningClass c != 0 && combiningClass c < combiningClass d then d :: pushMark c rest
    else c :: d :: rest
  | [] => [c]

/-- The rows of marks in the order of their classes. -/
def reorder (cs : List Char) : List Char :=
  (cs.foldl (fun acc c => pushMark c acc) []).reverse

/-- The pairs that compose, under the number of the first, then of the second. -/
def compositionTable : Text.Table :=
  (Text.Table.records compositionText).foldl
    (fun t row => match row with
      | [first, second, whole] =>
        ⟨t.keys.push (first * 0x110000 + second), t.rows.push [whole]⟩
      | _ => t)
    ⟨#[], #[]⟩

/-- What two characters compose to. -/
def compose? (first second : Char) : Option Char :=
  let a := first.toNat
  let b := second.toNat
  if 0x1100 ≤ a ∧ a < 0x1113 ∧ 0x1161 ≤ b ∧ b < 0x1176 then
    some (Char.ofNat (0xAC00 + ((a - 0x1100) * 21 + (b - 0x1161)) * 28))
  else if 0xAC00 ≤ a ∧ a ≤ 0xD7A3 ∧ (a - 0xAC00) % 28 = 0 ∧ 0x11A8 ≤ b ∧ b < 0x11C3 then
    some (Char.ofNat (a + (b - 0x11A7)))
  else match compositionTable.row? (a * 0x110000 + b) with
    | some [whole] => some (Char.ofNat whole)
    | _ => none

/-- Composes from the left.  `starter` is the last character of class zero, `held` the marks since
then, the last one first. -/
def composeFrom : Option Char → List Char → List Char → List Char
  | starter, held, [] => starter.toList ++ held.reverse
  | none, held, c :: cs =>
    if combiningClass c = 0 then held.reverse ++ composeFrom (some c) [] cs
    else composeFrom none (c :: held) cs
  | some s, held, c :: cs =>
    let free := match held with
      | [] => true
      | d :: _ => combiningClass d < combiningClass c
    match if free then compose? s c else none with
    | some whole => composeFrom (some whole) held cs
    | none =>
      if combiningClass c = 0 then s :: held.reverse ++ composeFrom (some c) [] cs
      else composeFrom (some s) (c :: held) cs

/-- The canonical composed form. -/
def normalize (cs : List Char) : List Char :=
  composeFrom none [] (reorder (cs.flatMap decompose))

end Idna
end Url
end ToolPack
