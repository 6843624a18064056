import ToolPack.Text.Table
import ToolPack.Url.Idna.ClassData

/-!
# Labels of domain names that run from right to left

A domain name in which some character runs from right to left must not look different from what
it is, so each of its labels keeps to one direction: it starts with a letter of that direction,
holds only characters that go with it, and ends in one that fixes it.
-/

set_option autoImplicit false

namespace ToolPack
namespace Url
namespace Idna

/-- Directional classes of characters. -/
inductive Direction where
  | left | right | arabicLetter | number | numberSign | separator | numberEnd | arabicNumber
  | mark | boundary | neutral | other
  deriving DecidableEq, Repr

/-- The table of directional classes. -/
def directionTable : Text.Table := Text.Table.ofRuns directionText

/-- The directional class of a character. -/
def direction (c : Char) : Direction :=
  match directionTable.value c.toNat with
  | 1 => .left
  | 2 => .right
  | 3 => .arabicLetter
  | 4 => .number
  | 5 => .numberSign
  | 6 => .separator
  | 7 => .numberEnd
  | 8 => .arabicNumber
  | 9 => .mark
  | 10 => .boundary
  | 11 => .neutral
  | _ => .other

/-- Whether a character makes its domain name one that runs from right to left. -/
def isRightward (c : Char) : Bool :=
  match direction c with
  | .right | .arabicLetter | .arabicNumber => true
  | _ => false

/-- What may stand in a label that runs from left to right. -/
def fitsLeft : Direction → Bool
  | .left | .number | .numberSign | .separator | .numberEnd | .neutral | .boundary | .mark => true
  | _ => false

/-- What may stand in a label that runs from right to left. -/
def fitsRight : Direction → Bool
  | .right | .arabicLetter | .arabicNumber | .number | .numberSign | .separator | .numberEnd
  | .neutral | .boundary | .mark => true
  | _ => false

/-- Whether a label keeps to one direction.  The empty label does. -/
def keepsDirection (label : List Char) : Bool :=
  let ds := label.map direction
  let last := (ds.reverse.dropWhile (· == .mark)).head?
  match ds with
  | [] => true
  | .left :: _ => ds.all fitsLeft && (last == some .left || last == some .number)
  | .right :: _ | .arabicLetter :: _ =>
    ds.all fitsRight
      && (last == some .right || last == some .arabicLetter || last == some .number
            || last == some .arabicNumber)
      && !(ds.contains .number && ds.contains .arabicNumber)
  | _ => false

end Idna
end Url
end ToolPack
