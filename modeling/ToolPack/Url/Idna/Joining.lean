import ToolPack.Text.Table
import ToolPack.Url.Idna.ClassData
import ToolPack.Url.Idna.Normal

/-!
# Joiners in domain names

The two invisible joiners may stand in a label only where they change how it is written: after a
virama, or, for the one that keeps letters apart, between two letters that would join.
-/

set_option autoImplicit false

namespace ToolPack
namespace Url
namespace Idna

/-- The table of joining classes: 1 joins to the left, 2 to the right, 3 to both sides, 4 is
transparent. -/
def joiningTable : Text.Table := Text.Table.ofRuns joiningText

/-- Whether letters join across a character as if it were not there. -/
def isTransparent (c : Char) : Bool := joiningTable.value c.toNat == 4

/-- Whether a character joins to the one after it. -/
def joinsForward (c : Char) : Bool :=
  let j := joiningTable.value c.toNat
  j == 1 || j == 3

/-- Whether a character joins to the one before it. -/
def joinsBackward (c : Char) : Bool :=
  let j := joiningTable.value c.toNat
  j == 2 || j == 3

/-- The class of the signs that mute a vowel. -/
def viramaClass : Nat := 9

/-- Whether the joiner `c` may stand between `before`, reversed, and `after`. -/
def joinerFits (c : Char) (before after : List Char) : Bool :=
  (before.head?.any fun b => combiningClass b == viramaClass)
    || (c.toNat == 0x200C
          && ((before.dropWhile isTransparent).head?.any joinsForward)
          && ((after.dropWhile isTransparent).head?.any joinsBackward))

/-- Whether every joiner of a label may stand where it does; `before` is what was passed,
reversed. -/
def joinersFit (before : List Char) : List Char → Bool
  | [] => true
  | c :: cs =>
    (if c.toNat == 0x200C || c.toNat == 0x200D then joinerFits c before cs else true)
      && joinersFit (c :: before) cs

end Idna
end Url
end ToolPack
