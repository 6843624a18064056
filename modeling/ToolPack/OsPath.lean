import ToolPack.Path
import ToolPack.Text.Hex
import ToolPack.Text.Quoted
import ToolPack.Text.Utf8

/-!
# Paths as rows of bytes

To the system a path is a row of bytes.  A manifest is a text, and so are the paths in it; but the
directory that a program runs in and the paths that it is told on its command line need not be.
They are joined and taken apart as texts are, since what counts there is the slash and the dot, and
these are one byte each.  Where such a path is shown or kept as a text, what is no text in it is
replaced.

## What is here

* `OsPath`, `OsPath.ofPath`; `OsPath.path?`: the path that the bytes spell, if they are a text;
* `OsPath.append`, `OsPath.parent?`: as for paths that are texts;
* `OsPath.lossy`, `OsPath.quoted`: the texts that are shown for a path.
-/

set_option autoImplicit false

namespace ToolPack

/-- A path, as the system has it. -/
structure OsPath where
  bytes : List UInt8
  deriving DecidableEq, Repr

namespace OsPath

/-- The bytes of a path that is a text. -/
def ofPath (path : Path) : OsPath := ⟨path.text.toUTF8.data.toList⟩

/-- The path that the bytes spell, if they are a text. -/
def path? (p : OsPath) : Option Path := (String.fromUTF8? p.bytes.toByteArray).map Path.mk

/-- Whether the bytes are a text. -/
def IsText (p : OsPath) : Prop := p.path?.isSome

instance (p : OsPath) : Decidable p.IsText := inferInstanceAs (Decidable (p.path?.isSome = true))

/-! ## Joining -/

/-- A slash, as a byte. -/
def slash : UInt8 := 0x2F

/-- Whether the path starts at the root. -/
def isAbsolute (p : OsPath) : Bool := p.bytes.head? == some slash

/-- `right` below `dir`, by the rule for paths that are texts. -/
def append (dir right : OsPath) : OsPath :=
  if right.isAbsolute then right
  else if dir.bytes.isEmpty || dir.bytes.getLast? == some slash then ⟨dir.bytes ++ right.bytes⟩
  else ⟨dir.bytes ++ slash :: right.bytes⟩

/-! ## Parents -/

/-- Drops what does not count at the end of the reversed bytes: slashes and dots, but neither the
root nor a dot that the path starts with. -/
def trimEnd : List UInt8 → List UInt8
  | 0x2F :: rest => if rest.isEmpty then [0x2F] else trimEnd rest
  | 0x2E :: 0x2F :: rest => trimEnd (0x2F :: rest)
  | bytes => bytes

/-- The path without its last segment; the root and the empty path have none. -/
def parent? (p : OsPath) : Option OsPath :=
  let bytes := trimEnd p.bytes.reverse
  if bytes = [] ∨ bytes = [slash] then none
  else some ⟨(trimEnd (bytes.dropWhile (· != slash))).reverse⟩

/-- The directory that holds the path: its parent, or the empty path. -/
def parentOrEmpty (p : OsPath) : OsPath := p.parent?.getD ⟨[]⟩

/-! ## Texts -/

/-- The text that a path is shown as, with a replacement character for each fault. -/
def lossy (p : OsPath) : String := Text.mended p.bytes

/-- A byte at fault, inside quotes. -/
def escapeByte (b : UInt8) : List Char := ['\\', 'x'] ++ (Text.hexByte b).map Char.toUpper

/-- The path in quotes, with its faults byte by byte. -/
def quoted (p : OsPath) : String :=
  String.ofList ('"' :: (Text.utf8Pieces p.bytes).flatMap (fun
    | .char c => Text.escape .both c
    | .fault bytes => bytes.flatMap escapeByte) ++ ['"'])

end OsPath
end ToolPack
