import ToolPack.Json.Value
import ToolPack.Package.PkgInfo
import ToolPack.Package.Staging
import ToolPack.Text.Utf8

/-!
# Files that describe a package

The long description is read as text.  The package headers and the list of scripts are written
into the output directory.
-/

set_option autoImplicit false

namespace ToolPack
namespace Package

open Storage

/-- The error for a long description that is no text. -/
def notText (path : Path) (bytes : ByteArray) : PackError :=
  let fault := match Text.firstFault bytes.data.toList with
    | some fault => fault.message
    | none => ""
  .io ⟨.invalidData, path.text ++ " is not valid UTF-8: " ++ fault⟩

/-- Reads a long description. -/
def readLongDescription (path : Path) : Action String := do
  let bytes ← Action.call (.read path)
  match String.fromUTF8? bytes with
  | some text => return text
  | none => Action.fail (notText path bytes)

/-- Writes the package headers, and gives their text. -/
def writePkgInfo (dir : Path) (m : ToolPack.Metadata) (longDescription : String) :
    Action String := do
  let text := PkgInfo.render m longDescription
  Action.call (.write (dir.join PkgInfo.fileName) text.toUTF8)
  return text

/-- The name of the list of scripts. -/
def scriptListName : String := "scripts.json"

/-- The text of the list of scripts. -/
def scriptList (names : List String) : String := (Json.texts names).pretty

/-- Writes the list of scripts. -/
def writeScriptList (dir : Path) (scripts : List StagedFile) : Action Unit :=
  Action.call (.write (dir.join scriptListName) (scriptList (scripts.map (·.name))).toUTF8)

end Package
end ToolPack
