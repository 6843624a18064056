import ToolPack.Digest.Sha256
import ToolPack.Text.Hex
import ToolPack.Text.Split

/-!
# The record of an archive

The file `RECORD` has a line for every entry of an archive: its path, the digest of its data and
their length.  The record's own line has neither digest nor length.
-/

set_option autoImplicit false

namespace ToolPack
namespace Record

/-- The name of the file. -/
def fileName : String := "RECORD"

/-- The line of an entry. -/
def line (path : String) (data : ByteArray) : String :=
  path ++ ",sha256=" ++ String.ofList (Text.hexText (Sha256.digest data)) ++ ","
    ++ toString data.size

/-- The line of the record itself. -/
def ownLine : String := fileName ++ ",,"

/-- The text of the file, for entries in order. -/
def render (entries : List (String × ByteArray)) : String :=
  Text.joinLines (entries.map (fun e => line e.1 e.2) ++ [ownLine]) ++ "\n"

end Record
end ToolPack
