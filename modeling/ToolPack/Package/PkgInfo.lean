import ToolPack.Manifest.Basic

/-!
# Package headers

The file `PKG-INFO` holds the core metadata of a package: one header a line, an empty line, and
the long description as it is.
-/

set_option autoImplicit false

namespace ToolPack
namespace PkgInfo

/-- The name of the file. -/
def fileName : String := "PKG-INFO"

/-- A header. -/
def header (key value : String) : String := key ++ ": " ++ value

/-- A requirement that holds under an extra only. -/
def conditional (extra requirement : String) : String :=
  requirement ++ "; extra == \"" ++ extra ++ "\""

/-- The headers of one extra: its name, and its requirements. -/
def extraHeaders (extra : String × List String) : List String :=
  header "Provides-Extra" extra.1
    :: extra.2.map fun requirement => header "Requires-Dist" (conditional extra.1 requirement)

/-- The headers of a package, in order. -/
def headers (m : Metadata) : List String :=
  [header "Metadata-Version" "2.1",
   header "Name" m.name,
   header "Version" m.version,
   header "Summary" m.description,
   header "Home-page" m.url,
   header "Author" m.author,
   header "Author-email" m.authorEmail,
   header "Requires-Python" m.pythonRequires]
    ++ m.extras.entries.flatMap extraHeaders
    ++ [header "Description-Content-Type" m.contentType]

/-- The text of the file. -/
def render (m : Metadata) (longDescription : String) : String :=
  Text.joinLines (headers m) ++ "\n\n" ++ longDescription

end PkgInfo
end ToolPack
