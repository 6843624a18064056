import ToolPack.Error
import ToolPack.Manifest.Extras
import ToolPack.OsPath

/-!
# The package manifest

What the author of a package writes down: how the package is described, where the built binaries
and the scripts are, and where the package goes.

## What is here

* `Metadata`, `BuildSection`, `ScriptSection`, `DistSection`: the sections, with the values that
  hold where nothing is said;
* `Manifest`: the sections and the directory they were read from;
* `Manifest.scriptNames`, `Manifest.distEnabled`: what follows from them;
* `Manifest.withOutputDir`, `Manifest.withDist`: what the command line may change.
-/

set_option autoImplicit false

namespace ToolPack

/-- How the package is described. -/
structure Metadata where
  name : String
  version : String
  author : String
  authorEmail : String
  url : String
  description : String
  readme : String
  contentType : String
  pythonRequires : String
  extras : Extras
  deriving DecidableEq

namespace Metadata

/-- The readme where none is named. -/
def defaultReadme : String := "README.md"

/-- The kind of text that a readme is where nothing is said. -/
def defaultContentType : String := "text/markdown"

end Metadata

/-- Where the built binaries are and where they go. -/
structure BuildSection where
  rootDir : String := "."
  binDir : String := "build/bin"
  binaries : List String := ["circt-opt", "firtool"]
  outputDir : String := "build/lib"
  deriving DecidableEq, Repr

/-- Where the scripts are and where they go. -/
structure ScriptSection where
  dir : Option String := none
  names : Option (List String) := none
  outputDir : Option String := none
  deriving DecidableEq, Repr

/-- Whether the package is archived, and where. -/
structure DistSection where
  enabled : Bool := false
  outputDir : String := "dist"
  deriving DecidableEq, Repr

/-- A manifest. -/
structure Manifest where
  package : Metadata
  build : BuildSection
  scripts : ScriptSection
  dist : Option DistSection
  /-- The directory that relative paths start from, as far as it is a text. -/
  baseDir : Path
  deriving DecidableEq

namespace Manifest

/-- The names of the scripts; the binaries' names where none are given. -/
def scriptNames (m : Manifest) : List String := m.scripts.names.getD m.build.binaries

/-- Whether an archive is built. -/
def distEnabled (m : Manifest) : Bool := (m.dist.map (·.enabled)).getD false

/-- The place of a directory that is given to a program.  A relative one starts from `here`, the
directory that the program runs in, and there is an error when that cannot be told. -/
def givenDir (here : Except IoError OsPath) (dir : OsPath) : Except IoError OsPath :=
  if dir.isAbsolute then .ok dir else here.map (·.append dir)

/-- The manifest with another output directory, which starts from where the program runs and not
from the manifest's directory.  A manifest holds texts, so what is no text in it is replaced. -/
def withOutputDir (m : Manifest) (here : Except IoError OsPath) (dir : OsPath) :
    Except PackError Manifest :=
  match givenDir here dir with
  | .error e => .error (.io e)
  | .ok place => .ok { m with build := { m.build with outputDir := place.lossy } }

/-- The manifest with the archive enabled; its directory stays. -/
def withDist (m : Manifest) : Manifest :=
  { m with dist := some (match m.dist with
      | some d => { d with enabled := true }
      | none => { enabled := true }) }

end Manifest
end ToolPack
