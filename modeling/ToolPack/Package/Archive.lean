import ToolPack.Package.Metadata
import ToolPack.Package.Record
import ToolPack.Zip.Archive

/-!
# The archive of a package

The staged files, the package headers and a record of them all, in one archive.  Binaries stand at
its root, scripts in a directory for data.

## What is here

* `archiveName`: the name of the archive;
* `archiveEntries`: the entries for the files that were read;
* `buildArchive`: reads the staged files and writes the archive.
-/

set_option autoImplicit false

namespace ToolPack
namespace Package

open Storage

/-- The name of the archive. -/
def archiveName (m : ToolPack.Metadata) : String := m.name ++ "-" ++ m.version ++ ".zip"

/-- The permissions of an entry that can be executed. -/
def executableMode : Nat := 0o755

/-- The permissions of an entry that cannot. -/
def regularMode : Nat := 0o644

/-- The name of a script in the archive. -/
def scriptEntryName (m : ToolPack.Metadata) (script : String) : String :=
  m.name ++ ".data/scripts/" ++ script

/-- The entries of files by their names in the archive, of the headers, and the record of them. -/
def archiveEntries (files : List (String × ByteArray)) (pkgInfo : String) : List Zip.Entry :=
  let headers := pkgInfo.toUTF8
  files.map (fun file => ⟨file.1, executableMode, file.2⟩)
    ++ [⟨PkgInfo.fileName, regularMode, headers⟩,
        ⟨Record.fileName, regularMode,
          (Record.render (files ++ [(PkgInfo.fileName, headers)])).toUTF8⟩]

/-- Reads staged files, each under the name that it has in the archive. -/
def readEach (entryName : String → String) :
    List StagedFile → Action (List (String × ByteArray))
  | [] => return []
  | file :: files => do
    let data ← Action.call (.read file.destination)
    let rest ← readEach entryName files
    return (entryName file.name, data) :: rest

/-- Reads the staged files and writes the archive to a directory; gives the archive's path. -/
def buildArchive (dir : Path) (m : ToolPack.Metadata) (binaries scripts : List StagedFile)
    (pkgInfo : String) : Action Path := do
  let binaries ← readEach id binaries
  let scripts ← readEach (scriptEntryName m) scripts
  let entries := archiveEntries (binaries ++ scripts) pkgInfo
  match Zip.build entries with
  | .error e => Action.fail (.archive e)
  | .ok bytes =>
    let path := dir.join (archiveName m)
    Action.report .debug .archive
      s!"Writing archive ({bytes.size} bytes, {entries.length} entries) to {path.text}"
    Action.call (.write path bytes)
    return path

end Package
end ToolPack
