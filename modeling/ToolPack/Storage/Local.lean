import ToolPack.Storage.Action
import ToolPack.Storage.FileTree

/-!
# The calls of a storage on a tree of files

Files are written with the directories above them made first, and keep their permissions when they
are written again.  A copy has the permissions of its source.  The target is emptied before the
source is read, so copying is refused where both paths lead to one place that can be told.

## What is here

* `FileTree.makeDir`, `FileTree.makeDirs`: one directory, and all that are lacking;
* `FileTree.fileSize`, `readFile`, `writeFile`, `copyFile`, `setExecutable`: the calls;
* `FileTree.handler`: their answers.  A call that fails may have made directories before.
-/

set_option autoImplicit false

namespace ToolPack
namespace Storage
namespace FileTree

/-! ## Directories -/

/-- Makes one directory.  Its parent has to be there, and nothing may be in its place. -/
def makeDir (t : FileTree) (path : Path) : Except IoError FileTree := do
  let place ← t.walk .makeDir path
  match t.node? place with
  | some _ => .error OsError.alreadyThere.toIoError
  | none => .ok (t.put place .dir)

/-- Makes one directory unless it is there. -/
def ensureDir (t : FileTree) (path : Path) : Except IoError Unit × FileTree :=
  match t.makeDir path with
  | .ok t => (.ok (), t)
  | .error e => (if e.kind = .alreadyExists ∧ t.leadsToDir path then .ok () else .error e, t)

/-- Makes the first of a row of directories, each of which is the parent of the one in front of
it, and the others as far as they are lacking. -/
def makeRow (t : FileTree) : List Path → Except IoError Unit × FileTree
  | [] => (.ok (), t)
  | path :: above =>
    match t.ensureDir path with
    | (.error e, _) =>
      if e.kind = .notFound then
        match t.makeRow above with
        | (.ok (), t) => t.ensureDir path
        | failed => failed
      else (.error e, t)
    | made => made

/-- Makes a directory and those above it. -/
def makeDirs (t : FileTree) (path : Path) : Except IoError Unit × FileTree := t.makeRow path.upward

/-! ## Files -/

/-- The size of a regular file; nothing where there is none. -/
def fileSize (t : FileTree) (path : Path) : Except IoError (Option Nat) :=
  match t.find path with
  | .ok (_, .file data _) => .ok (some data.size)
  | .ok _ => .ok none
  | .error e => if e.kind = .notFound then .ok none else .error e

/-- The bytes of a file. -/
def readFile (t : FileTree) (path : Path) : Except IoError ByteArray := do
  match ← t.find path with
  | (_, .file data _) => .ok data
  | _ => .error OsError.isDirectory.toIoError

/-- Puts bytes in a file that may be there, with the permission that `executable` says from the
one it has, if it has any. -/
def overwrite (t : FileTree) (path : Path) (data : ByteArray)
    (executable : Option Bool → Bool) : Except IoError FileTree := do
  let place ← t.walk .write path
  match t.node? place with
  | none => .ok (t.put place (.file data (executable none)))
  | some (.file _ old) => .ok (t.put place (.file data (executable (some old))))
  | some _ => .error OsError.isDirectory.toIoError

/-- Writes a file, after the directories above it. -/
def writeFile (t : FileTree) (path : Path) (data : ByteArray) : Except IoError Unit × FileTree :=
  match (match path.parent? with | some parent => t.makeDirs parent | none => (.ok (), t)) with
  | (.error e, t) => (.error e, t)
  | (.ok (), t) =>
    match t.overwrite path data (fun old => old.getD false) with
    | .ok t => (.ok (), t)
    | .error e => (.error e, t)

/-- Whether two paths lead to one place. -/
def samePlace (t : FileTree) (a b : Path) : Bool :=
  match t.canonical a, t.canonical b with
  | some x, some y => x == y
  | _, _ => false

/-- The error for a file that is copied onto itself. -/
def sameFile (source target : Path) : IoError :=
  ⟨.invalidInput, source.text ++ " and " ++ target.text ++ " are the same file"⟩

/-- The error for copying something that is no file. -/
def notRegular : IoError :=
  ⟨.invalidInput, "the source path is neither a regular file nor a symlink to a regular file"⟩

/-- Copies a file, with its permission, and tells how many bytes that were. -/
def copyFile (t : FileTree) (source target : Path) : Except IoError (Nat × FileTree) := do
  if t.samePlace source target then throw (sameFile source target)
  match ← t.find source with
  | (place, .file data executable) =>
    let goal ← t.walk .write target
    -- The target is emptied before the source is read.
    let read := if goal = place then ByteArray.empty else data
    return (read.size, ← t.overwrite target read fun _ => executable)
  | _ => throw notRegular

/-- Makes a file executable. -/
def setExecutable (t : FileTree) (path : Path) : Except IoError FileTree := do
  match ← t.find path with
  | (place, .file data _) => return t.put place (.file data true)
  | _ => return t

/-! ## Answers -/

/-- The answer of a call that changes the tree only when it succeeds. -/
def answer {α : Type} (t : FileTree) : Except IoError (α × FileTree) → Except IoError α × FileTree
  | .ok (value, t) => (.ok value, t)
  | .error e => (.error e, t)

/-- The answers of the tree. -/
def handler : Action.Handler FileTree
  | .size path, t => (t.fileSize path, t)
  | .read path, t => (t.readFile path, t)
  | .write path data, t => t.writeFile path data
  | .makeDirs path, t => t.makeDirs path
  | .copy source target, t => t.answer (t.copyFile source target)
  | .markExecutable path, t => t.answer ((t.setExecutable path).map fun t => ((), t))

end FileTree
end Storage
end ToolPack
