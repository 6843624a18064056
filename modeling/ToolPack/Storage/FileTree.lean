import ToolPack.Error

/-!
# Trees of files

Directories, regular files and symbolic links under their locations, seen from a current
directory.  A path leads through the tree segment by segment; links are followed on the way, at
most forty of them.

## What is here

* `Node`, `FileTree`: what is where;
* `FileTree.walk`: where a path leads.  The last segment need not be there, and what happens at it
  depends on the purpose;
* `FileTree.find`: what is at the end of a path;
* `FileTree.canonical`: the location at the end of a path, if there is something.  It is told by a
  path of its own, which has a greatest length as every path, so a file may be found and have none.
-/

set_option autoImplicit false

namespace ToolPack
namespace Storage

/-- What can be at a location. -/
inductive Node where
  | dir
  | file (data : ByteArray) (executable : Bool)
  | link (target : String)

/-- A tree of files, seen from `here`.  The root is always there. -/
structure FileTree where
  here : Location
  nodes : List (Location × Node)

namespace FileTree

/-- What is at a location. -/
def node? (t : FileTree) : Location → Option Node
  | [] => some .dir
  | place => t.nodes.lookup place

/-- Whether a directory is at a location. -/
def isDir (t : FileTree) (place : Location) : Bool :=
  match t.node? place with
  | some .dir => true
  | _ => false

/-- Puts a node at a location in a list, in the place of the one that was there. -/
def putNode (place : Location) (node : Node) : List (Location × Node) → List (Location × Node)
  | [] => [(place, node)]
  | entry :: entries =>
    if entry.1 = place then (place, node) :: entries else entry :: putNode place node entries

/-- The tree with a node at a location. -/
def put (t : FileTree) (place : Location) (node : Node) : FileTree :=
  { t with nodes := putNode place node t.nodes }

/-- The tree without what is at a location and below it. -/
def prune (t : FileTree) (place : Location) : FileTree :=
  { t with nodes := t.nodes.filter fun entry => !place.isSuffixOf entry.1 }

/-! ## Walking -/

/-- What a path is walked for. -/
inductive Purpose where
  /-- To find what is at its end; links there are followed. -/
  | find
  /-- To write a file at its end; links there are followed, and a path that ends in a slash is
  none of a file. -/
  | write
  /-- To make a directory at its end; a link there is something that is there. -/
  | makeDir
  /-- To tell the place of what is at its end by a path from the root.  Links there are followed,
  and each place on the way is told, so none may be too far down. -/
  | locate
  deriving DecidableEq, Repr

/-- The greatest length of a segment, in bytes. -/
def segmentLimit : Nat := 255

/-- The greatest length of a path, in bytes. -/
def pathLimit : Nat := 4095

/-- How many links are followed on the way. -/
def linkLimit : Nat := 40

/-- The length of the path that leads to a location from the root, in bytes: there is a slash in
front of each name. -/
def depth : Location → Nat
  | [] => 0
  | name :: place => depth place + 1 + name.utf8ByteSize

/-- Whether segments ask for a directory at the place that they go on from: none of them leads
further down, or the first that leads elsewhere leads up. -/
def asksDir (segments : List String) : Bool :=
  segments != [] && (segments.find? fun name => name != "" && name != ".").all (· == "..")

/-- Walks from a directory along segments; empty ones are those between and behind slashes.  A
link is handed to `follow`, with the directory that it is in and the segments that remain. -/
def walkWith (t : FileTree) (purpose : Purpose)
    (follow : Location → String → List String → Except OsError Location) :
    Location → List String → Except OsError Location
  | place, [] => .ok place
  | place, name :: rest =>
    if !t.isDir place then .error .notDirectory
    else if name = "" ∨ name = "." then walkWith t purpose follow place rest
    else if name = ".." then walkWith t purpose follow place.tail rest
    else
      let last := rest.all (·.isEmpty)
      if last ∧ rest ≠ [] ∧ purpose = .write then .error .isDirectory
      else if segmentLimit < name.utf8ByteSize then .error .nameTooLong
      else if purpose = .locate ∧ pathLimit < depth (name :: place) then .error .nameTooLong
      else if last ∧ purpose = .makeDir then .ok (name :: place)
      else
        match t.node? (name :: place) with
        | some (.link target) => follow place target rest
        | some _ =>
          -- Whether a directory is there is asked with a slash behind its path.
          if purpose = .locate ∧ asksDir rest ∧ pathLimit < depth (name :: place) + 1 then
            .error .nameTooLong
          else walkWith t purpose follow (name :: place) rest
        | none => if last then .ok (name :: place) else .error .noEntry

/-- Where a path that is seen from a directory starts. -/
def start (place : Location) (text : String) : Location :=
  if Path.isRooted text then [] else place

/-- Walks and follows up to `links` links. -/
def walkLinks (t : FileTree) (purpose : Purpose) :
    Nat → Location → List String → Except OsError Location
  | 0 => walkWith t purpose fun _ _ _ => .error .linkLoop
  | links + 1 => walkWith t purpose fun place target rest =>
    walkLinks t purpose links (start place target) (Text.pieces '/' target ++ rest)

/-- The error for a path with a NUL in it. -/
def nulError : IoError := ⟨.invalidInput, "file name contained an unexpected NUL byte"⟩

/-- Where a path leads, whatever its length. -/
def lead (t : FileTree) (purpose : Purpose) (path : Path) : Except IoError Location :=
  if path.text.toList.contains '\x00' then .error nulError
  else if path.text.isEmpty then .error OsError.noEntry.toIoError
  else
    (walkLinks t purpose linkLimit (start t.here path.text) (Text.pieces '/' path.text)).mapError
      OsError.toIoError

/-- Where a path leads. -/
def walk (t : FileTree) (purpose : Purpose) (path : Path) : Except IoError Location :=
  if pathLimit < path.text.utf8ByteSize ∧ !path.text.toList.contains '\x00' then
    .error OsError.nameTooLong.toIoError
  else t.lead purpose path

/-- What is at the end of a path, and where that is. -/
def find (t : FileTree) (path : Path) : Except IoError (Location × Node) := do
  let place ← t.walk .find path
  match t.node? place with
  | some node => .ok (place, node)
  | none => .error OsError.noEntry.toIoError

/-- Whether a path leads to a directory. -/
def leadsToDir (t : FileTree) (path : Path) : Bool :=
  match t.find path with
  | .ok (_, .dir) => true
  | _ => false

/-- The location at the end of a path, if there is something and its place can be told. -/
def canonical (t : FileTree) (path : Path) : Option Location :=
  match t.lead .locate path with
  | .ok place => (t.node? place).map fun _ => place
  | .error _ => none

/-! ## Laws -/

theorem lookup_putNode (place other : Location) (node : Node) (entries : List (Location × Node)) :
    (putNode place node entries).lookup other
      = if other = place then some node else entries.lookup other := by
  induction entries with
  | nil =>
    by_cases h : other = place
    · simp [putNode, h]
    · simp [putNode, List.lookup_cons, h, beq_eq_false_iff_ne.mpr h]
  | cons entry entries ih =>
    obtain ⟨name, old⟩ := entry
    by_cases hn : name = place
    · subst hn
      by_cases h : other = name
      · simp [putNode, h]
      · simp [putNode, List.lookup_cons, h, beq_eq_false_iff_ne.mpr h]
    · by_cases h : other = name
      · subst h
        simp [putNode, hn]
      · simp [putNode, hn, List.lookup_cons, beq_eq_false_iff_ne.mpr h, ih]

@[simp] theorem here_put (t : FileTree) (place : Location) (node : Node) :
    (t.put place node).here = t.here := rfl

/-- What was put below the root is there, and the rest stays. -/
theorem node?_put (t : FileTree) {place : Location} (hplace : place ≠ []) (other : Location)
    (node : Node) :
    (t.put place node).node? other = if other = place then some node else t.node? other := by
  cases other with
  | nil => simp [node?, Ne.symm hplace]
  | cons name rest => simpa [node?, put] using lookup_putNode place (name :: rest) node t.nodes

end FileTree
end Storage
end ToolPack
