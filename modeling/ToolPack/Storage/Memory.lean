import ToolPack.Storage.Action

/-!
# A storage in memory

A map from paths, by their texts, to bytes, and the set of the paths that were made executable.
There are no directories: a file can be written under any path, and two spellings of a path are
two files.
-/

set_option autoImplicit false

namespace ToolPack
namespace Storage

/-- Files by path, and the paths that were made executable. -/
structure Memory where
  files : List (Path × ByteArray)
  executable : List Path

namespace Memory

/-- No files. -/
def empty : Memory := ⟨[], []⟩

/-- The bytes under a path. -/
def get? (m : Memory) (path : Path) : Option ByteArray := m.files.lookup path

/-- Puts bytes under a path in a list of files, in the place of those that were there. -/
def put (path : Path) (data : ByteArray) : List (Path × ByteArray) → List (Path × ByteArray)
  | [] => [(path, data)]
  | file :: files =>
    if file.1 = path then (path, data) :: files else file :: put path data files

/-- The storage with bytes under a path. -/
def set (m : Memory) (path : Path) (data : ByteArray) : Memory :=
  { m with files := put path data m.files }

/-- The storage without what is under a path. -/
def erase (m : Memory) (path : Path) : Memory :=
  { m with files := m.files.filter fun file => file.1 != path }

/-- The storage with a path among the executable ones. -/
def mark (m : Memory) (path : Path) : Memory :=
  if m.executable.contains path then m else { m with executable := m.executable ++ [path] }

/-- The error for a file that is not there. -/
def notFound (path : Path) : IoError := ⟨.notFound, "File not found: " ++ path.text⟩

/-- The answers of the storage. -/
def handler : Action.Handler Memory
  | .size path, m => (.ok ((m.get? path).map (·.size)), m)
  | .read path, m =>
    match m.get? path with
    | some data => (.ok data, m)
    | none => (.error (notFound path), m)
  | .write path data, m => (.ok (), m.set path data)
  | .makeDirs _, m => (.ok (), m)
  | .copy source target, m =>
    match m.get? source with
    | some data => (.ok data.size, m.set target data)
    | none => (.error (notFound source), m)
  | .markExecutable path, m => (.ok (), m.mark path)

/-! ## Laws -/

theorem lookup_put (path other : Path) (data : ByteArray) (files : List (Path × ByteArray)) :
    (put path data files).lookup other
      = if other = path then some data else files.lookup other := by
  induction files with
  | nil =>
    by_cases h : other = path
    · simp [put, h]
    · simp [put, List.lookup_cons, h, beq_eq_false_iff_ne.mpr h]
  | cons file files ih =>
    obtain ⟨name, bytes⟩ := file
    by_cases hn : name = path
    · subst hn
      by_cases h : other = name
      · simp [put, h]
      · simp [put, List.lookup_cons, h, beq_eq_false_iff_ne.mpr h]
    · by_cases h : other = name
      · subst h
        simp [put, hn]
      · simp [put, hn, List.lookup_cons, beq_eq_false_iff_ne.mpr h, ih]

/-- A file that was put is there, and the others stay. -/
theorem get?_set (m : Memory) (path other : Path) (data : ByteArray) :
    (m.set path data).get? other = if other = path then some data else m.get? other :=
  lookup_put path other data m.files

end Memory
end Storage
end ToolPack
