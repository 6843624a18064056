import ToolPack.Text.Split

/-!
# Paths as texts

A path is kept exactly as it was written: nothing is normalised, and two spellings of one place
are different paths.  What the program does with paths is join them, ask for the parent and
compare them segment by segment.

A path is a text here, as it is in a manifest.  Paths that are no texts are left out: to the system
a path may be any bytes without a NUL, and a name that is no text can be the directory that a
program runs in, or come from its command line.  Such paths are in `OsPath`.  Plans, storages and
runs know texts only.

## What is here

* `Path.join`: a name below a directory; an absolute right side replaces the left one;
* `Path.parent?`: the path without its last segment;
* `Path.route`: the spelling-independent part of a path, that is whether it starts at the root
  and its segments without the empty ones and the `.` ones.  `..` is kept, because what it
  leads to depends on links;
* `Path.readComponents`: what a path consists of, read character by character;
  `Path.bareComponents`: the same without the dot that a path may start with;
* `Location`: where a path leads once links are resolved.
-/

set_option autoImplicit false

namespace ToolPack

/-- A place in a tree of files, with links out of the way: the names that lead to it, the
innermost first.  The root is the empty list, and the tail of a place is its parent. -/
abbrev Location := List String

/-- A path, as written. -/
structure Path where
  text : String
  deriving DecidableEq, Repr, Inhabited

namespace Path

/-- Whether the text starts at the root. -/
def isRooted (text : String) : Bool := text.toList.head? == some '/'

/-- Whether the path starts at the root. -/
def isAbsolute (path : Path) : Bool := isRooted path.text

/-- Whether the text ends in a slash. -/
def endsInSlash (text : String) : Bool := text.toList.getLast? == some '/'

/-- `name` below `dir`.  One slash goes between, unless the left side is empty or already ends in
one; a right side that starts at the root stands alone. -/
def join (dir : Path) (name : String) : Path :=
  if isRooted name then ⟨name⟩
  else if dir.text.isEmpty || endsInSlash dir.text then ⟨dir.text ++ name⟩
  else ⟨dir.text ++ "/" ++ name⟩

/-- A path below another, by the same rule. -/
def append (dir right : Path) : Path := dir.join right.text

/-! ## Segments -/

/-- The segments between slashes that name something: neither empty nor `.`. -/
def segments (path : Path) : List String :=
  (Text.pieces '/' path.text).filter fun s => s != "" && s != "."

/-- What is left of a path when spelling is disregarded. -/
structure Route where
  absolute : Bool
  segments : List String
  deriving DecidableEq, Repr

/-- The route that a path spells. -/
def route (path : Path) : Route := ⟨path.isAbsolute, path.segments⟩

/-! ## Components

A path is read from its start, one component after the other.  An empty segment stands for nothing,
and neither does a dot, but for one that a relative path starts with. -/

/-- What a path consists of. -/
inductive Component where
  /-- The root. -/
  | root
  /-- The directory that a relative path starts from, when it is written out. -/
  | here
  /-- The directory above. -/
  | up
  | named (name : String)
  deriving DecidableEq, Repr

/-- The component that a segment stands for, if it stands for one. -/
def Component.ofSegment? (segment : List Char) : Option Component :=
  if segment = [] ∨ segment = ['.'] then none
  else if segment = ['.', '.'] then some .up
  else some (.named (String.ofList segment))

/-- Reads the components behind the start of a path; `segment` is what has been read of the segment
at hand. -/
def readBody (segment : List Char) : List Char → List Component
  | [] => (Component.ofSegment? segment).toList
  | c :: cs =>
    if c = '/' then (Component.ofSegment? segment).toList ++ readBody [] cs
    else readBody (segment ++ [c]) cs

/-- Whether a relative path starts with a dot that is written out: nothing is behind it, or a
slash. -/
def startsHere : List Char → Bool
  | '.' :: rest => rest.head?.all (· == '/')
  | _ => false

/-- Reads the components of a path. -/
def readComponents (path : Path) : List Component :=
  match path.text.toList with
  | '/' :: cs => .root :: readBody [] cs
  | cs => if startsHere cs then .here :: readBody [] cs.tail else readBody [] cs

/-- The components by which two paths are told apart when nothing is known of the places that they
lead to: a dot at the start does not count. -/
def bareComponents (path : Path) : List Component := path.readComponents.filter (· ≠ .here)

/-! ## Parents

Both steps work on the text from its end: `trimEnd` drops slashes and `.` segments, but neither
the root nor a leading `.`, and what stands before the last slash is the parent. -/

/-- Drops what does not count at the end of a reversed path. -/
def trimEnd : List Char → List Char
  | '/' :: rest => if rest.isEmpty then ['/'] else trimEnd rest
  | '.' :: '/' :: rest => trimEnd ('/' :: rest)
  | cs => cs

/-- The path without its last segment; the root and the empty path have none. -/
def parent? (path : Path) : Option Path :=
  match trimEnd path.text.toList.reverse with
  | [] => none
  | ['/'] => none
  | cs => some ⟨String.ofList (trimEnd (cs.dropWhile (· != '/'))).reverse⟩

/-- The directory that holds the path: its parent, or the empty path. -/
def parentOrEmpty (path : Path) : Path := (path.parent?).getD ⟨""⟩

theorem trimEnd_length (cs : List Char) : (trimEnd cs).length ≤ cs.length := by
  fun_induction trimEnd cs with
  | case1 rest h => simp
  | case2 rest h ih => simp only [List.length_cons]; omega
  | case3 rest ih => simp only [List.length_cons] at ih ⊢; omega
  | case4 cs => simp

/-- What is left ends in a slash only if it is the root. -/
theorem trimEnd_slash {cs rest : List Char} (h : trimEnd cs = '/' :: rest) : rest = [] := by
  fun_induction trimEnd cs with
  | case1 rest' hr => simpa using h.symm
  | case2 rest' hr ih => exact ih h
  | case3 rest' ih => exact ih h
  | case4 cs h1 h2 => exact absurd h (h1 rest)

/-- A parent is shorter than its path. -/
theorem parent?_length {path parent : Path} (h : path.parent? = some parent) :
    parent.text.toList.length < path.text.toList.length := by
  have hlen := trimEnd_length path.text.toList.reverse
  rw [List.length_reverse] at hlen
  unfold parent? at h
  split at h
  · simp at h
  · simp at h
  · rename_i cs hne hroot
    simp only [Option.some.injEq] at h
    subst h
    cases hcs : trimEnd path.text.toList.reverse with
    | nil => exact absurd hcs hne
    | cons c rest =>
      rw [hcs] at hlen
      have hc : c ≠ '/' := by
        intro hc
        subst hc
        exact hroot (by rw [hcs, trimEnd_slash hcs])
      have h1 := trimEnd_length (rest.dropWhile (· != '/'))
      have h2 : (rest.dropWhile (· != '/')).length ≤ rest.length :=
        (List.dropWhile_suffix _).length_le
      simp only [List.length_cons] at hlen
      simp only [String.toList_ofList, List.length_reverse, List.dropWhile_cons, bne_iff_ne,
        ne_eq, hc, not_false_eq_true, if_true]
      omega

/-- The path and the directories above it, as far as they can be named: the root and the empty
path are left out. -/
def upward (path : Path) : List Path :=
  match _h : path.parent? with
  | none => []
  | some parent => path :: parent.upward
termination_by path.text.toList.length
decreasing_by exact parent?_length _h

end Path
end ToolPack
