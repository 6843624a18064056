import ToolPack.Text.Split

/-!
# Variables in a manifest

Before a manifest is read, every `${NAME}` in its text is replaced by the value of that variable
in the environment.  A reference starts at the first `${` that is followed by something other than
a closing brace, and its name goes to the next closing brace, whatever is in it.  References to
variables that are not set stay as they are, and values are not looked into again.

## What is here

* `Environment`: the values of variables;
* `expand`: the text with its references replaced;
* `names`: the variables that a text asks for.
-/

set_option autoImplicit false

namespace ToolPack

/-- The values of the variables that are set. -/
abbrev Environment := String → Option String

namespace Template

/-- Whether a character is the closing brace. -/
def isClose (c : Char) : Bool := c == '\x7d'

/-- The name of a reference whose opening has been passed, and the text behind its closing brace;
none when there is no name or no brace. -/
def name? (cs : List Char) : Option (List Char × List Char) :=
  match cs.dropWhile (fun c => !isClose c) with
  | [] => none
  | _ :: rest =>
    if (cs.takeWhile fun c => !isClose c).isEmpty then none
    else some (cs.takeWhile fun c => !isClose c, rest)

/-- What is behind a reference is shorter than what is behind its opening. -/
theorem name?_length {cs name rest : List Char} (h : name? cs = some (name, rest)) :
    rest.length < cs.length := by
  unfold name? at h
  have hle : (cs.dropWhile fun c => !isClose c).length ≤ cs.length :=
    (List.dropWhile_suffix _).length_le
  cases hd : cs.dropWhile (fun c => !isClose c) with
  | nil => simp [hd] at h
  | cons c rest' =>
    rw [hd] at h hle
    simp only at h
    split at h
    · simp at h
    · simp only [Option.some.injEq, Prod.mk.injEq] at h
      rw [← h.2]
      simp only [List.length_cons] at hle
      omega

/-- What a reference is replaced by: the value, or itself. -/
def value (env : Environment) (name : List Char) : List Char :=
  match env (String.ofList name) with
  | some v => v.toList
  | none => '$' :: '\x7b' :: name ++ ['\x7d']

/-- The text with its references replaced. -/
def expand (env : Environment) (cs : List Char) : List Char :=
  match cs with
  | [] => []
  | '$' :: '\x7b' :: cs =>
    match _h : name? cs with
    | some (name, rest) => value env name ++ expand env rest
    | none => '$' :: expand env ('\x7b' :: cs)
  | c :: cs => c :: expand env cs
termination_by cs.length
decreasing_by
  · have := name?_length _h
    simp only [List.length_cons]; omega
  · simp
  · simp

/-- The names that references in the text ask for. -/
def names (cs : List Char) : List String :=
  match cs with
  | [] => []
  | '$' :: '\x7b' :: cs =>
    match _h : name? cs with
    | some (name, rest) => String.ofList name :: names rest
    | none => names ('\x7b' :: cs)
  | _ :: cs => names cs
termination_by cs.length
decreasing_by
  · have := name?_length _h
    simp only [List.length_cons]; omega
  · simp
  · simp

/-- The text of a manifest with its references replaced. -/
def expandText (env : Environment) (text : String) : String :=
  String.ofList (expand env text.toList)

end Template
end ToolPack
