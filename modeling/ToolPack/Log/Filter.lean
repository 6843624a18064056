import ToolPack.Log.Event
import ToolPack.Text.Blank
import ToolPack.Text.Split

/-!
# Filters for events

A filter is a list of directives with commas between them.  A directive is a level, a target, or a
target with its level; a target stands for all parts whose name starts with it.  The directive
with the longest target decides on an event, and a later one on an earlier one of the same target.

Directives can also name a span or fields in brackets.  Nothing here is in a span, and the only
field of an event is its message.

## What is here

* `Directive`, `Directive.parse?`: one directive, and how it is read;
* `Filter.parse?`: the filter of a text, none when a directive is no directive;
* `Filter.enables`: whether an event is let through;
* `Filter.default`: the filter that holds when none is given.
-/

set_option autoImplicit false

namespace ToolPack
namespace Log

/-- Which parts a directive is about, and the least important level that it lets through: none
lets nothing through. -/
structure Directive where
  target : Option (List Char)
  /-- Whether it holds in a span only. -/
  spanned : Bool
  /-- The fields that an event must have. -/
  fields : List (List Char)
  level : Option Level
  deriving DecidableEq, Repr

/-! ## Levels -/

/-- A number of decimal digits, with a sign in front of it or without. -/
def number? (cs : List Char) : Option Nat :=
  let digits := match cs with
    | '+' :: cs => cs
    | cs => cs
  if digits.isEmpty || !(digits.all Char.isDigit) then none
  else some (digits.foldl (fun n c => 10 * n + (c.toNat - '0'.toNat)) 0)

/-- The level of a word or a number.  The outer option tells whether it is one; `off` is the level
that lets nothing through. -/
def level? (cs : List Char) : Option (Option Level) :=
  match number? cs with
  | some 0 => some none
  | some 1 => some (some .error)
  | some 2 => some (some .warn)
  | some 3 => some (some .info)
  | some 4 => some (some .debug)
  | some 5 => some (some .trace)
  | some _ => none
  | none =>
    match String.ofList (cs.map Char.toLower) with
    | "error" => some (some .error)
    | "warn" => some (some .warn)
    | "info" => some (some .info)
    | "debug" => some (some .debug)
    | "trace" => some (some .trace)
    | "off" => some none
    | _ => none

/-! ## Directives -/

namespace Directive

/-- Where the reading of a directive has come to; the numbers are the places where a part starts. -/
inductive Stage where
  | start
  | name (first : Nat)
  | span (first : Nat)
  | field (first : Nat)
  | fields
  | behind
  | level (first : Nat)
  deriving DecidableEq, Repr

/-- A directive that says nothing: it lets everything through. -/
def everything : Directive := ⟨none, false, [], some .trace⟩

/-- Whether a directive may start with a character. -/
def startsName (c : Char) : Bool :=
  c.isAlphanum || c == '-' || c == ':' || c == '_' || (128 ≤ c.toNat && !Text.isBlank c)

/-- The characters from one place to another. -/
def cut (text : List Char) (first last : Nat) : List Char := (text.drop first).take (last - first)

/-- Reads one character at a place. -/
def step? (text : List Char) (place : Nat) (c : Char) (d : Directive) :
    Stage → Option (Directive × Stage)
  | .start =>
    if c = '[' then some (d, .span (place + 1))
    else if startsName c then some (d, .name place)
    else none
  | .name first =>
    if c = '=' then some ({ d with target := some (cut text first place) }, .level (place + 1))
    else if c = '[' then some ({ d with target := some (cut text first place) }, .span (place + 1))
    else some (d, .name first)
  | .span first =>
    if c = ']' then some ({ d with spanned := true }, .behind)
    else if c = '\x7b' then
      some ({ d with spanned := !(cut text first place).isEmpty }, .field (place + 1))
    else some (d, .span first)
  | .field first =>
    if c = '\x7d' ∨ c = ',' then
      if (cut text first place).isEmpty then none
      else some ({ d with fields := d.fields ++ [cut text first place] },
        if c = ',' then .field (place + 1) else .fields)
    else some (d, .field first)
  | .fields => if c = ']' then some (d, .behind) else none
  | .behind => if c = '=' then some (d, .level (place + 1)) else none
  | .level first => some (d, .level first)

/-- Reads characters from a place on. -/
def steps? (text : List Char) (place : Nat) (d : Directive) (stage : Stage) :
    List Char → Option (Directive × Stage)
  | [] => some (d, stage)
  | c :: cs => do
    let (d, stage) ← step? text place c d stage
    steps? text (place + 1) d stage cs

/-- The text without the white space around it. -/
def trim (text : List Char) : List Char :=
  ((text.dropWhile Text.isBlank).reverse.dropWhile Text.isBlank).reverse

/-- The directive of a text.  The text is read without the white space around it, but its parts
are cut out of the text as it is, so that white space in front of a name spoils it. -/
def parse? (text : List Char) : Option Directive := do
  let (d, stage) ← steps? text 0 everything .start (trim text)
  match stage with
  | .name first =>
    let word := text.drop first
    match level? word with
    | some level => some { d with level := level }
    | none => some { d with target := some word }
  | .level first =>
    let word := text.drop first
    if word.isEmpty then some d else (level? word).map fun level => { d with level := level }
  | .behind => some d
  | _ => none

/-- Whether a directive can decide on an event. -/
def concerns (d : Directive) (event : Event) : Bool :=
  !d.spanned && d.fields.all (· == "message".toList)
    && d.target.all fun target => target.isPrefixOf event.part.target.toList

/-- Whether a directive is more specific than another one: its target is longer, or it names more
fields.  Any target is longer than none. -/
def beats (d e : Directive) : Bool :=
  let size := fun d : Directive => (d.target.map fun t => (String.ofList t).utf8ByteSize + 1).getD 0
  size e < size d || (size e == size d && e.fields.length < d.fields.length)

end Directive

/-! ## Filters -/

/-- A filter: directives in the order in which they were given. -/
abbrev Filter := List Directive

namespace Filter

/-- The directives between commas; empty ones are passed over. -/
def directives? (text : String) : Option Filter :=
  ((Text.splitOn ',' text.toList).filter fun cs => !cs.isEmpty).mapM Directive.parse?

/-- The filter of a text.  Without any directive errors are let through. -/
def parse? (text : String) : Option Filter :=
  (directives? text).map fun directives =>
    if directives.isEmpty then [{ Directive.everything with level := some .error }] else directives

/-- The directive that decides on an event: the most specific one, and of equals the last. -/
def deciding? (f : Filter) (event : Event) : Option Directive :=
  (f.filter fun d => d.concerns event).foldl (fun best d =>
    match best with
    | some b => if b.beats d then some b else some d
    | none => some d) none

/-- Whether an event is let through. -/
def enables (f : Filter) (event : Event) : Bool :=
  match (f.deciding? event).bind (·.level) with
  | some level => event.level.rank ≤ level.rank
  | none => false

/-- The filter that holds when none is given: what the program reports, in detail if the user
wants to see more. -/
def default (verbose : Bool) : Filter :=
  let own := Directive.everything
  if verbose then
    [{ own with target := some Part.command.target.toList, level := some .debug },
     { own with level := some .info }]
  else [{ own with target := some Part.command.target.toList, level := some .info }]

/-- The filter of a setting that may be lacking; one that cannot be read counts as lacking. -/
def ofSetting (setting : Option String) (verbose : Bool) : Filter :=
  (setting.bind parse?).getD (default verbose)

end Filter
end Log
end ToolPack
