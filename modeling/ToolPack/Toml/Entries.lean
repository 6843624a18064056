import ToolPack.Toml.Value

/-!
# Adding to the tables of a document

A document opens tables with headers and puts values under dotted keys.  Each step walks down from
the root by the keys of a path, making tables on the way where there are none, and adds one thing
at the end.  Nothing may be defined twice, and how a table came to be decides what may still be
added to it:

* a header may pass through any table but one between braces, and through the last table of a
  doubled header; it may itself open only a table that is implied so far;
* a dotted key may not pass through a table with a header, and ends in a table that dotted keys
  made.
-/

set_option autoImplicit false

namespace ToolPack
namespace Toml

/-- How a path is walked. -/
inductive Walk where
  | byHeader
  | byKey
  deriving DecidableEq, Repr

/-- The origin of tables made on the way. -/
def Walk.made : Walk → Origin
  | byHeader => .implied
  | byKey => .dotted

/-- Whether a walk may pass through a table. -/
def Walk.passes : Walk → Origin → Bool
  | _, .braces => false
  | byHeader, _ => true
  | byKey, .header => false
  | byKey, _ => true

/-- Walks down `path` and changes the table at its end.  `change` is told how that table came to
be, none when it is one of a doubled header. -/
def descend (walk : Walk) (change : Option Origin → Entries → Option Entries) :
    Option Origin → List String → Entries → Option Entries
  | origin, [], entries => change origin entries
  | _, key :: path, entries =>
    match entries.get? key with
    | none =>
      (descend walk change (some walk.made) path []).map fun inner =>
        entries.set key (.table walk.made inner)
    | some (.table origin inner) =>
      if walk.passes origin then
        (descend walk change (some origin) path inner).map fun inner =>
          entries.set key (.table origin inner)
      else none
    | some (.tables (last :: before)) =>
      (descend walk change none path last).map fun last =>
        entries.set key (.tables (last :: before))
    | some _ => none

/-- Opens a table under a key that is free or so far only implied. -/
def openTable (key : String) (entries : Entries) : Option Entries :=
  match entries.get? key with
  | none => some (entries.set key (.table .header []))
  | some (.table .implied inner) => some (entries.set key (.table .header inner))
  | some _ => none

/-- Opens one more table of a doubled header. -/
def openListed (key : String) (entries : Entries) : Option Entries :=
  match entries.get? key with
  | none => some (entries.set key (.tables [[]]))
  | some (.tables items) => some (entries.set key (.tables ([] :: items)))
  | some _ => none

/-- Puts a value under a free key. -/
def putValue (key : String) (value : Value) (entries : Entries) : Option Entries :=
  match entries.get? key with
  | none => some (entries.set key value)
  | some _ => none

/-- The path in front of the last key, and that key. -/
def splitLast? (keys : List String) : Option (List String × String) :=
  keys.getLast?.map fun last => (keys.dropLast, last)

/-- Opens the table of a header. -/
def openHeader (doubled : Bool) (keys : List String) (root : Entries) : Option Entries := do
  let (path, key) ← splitLast? keys
  descend .byHeader (fun _ entries => if doubled then openListed key entries
    else openTable key entries) none path root

/-- Puts a value under a dotted key, below the entries of an open table. -/
def putDotted (keys : List String) (value : Value) (entries : Entries) : Option Entries := do
  let (path, key) ← splitLast? keys
  descend .byKey
    (fun origin entries =>
      if path.isEmpty || origin == some .dotted then putValue key value entries else none)
    none path entries

/-- Changes the entries of the table that a header opened last. -/
def atHeader (change : Entries → Option Entries) : List String → Entries → Option Entries
  | [], entries => change entries
  | key :: path, entries =>
    match entries.get? key with
    | some (.table origin inner) =>
      (atHeader change path inner).map fun inner => entries.set key (.table origin inner)
    | some (.tables (last :: before)) =>
      (atHeader change path last).map fun last => entries.set key (.tables (last :: before))
    | _ => none

end Toml
end ToolPack
