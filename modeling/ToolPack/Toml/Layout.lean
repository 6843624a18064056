import ToolPack.Toml.Value

/-!
# Reading records from TOML values

A record is written as a table of its fields, or as a list of their values in order.  A layout
lists the fields with the ways to read them; reading starts from a record of defaults and puts in
what is there.

## What is here

* `Misfit`: why a value is not what was expected, with `Misfit.message` as its wording; a number
  that cannot be held has no wording of its own;
* `Value.asText`, `Value.asBoolean`, `Value.asList`, `Value.asTexts`: values of one kind;
* `Field`, `Layout`: the fields of a record;
* `Layout.read`: the record of a value.  Of a table the keys are read in ascending order, so that
  the first misfit does not hang on the order in which they were written, and lacking fields are
  reported after that; keys that are no fields are passed over.
-/

set_option autoImplicit false

namespace ToolPack
namespace Toml

/-- Why a value does not fit. -/
inductive Misfit where
  | missingField (name : String)
  | wrongKind (got wanted : String)
  /-- A list for a record ends before a field that has no default. -/
  | tooShort (length : Nat) (title : String) (fields : Nat)
  /-- A number that cannot be held. -/
  | unreadable
  deriving DecidableEq, Repr

/-- The wording of a misfit, none for what is wrong with the document itself. -/
def Misfit.message? : Misfit → Option String
  | missingField name => some ("missing field `" ++ name ++ "`")
  | wrongKind got wanted => some ("invalid type: " ++ got ++ ", expected " ++ wanted)
  | tooShort length title fields =>
    some ("invalid length " ++ toString length ++ ", expected " ++ title ++ " with "
      ++ toString fields ++ " elements")
  | unreadable => none

namespace Value

/-- The misfit of a value where another kind was wanted. -/
def misfit (wanted : String) (v : Value) : Misfit :=
  match v.describe? with
  | some got => .wrongKind got wanted
  | none => .unreadable

/-- A text. -/
def asText : Value → Except Misfit String
  | text s => .ok s
  | v => .error (v.misfit "a string")

/-- A truth value. -/
def asBoolean : Value → Except Misfit Bool
  | boolean b => .ok b
  | v => .error (v.misfit "a boolean")

/-- The values of a list, in order. -/
def items? : Value → Option (List Value)
  | list items => some items
  | tables ts => some (ts.reverse.map (table .header))
  | _ => none

/-- A list of any values. -/
def asList (v : Value) : Except Misfit (List Value) :=
  match v.items? with
  | some items => .ok items
  | none => .error (v.misfit "a sequence")

/-- A list of texts. -/
def asTexts (v : Value) : Except Misfit (List String) := do
  (← v.asList).mapM asText

end Value

/-- The entries in ascending order of their keys. -/
def Entries.sorted (entries : Entries) : Entries :=
  entries.mergeSort fun a b => decide (a.1 ≤ b.1)

/-! ## Records -/

/-- What becomes of a record when a field is not given. -/
inductive Need where
  /-- It cannot be read. -/
  | required
  /-- The field is empty; a list cannot end before it, though. -/
  | optional
  /-- The field has its default. -/
  | defaulted
  deriving DecidableEq, Repr

/-- A field of a record: its key, and how a value is put in. -/
structure Field (α : Type) where
  key : String
  need : Need
  put : Value → α → Except Misfit α

/-- A record: how it is called, its defaults, and its fields in order. -/
structure Layout (α : Type) where
  title : String
  defaults : α
  fields : List (Field α)

namespace Layout

variable {α : Type}

/-- Puts in the value under one key. -/
def putEntry (layout : Layout α) (record : α) (entry : String × Value) : Except Misfit α :=
  match layout.fields.find? fun f => f.key == entry.1 with
  | some field => field.put entry.2 record
  | none => .ok record

/-- The first required field that has no entry. -/
def lacking? (layout : Layout α) (entries : Entries) : Option (Field α) :=
  layout.fields.find? fun f => f.need == .required && (entries.get? f.key).isNone

/-- The record of a table. -/
def readTable (layout : Layout α) (entries : Entries) : Except Misfit α := do
  let record ← entries.sorted.foldlM layout.putEntry layout.defaults
  match layout.lacking? entries with
  | some field => .error (.missingField field.key)
  | none => .ok record

/-- Puts in values by their position, from the field number `position` on.  What is left of the
values when all fields have theirs is passed over. -/
def putItems (layout : Layout α) (position : Nat) :
    List (Field α) → List Value → α → Except Misfit α
  | [], _, record => .ok record
  | field :: fields, item :: items, record => do
    layout.putItems (position + 1) fields items (← field.put item record)
  | field :: fields, [], record =>
    if field.need = .defaulted then layout.putItems (position + 1) fields [] record
    else .error (.tooShort position layout.title layout.fields.length)

/-- The record of a value.  A date holds none of the fields. -/
def read (layout : Layout α) (v : Value) : Except Misfit α :=
  match v with
  | .table _ entries => layout.readTable entries
  | .date _ => layout.readTable []
  | v =>
    match v.items? with
    | some items => layout.putItems 0 layout.fields items layout.defaults
    | none => .error (v.misfit layout.title)

end Layout
end Toml
end ToolPack
