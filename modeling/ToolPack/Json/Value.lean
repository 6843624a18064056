import ToolPack.Text.Hex

/-!
# JSON texts

The values that the program writes as JSON, and their two spellings: over several lines with two
spaces for each level, and on one line.

## What is here

* `Json`: nothing, texts, lists and records with their fields in order;
* `Json.quote`: a text in quotes.  Quotes, backslashes and control characters are escaped, and
  every other character stands for itself;
* `Json.pretty`: a value over several lines; what is empty stays on one;
* `Json.compact`: a value on one line.
-/

set_option autoImplicit false

namespace ToolPack

/-- A value to be written. -/
inductive Json where
  | null
  | text (s : String)
  | list (items : List Json)
  | record (fields : List (String × Json))

namespace Json

/-! ## Texts -/

/-- The escape of a control character that has no short one. -/
def longEscape (c : Char) : List Char :=
  ['\\', 'u', '0', '0', Text.hexDigit (c.toNat / 16), Text.hexDigit (c.toNat % 16)]

/-- A character inside quotes. -/
def escape (c : Char) : List Char :=
  if c = '"' then ['\\', '"']
  else if c = '\\' then ['\\', '\\']
  else if c = '\x08' then ['\\', 'b']
  else if c = '\t' then ['\\', 't']
  else if c = '\n' then ['\\', 'n']
  else if c = '\x0c' then ['\\', 'f']
  else if c = '\r' then ['\\', 'r']
  else if c.toNat < 0x20 then longEscape c
  else [c]

/-- A text in quotes. -/
def quote (s : String) : List Char := '"' :: s.toList.flatMap escape ++ ['"']

/-! ## Over several lines -/

/-- A new line of a level. -/
def newLine (level : Nat) : List Char := '\n' :: List.replicate (2 * level) ' '

mutual

/-- A value whose first line stands on a line of a level. -/
def prettyAt (level : Nat) : Json → List Char
  | null => "null".toList
  | text s => quote s
  | list [] => ['[', ']']
  | list (item :: items) =>
    '[' :: newLine (level + 1) ++ prettyAt (level + 1) item ++ prettyItems (level + 1) items
      ++ newLine level ++ [']']
  | record [] => ['\x7b', '\x7d']
  | record (field :: fields) =>
    '\x7b' :: newLine (level + 1) ++ prettyField (level + 1) field
      ++ prettyFields (level + 1) fields ++ newLine level ++ ['\x7d']

/-- The items behind the first one. -/
def prettyItems (level : Nat) : List Json → List Char
  | [] => []
  | item :: items => ',' :: newLine level ++ prettyAt level item ++ prettyItems level items

/-- A field: its key and its value. -/
def prettyField (level : Nat) : String × Json → List Char
  | (key, value) => quote key ++ ':' :: ' ' :: prettyAt level value

/-- The fields behind the first one. -/
def prettyFields (level : Nat) : List (String × Json) → List Char
  | [] => []
  | field :: fields => ',' :: newLine level ++ prettyField level field ++ prettyFields level fields

end

/-- A value over several lines. -/
def pretty (v : Json) : String := String.ofList (prettyAt 0 v)

/-! ## On one line -/

mutual

/-- A value on one line, as characters. -/
def flat : Json → List Char
  | null => "null".toList
  | text s => quote s
  | list [] => ['[', ']']
  | list (item :: items) => '[' :: flat item ++ flatItems items ++ [']']
  | record [] => ['\x7b', '\x7d']
  | record (field :: fields) => '\x7b' :: flatField field ++ flatFields fields ++ ['\x7d']

/-- The items behind the first one. -/
def flatItems : List Json → List Char
  | [] => []
  | item :: items => ',' :: flat item ++ flatItems items

/-- A field: its key and its value. -/
def flatField : String × Json → List Char
  | (key, value) => quote key ++ ':' :: flat value

/-- The fields behind the first one. -/
def flatFields : List (String × Json) → List Char
  | [] => []
  | field :: fields => ',' :: flatField field ++ flatFields fields

end

/-- A value on one line. -/
def compact (v : Json) : String := String.ofList (flat v)

/-- A list of texts. -/
def texts (items : List String) : Json := list (items.map text)

end Json
end ToolPack
