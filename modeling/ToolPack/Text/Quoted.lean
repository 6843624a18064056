import ToolPack.Text.EscapeData
import ToolPack.Text.Table

/-!
# Quoted texts

A text shown in double quotes, so that a reader sees where it ends and what is in it: quotes,
backslashes and the common control characters have short escapes, and every other character that
would not show is written by its number.

## What is here

* `isHidden`: characters that would not show;
* `Quoting`: which quote is escaped inside;
* `quoted`: the text in quotes.
-/

set_option autoImplicit false

namespace ToolPack
namespace Text

/-- The ranges of characters that do not show. -/
def escapeTable : Table := Table.ofGaps escapeText

/-- Whether a character does not show when it is printed.  Printable ASCII shows. -/
def isHidden (c : Char) : Bool :=
  if 0x20 ≤ c.toNat && c.toNat < 0x7F then false
  else match escapeTable.floor? c.toNat with
    | some (first, [length]) => c.toNat < first + length
    | _ => false

/-- The digits of a number in base sixteen, lower case. -/
def hexDigits (n : Nat) : List Char := Nat.toDigits 16 n

/-- Which quotes are escaped inside a quoted text. -/
inductive Quoting where
  /-- The double quote only. -/
  | double
  /-- Both quotes. -/
  | both
  deriving DecidableEq, Repr

/-- A character inside quotes. -/
def escape (q : Quoting) (c : Char) : List Char :=
  if c = '\x00' then ['\\', '0']
  else if c = '\t' then ['\\', 't']
  else if c = '\r' then ['\\', 'r']
  else if c = '\n' then ['\\', 'n']
  else if c = '\\' then ['\\', '\\']
  else if c = '"' then ['\\', '"']
  else if c = '\x27' then if q = .both then ['\\', c] else [c]
  else if isHidden c then ['\\', 'u', '\x7b'] ++ hexDigits c.toNat ++ ['\x7d']
  else [c]

/-- The text in double quotes. -/
def quoted (q : Quoting) (text : String) : String :=
  String.ofList ('"' :: text.toList.flatMap (escape q) ++ ['"'])

end Text
end ToolPack
