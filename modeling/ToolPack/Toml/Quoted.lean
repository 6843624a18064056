import ToolPack.Toml.Scalar

/-!
# Quoted texts of a document

Four kinds: in double quotes with escapes, in single quotes as they stand, and each of them in
three quotes, where line breaks may stand and one right behind the opening quotes does not count.

## What is here

* `string?`: the quoted text at the start of a text, and the rest;
* `line?`: the same for the two kinds that stay on one line, which keys may be.
-/

set_option autoImplicit false

namespace ToolPack
namespace Toml

/-- Whether a character may stand in a text as it is: everything but controls, of which the tab
may. -/
def isPlain (c : Char) : Bool := c == '\t' || (0x20 ≤ c.toNat && c.toNat != 0x7F)

/-- The character of a number given by hexadecimal digits; surrogates are none. -/
def escaped? (digits : List Char) : Option Char :=
  let n := digitsValue 16 digits
  if digits.all isHexDigit && n.isValidChar then some (Char.ofNat n) else none

/-- The character of a one-letter escape. -/
def shortEscape? (c : Char) : Option Char :=
  if c = 'b' then some '\x08'
  else if c = 't' then some '\t'
  else if c = 'n' then some '\n'
  else if c = 'f' then some '\x0c'
  else if c = 'r' then some '\r'
  else if c = 'e' then some '\x1b'
  else if c = '"' then some '"'
  else if c = '\\' then some '\\'
  else none

/-- A character in front of the rest of a text. -/
def consText (c : Option Char) (rest : Option (List Char × List Char)) :
    Option (List Char × List Char) :=
  match c, rest with
  | some c, some (text, more) => some (c :: text, more)
  | _, _ => none

/-! ## On one line -/

/-- The rest of a text in double quotes. -/
def basic? : List Char → Option (List Char × List Char)
  | [] => none
  | '"' :: cs => some ([], cs)
  | '\\' :: 'x' :: a :: b :: cs => consText (escaped? [a, b]) (basic? cs)
  | '\\' :: 'u' :: a :: b :: c :: d :: cs => consText (escaped? [a, b, c, d]) (basic? cs)
  | '\\' :: 'U' :: a :: b :: c :: d :: e :: f :: g :: h :: cs =>
    consText (escaped? [a, b, c, d, e, f, g, h]) (basic? cs)
  | '\\' :: c :: cs => consText (shortEscape? c) (basic? cs)
  | c :: cs => if isPlain c && c != '\\' then consText (some c) (basic? cs) else none

/-- The rest of a text in single quotes. -/
def literal? : List Char → Option (List Char × List Char)
  | [] => none
  | c :: cs =>
    if c = '\x27' then some ([], cs)
    else if isPlain c then consText (some c) (literal? cs) else none

/-! ## On several lines -/

/-- Drops one line break at the start of a text. -/
def dropBreak : List Char → List Char
  | '\n' :: cs => cs
  | '\r' :: '\n' :: cs => cs
  | cs => cs

/-- Whether the rest of a line is blank and another line follows. -/
def breaksLine (cs : List Char) : Bool :=
  match cs.dropWhile fun c => c == ' ' || c == '\t' with
  | '\n' :: _ => true
  | '\r' :: '\n' :: _ => true
  | _ => false

/-- The quotes at the start of a text behind three closing ones belong to the text, two at most. -/
def closeWith (quote : Char) (cs : List Char) : Option (List Char × List Char) :=
  let extra := (cs.take 2).takeWhile (· == quote)
  some (extra, cs.drop extra.length)

/-- The rest of a text in three double quotes.  `skipping` says that a backslash at the end of a
line is being followed: blanks and line breaks do not count. -/
def multiBasic? (skipping : Bool) : List Char → Option (List Char × List Char)
  | [] => none
  | '"' :: '"' :: '"' :: cs => closeWith '"' cs
  | '\\' :: 'x' :: a :: b :: cs => consText (escaped? [a, b]) (multiBasic? false cs)
  | '\\' :: 'u' :: a :: b :: c :: d :: cs =>
    consText (escaped? [a, b, c, d]) (multiBasic? false cs)
  | '\\' :: 'U' :: a :: b :: c :: d :: e :: f :: g :: h :: cs =>
    consText (escaped? [a, b, c, d, e, f, g, h]) (multiBasic? false cs)
  | '\\' :: c :: cs =>
    if breaksLine (c :: cs) then multiBasic? true cs
    else consText (shortEscape? c) (multiBasic? false cs)
  | '\r' :: '\n' :: cs =>
    if skipping then multiBasic? true cs
    else consText (some '\r') (consText (some '\n') (multiBasic? false cs))
  | c :: cs =>
    if skipping && (c == ' ' || c == '\t' || c == '\n') then multiBasic? true cs
    else if (isPlain c && c != '\\') || c == '\n' then consText (some c) (multiBasic? false cs)
    else none

/-- The rest of a text in three single quotes. -/
def multiLiteral? : List Char → Option (List Char × List Char)
  | [] => none
  | '\x27' :: '\x27' :: '\x27' :: cs => closeWith '\x27' cs
  | '\r' :: '\n' :: cs => consText (some '\r') (consText (some '\n') (multiLiteral? cs))
  | c :: cs => if isPlain c || c == '\n' then consText (some c) (multiLiteral? cs) else none

/-! ## All kinds -/

/-- The quoted text of one line at the start of a text. -/
def line? : List Char → Option (List Char × List Char)
  | '"' :: cs => basic? cs
  | '\x27' :: cs => literal? cs
  | _ => none

/-- The quoted text at the start of a text. -/
def string? : List Char → Option (List Char × List Char)
  | '"' :: '"' :: '"' :: cs => multiBasic? false (dropBreak cs)
  | '\x27' :: '\x27' :: '\x27' :: cs => multiLiteral? (dropBreak cs)
  | cs => line? cs

end Toml
end ToolPack
