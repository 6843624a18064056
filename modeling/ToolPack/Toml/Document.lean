import ToolPack.Toml.Entries
import ToolPack.Toml.Quoted
import ToolPack.Toml.Scalar

/-!
# Reading a TOML document

A document is a row of lines: headers, keys with values, comments, nothing.  Values may hold
values, in brackets and braces, up to a fixed depth.

The readers of nested values take `fuel`, which bounds the number of calls below each other; every
call takes at least one character, so the length of the text is enough.

## What is here

* `keys?`: a key, dotted or not;
* `value?`: a value at the start of a text;
* `document?`: the entries of a document, none when the text is no document.
-/

set_option autoImplicit false

namespace ToolPack
namespace Toml

/-! ## Blanks and comments -/

/-- Whether a character is a blank inside a line. -/
def isLineBlank (c : Char) : Bool := c == ' ' || c == '\t'

/-- Drops the blanks at the start of a text. -/
def dropBlanks (cs : List Char) : List Char := cs.dropWhile isLineBlank

/-- Skips blanks, line breaks and comments; none when a comment holds a control character. -/
def skipGap (inComment : Bool) : List Char → Option (List Char)
  | [] => some []
  | '\r' :: '\n' :: cs => skipGap false cs
  | c :: cs =>
    if c == '\n' then skipGap false cs
    else if inComment then if isPlain c then skipGap true cs else none
    else if isLineBlank c then skipGap false cs
    else if c == '#' then skipGap true cs
    else some (c :: cs)

/-- The rest behind the end of a line, at which only a comment may stand. -/
def endLine? (inComment : Bool) : List Char → Option (List Char)
  | [] => some []
  | '\r' :: '\n' :: cs => some cs
  | c :: cs =>
    if c == '\n' then some cs
    else if inComment then if isPlain c then endLine? true cs else none
    else if isLineBlank c then endLine? false cs
    else if c == '#' then endLine? true cs
    else none

/-! ## Keys -/

/-- Whether a character may stand in a key without quotes. -/
def isBareChar (c : Char) : Bool := c.isAlphanum || c == '_' || c == '-'

/-- One part of a key. -/
def key? (cs : List Char) : Option (String × List Char) :=
  match line? cs with
  | some (text, rest) => some (String.ofList text, rest)
  | none =>
    let bare := cs.takeWhile isBareChar
    if bare.isEmpty then none else some (String.ofList bare, cs.dropWhile isBareChar)

/-- A key of one or more parts with dots between them, and the rest behind blanks. -/
def keys? : Nat → List Char → Option (List String × List Char)
  | 0, _ => none
  | fuel + 1, cs => do
    let (part, rest) ← key? (dropBlanks cs)
    match dropBlanks rest with
    | '.' :: rest => do
      let (parts, rest) ← keys? fuel rest
      some (part :: parts, rest)
    | rest => some ([part], rest)

/-! ## Values -/

/-- How deep brackets and braces may stand inside each other. -/
def depthLimit : Nat := 80

mutual

/-- A value at the start of a text; `depth` brackets and braces may still open. -/
def value? : Nat → Nat → List Char → Option (Value × List Char)
  | 0, _, _ => none
  | fuel + 1, depth, cs =>
    match cs with
    | '[' :: cs =>
      match depth with
      | 0 => none
      | depth + 1 => (items? fuel depth cs).map fun r => (.list r.1, r.2)
    | '{' :: cs =>
      match depth with
      | 0 => none
      | depth + 1 =>
        (pairs? fuel depth [] cs).map fun r => (.table .braces r.1, r.2)
    | '"' :: _ => (string? cs).map fun r => (.text (String.ofList r.1), r.2)
    | '\x27' :: _ => (string? cs).map fun r => (.text (String.ofList r.1), r.2)
    | _ => scalar? cs

/-- The values of a list up to its closing bracket. -/
def items? : Nat → Nat → List Char → Option (List Value × List Char)
  | 0, _, _ => none
  | fuel + 1, depth, cs =>
    match skipGap false cs with
    | some (']' :: rest) => some ([], rest)
    | some (c :: cs) => do
      let (item, rest) ← value? fuel depth (c :: cs)
      match ← skipGap false rest with
      | ']' :: rest => some ([item], rest)
      | ',' :: rest => do
        let (items, rest) ← items? fuel depth rest
        some (item :: items, rest)
      | _ => none
    | _ => none

/-- The entries of a table up to its closing brace, added to those before. -/
def pairs? : Nat → Nat → Entries → List Char → Option (Entries × List Char)
  | 0, _, _, _ => none
  | fuel + 1, depth, entries, cs =>
    match skipGap false cs with
    | some ('}' :: rest) => some (entries, rest)
    | some (c :: cs) => do
      let (keys, rest) ← keys? fuel (c :: cs)
      match rest with
      | '=' :: rest => do
        let (value, rest) ← value? fuel depth (dropBlanks rest)
        let entries ← putDotted keys value entries
        match ← skipGap false rest with
        | '}' :: rest => some (entries, rest)
        | ',' :: rest => pairs? fuel depth entries rest
        | _ => none
      | _ => none
    | _ => none

end

/-! ## Documents -/

/-- What has been read: the entries from the root, and the path of the last header. -/
structure Reading where
  root : Entries
  header : List String

/-- Fuel for a text: each nested call takes a character, and there are three kinds of calls. -/
def fuelFor (cs : List Char) : Nat := 3 * cs.length + 3

/-- The path of a header up to its closing brackets, and the rest. -/
def header? (doubled : Bool) (cs : List Char) : Option (List String × List Char) := do
  let (keys, rest) ← keys? (fuelFor cs) cs
  if doubled then
    match rest with
    | ']' :: ']' :: rest => some (keys, rest)
    | _ => none
  else
    match rest with
    | ']' :: rest => some (keys, rest)
    | _ => none

/-- One statement at the start of a line, and the rest of the text behind it. -/
def statement? (state : Reading) (cs : List Char) : Option (Reading × List Char) :=
  match cs with
  | '[' :: '[' :: cs => do
    let (keys, rest) ← header? true cs
    let root ← openHeader true keys state.root
    some (⟨root, keys⟩, rest)
  | '[' :: cs => do
    let (keys, rest) ← header? false cs
    let root ← openHeader false keys state.root
    some (⟨root, keys⟩, rest)
  | _ => do
    let (keys, rest) ← keys? (fuelFor cs) cs
    match rest with
    | '=' :: rest => do
      let (value, rest) ← value? (fuelFor cs) depthLimit (dropBlanks rest)
      let root ← atHeader (putDotted keys value) state.header state.root
      some (⟨root, state.header⟩, rest)
    | _ => none

/-- Reads statements to the end of the text, at most one for each character. -/
def statements? : Nat → Reading → List Char → Option Entries
  | 0, _, _ => none
  | fuel + 1, state, cs =>
    match skipGap false cs with
    | none => none
    | some [] => some state.root
    | some cs => do
      let (state, rest) ← statement? state cs
      let rest ← endLine? false rest
      statements? fuel state rest

/-- The mark that a text may start with. -/
def byteOrderMark : Char := '\ufeff'

/-- The entries of a document. -/
def document? (text : String) : Option Entries :=
  let cs := text.toList
  let cs := match cs with
    | c :: rest => if c = byteOrderMark then rest else cs
    | [] => []
  statements? (cs.length + 1) ⟨[], []⟩ cs

end Toml
end ToolPack
