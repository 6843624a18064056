import ToolPack.Text.Split
import ToolPack.Url.Idna.Direction
import ToolPack.Url.Idna.Joining
import ToolPack.Url.Idna.Mapping
import ToolPack.Url.Idna.Normal
import ToolPack.Url.Punycode

/-!
# Domain names in ASCII

A domain name as a host is looked up: mapped, composed, cut into labels, each label checked, and
those with characters beyond ASCII written in Punycode behind the marker `xn--`.  Labels that
come with the marker are decoded and checked in the same way.

Hyphens may stand anywhere, labels and names may have any length, and the empty label is allowed;
what a host must not hold is `isForbidden`.

## What is here

* `isForbidden`: ASCII characters that no host of a browser address may hold;
* `asciiName?`: the short way for names that are ASCII and have no marked label;
* `toAscii?`: the ASCII form of any name.
-/

set_option autoImplicit false

namespace ToolPack
namespace Url
namespace Idna

/-- The ASCII characters that no host may hold: controls, the blank, and what would end or escape
a part of an address. -/
def isForbidden (c : Char) : Bool :=
  c.toNat ≤ 0x20 || c.toNat == 0x7F
    || ['%', '#', '/', ':', '<', '>', '?', '@', '[', '\\', ']', '^', '|'].contains c

/-- The marker of labels in Punycode. -/
def marker : List Char := ['x', 'n', '-', '-']

/-- Whether a label starts with the marker. -/
def isMarked (label : List Char) : Bool := marker.isPrefixOf label

/-- Whether a character is ASCII. -/
def isAscii (c : Char) : Bool := c.toNat < 0x80

/-! ## Names that are ASCII -/

/-- The ASCII form of a name that is ASCII and has no marked label: its small letters.  The outer
`none` says that the name is not of this kind, the inner one that it is refused. -/
def asciiName? (name : List Char) : Option (Option (List Char)) :=
  if name.all isAscii then
    let small := name.map Char.toLower
    if (Text.splitOn '.' small).any isMarked then none
    else some (if small.any isForbidden then none else some small)
  else none

/-! ## Other names -/

/-- The table of combining marks. -/
def markTable : Text.Table := Text.Table.ofRuns markText

/-- Whether a character is a combining mark. -/
def isMark (c : Char) : Bool := markTable.value c.toNat == 1

/-- Whether a label may be looked up: it does not pretend to be in Punycode, does not start with a
mark, and has only characters that the mapping keeps, joiners where they belong and nothing
forbidden. -/
def isValidLabel (label : List Char) : Bool :=
  !isMarked label && !(label.head?.any isMark) && label.all isKept
    && joinersFit [] label && !(label.any isForbidden)

/-- The longest label that is written in Punycode. -/
def encodeLimit : Nat := 1000

/-- The longest Punycode that is read. -/
def decodeLimit : Nat := 2000

/-- The characters of a mapped label: a marked label is decoded, and must then hold something
beyond ASCII and be composed. -/
def readLabel? (label : List Char) : Option (List Char) :=
  if isMarked label then
    let body := label.drop marker.length
    if body.length > decodeLimit || !(body.all isAscii) then none
    else match Punycode.decode? body with
      | some decoded =>
        if decoded.all isAscii || normalize decoded != decoded then none else some decoded
      | none => none
  else some label

/-- The ASCII form of a label. -/
def writeLabel? (label : List Char) : Option (List Char) :=
  if label.all isAscii then some label
  else if label.length > encodeLimit then none
  else some (marker ++ Punycode.encode label)

/-- All the results, or none. -/
def each? (f : List Char → Option (List Char)) : List (List Char) → Option (List (List Char))
  | [] => some []
  | x :: xs =>
    match f x, each? f xs with
    | some y, some ys => some (y :: ys)
    | _, _ => none

/-- The ASCII form of a name, none when it is refused. -/
def toAscii? (name : List Char) : Option (List Char) :=
  match asciiName? name with
  | some result => result
  | none => do
    let mapped ← map? name
    let labels ← each? readLabel? (Text.splitOn '.' (normalize mapped))
    if !(labels.all isValidLabel) then none
    else if labels.any (·.any isRightward) && !(labels.all keepsDirection) then none
    else
      let written ← each? writeLabel? labels
      some (Text.joinChars '.' written)

end Idna
end Url
end ToolPack
