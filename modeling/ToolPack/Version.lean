import ToolPack.Text.Digit
import ToolPack.Text.Split

/-!
# Release versions

A release version is a row of numbers joined by dots, then at most one pre-release (`a`, `b` or
`rc` and a number), at most one `.post` number and at most one `.dev` number, in this order and
with nothing else.  A number is a run of decimal digits of any script.

## What is here

* `Version`: the parts of a version, each number as it was written;
* `Version.write`: the text of the parts;
* `Version.parse?`: the parts of a text, `none` when it is no version;
* `isVersion`: whether a text is one.
-/

set_option autoImplicit false

namespace ToolPack

/-- A number, by its digits. -/
abbrev Digits := List Char

/-- The three kinds of pre-release. -/
inductive PreRelease where
  | alpha | beta | candidate
  deriving DecidableEq, Repr

/-- The letters of a pre-release. -/
def PreRelease.letters : PreRelease → List Char
  | alpha => ['a']
  | beta => ['b']
  | candidate => ['r', 'c']

/-- The parts of a version. -/
structure Version where
  release : List Digits
  pre : Option (PreRelease × Digits)
  post : Option Digits
  dev : Option Digits
  deriving DecidableEq, Repr

namespace Version

/-- The marker of a post-release. -/
def postMarker : List Char := ".post".toList

/-- The marker of a development release. -/
def devMarker : List Char := ".dev".toList

/-- An optional part: its marker and its number, or nothing. -/
def writePart (marker : List Char) : Option Digits → List Char
  | none => []
  | some digits => marker ++ digits

/-- The text of a version. -/
def write (v : Version) : List Char :=
  Text.joinChars '.' v.release
    ++ ((v.pre.map fun p => p.1.letters ++ p.2).getD [])
    ++ writePart postMarker v.post ++ writePart devMarker v.dev

/-! ## Reading -/

/-- Whether a text starts with a digit. -/
def startsWithDigit : List Char → Bool
  | c :: _ => Text.isDecimalDigit c
  | [] => false

/-- The numbers that a text starts with, joined by dots, and the rest.  A dot counts only in
front of a digit.  The first number is empty when the text starts otherwise. -/
def readRelease : List Char → List Digits × List Char
  | [] => ([[]], [])
  | c :: cs =>
    if Text.isDecimalDigit c then
      (Text.glue c (readRelease cs).1, (readRelease cs).2)
    else if c = '.' ∧ startsWithDigit cs then
      ([] :: (readRelease cs).1, (readRelease cs).2)
    else ([[]], c :: cs)

/-- The rest of a text behind a marker. -/
def after? : List Char → List Char → Option (List Char)
  | [], cs => some cs
  | _ :: _, [] => none
  | m :: ms, c :: cs => if m = c then after? ms cs else none

/-- An optional part at the start of a text: a marker with at least one digit behind it. -/
def readPart (marker cs : List Char) : Option Digits × List Char :=
  match after? marker cs with
  | none => (none, cs)
  | some rest =>
    if startsWithDigit rest then
      (some (rest.takeWhile Text.isDecimalDigit), rest.dropWhile Text.isDecimalDigit)
    else (none, cs)

/-- The pre-release at the start of a text; the kinds start with different letters. -/
def readPre (cs : List Char) : Option (PreRelease × Digits) × List Char :=
  match readPart PreRelease.alpha.letters cs with
  | (some digits, rest) => (some (.alpha, digits), rest)
  | (none, _) =>
    match readPart PreRelease.beta.letters cs with
    | (some digits, rest) => (some (.beta, digits), rest)
    | (none, _) =>
      match readPart PreRelease.candidate.letters cs with
      | (some digits, rest) => (some (.candidate, digits), rest)
      | (none, _) => (none, cs)

/-- The parts of a text that is a version. -/
def parse? (cs : List Char) : Option Version :=
  let (release, rest) := readRelease cs
  let (pre, rest) := readPre rest
  let (post, rest) := readPart postMarker rest
  let (dev, rest) := readPart devMarker rest
  if startsWithDigit cs && rest.isEmpty then some ⟨release, pre, post, dev⟩ else none

end Version

/-- Whether a text is a release version. -/
def isVersion (text : String) : Bool := (Version.parse? text.toList).isSome

end ToolPack
