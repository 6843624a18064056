import ToolPack.Toml.Value

/-!
# Numbers, dates and truth values

A value that does not start with a quote or a bracket is one word.  The word as a whole is a truth
value, a number, a date, a time, or nothing.  One blank may stand between a date and a time.

## What is here

* `integer?`, `number?`, `dateTime?`: the readings of a word;
* `scalar?`: the word at the start of a text and what it says.
-/

set_option autoImplicit false

namespace ToolPack
namespace Toml

/-! ## Digits -/

/-- The digits of a row in which single underscores may stand between two digits. -/
def digitRow? (isDigit : Char → Bool) : List Char → Option (List Char)
  | [] => none
  | [c] => if isDigit c then some [c] else none
  | c :: '_' :: rest =>
    if isDigit c then (digitRow? isDigit rest).map (c :: ·) else none
  | c :: rest => if isDigit c then (digitRow? isDigit rest).map (c :: ·) else none

/-- The value of a digit of a base up to sixteen. -/
def digitValue (c : Char) : Nat :=
  if c.isDigit then c.toNat - '0'.toNat
  else if 'a' ≤ c then c.toNat - 'a'.toNat + 10
  else c.toNat - 'A'.toNat + 10

/-- The value of digits in a base. -/
def digitsValue (base : Nat) (cs : List Char) : Nat :=
  cs.foldl (fun n c => n * base + digitValue c) 0

/-- Whether a character is a hexadecimal digit, in either case. -/
def isHexDigit (c : Char) : Bool :=
  c.isDigit || ('a' ≤ c && c ≤ 'f') || ('A' ≤ c && c ≤ 'F')

/-- A sign at the start of a word: whether it is a minus, and the rest. -/
def splitSign : List Char → Bool × List Char
  | '-' :: cs => (true, cs)
  | '+' :: cs => (false, cs)
  | cs => (false, cs)

/-- Decimal digits without a zero in front of others. -/
def decimalRow? (cs : List Char) : Option (List Char) :=
  match digitRow? Char.isDigit cs with
  | some ('0' :: _ :: _) => none
  | row => row

/-! ## Numbers -/

/-- A whole number: decimal with a sign, or without one behind `0x`, `0o` or `0b`. -/
def integer? (word : List Char) : Option Int :=
  match word with
  | '0' :: 'x' :: cs => (digitRow? isHexDigit cs).map fun ds => (digitsValue 16 ds : Int)
  | '0' :: 'o' :: cs =>
    (digitRow? (fun c => '0' ≤ c && c ≤ '7') cs).map fun ds => (digitsValue 8 ds : Int)
  | '0' :: 'b' :: cs =>
    (digitRow? (fun c => c == '0' || c == '1') cs).map fun ds => (digitsValue 2 ds : Int)
  | _ =>
    let (negative, cs) := splitSign word
    (decimalRow? cs).map fun ds =>
      if negative then -(digitsValue 10 ds : Int) else (digitsValue 10 ds : Int)

/-- The exponent of a number: digits with a sign. -/
def exponent? (cs : List Char) : Option Int :=
  let (negative, cs) := splitSign cs
  (digitRow? Char.isDigit cs).map fun ds =>
    if negative then -(digitsValue 10 ds : Int) else (digitsValue 10 ds : Int)

/-- A floating-point number: whole part, then a fraction, an exponent or both. -/
def number? (word : List Char) : Option Number :=
  let (negative, cs) := splitSign word
  if cs = ['i', 'n', 'f'] then some (.infinite negative)
  else if cs = ['n', 'a', 'n'] then some .nan
  else
    let isE := fun c => c == 'e' || c == 'E'
    let mantissa := cs.takeWhile fun c => !isE c
    let behind := cs.dropWhile fun c => !isE c
    let whole := mantissa.takeWhile (· != '.')
    let point := mantissa.dropWhile (· != '.')
    if behind.isEmpty && point.isEmpty then none
    else do
      let power ← if behind.isEmpty then some 0 else exponent? behind.tail
      let fraction ← if point.isEmpty then some [] else digitRow? Char.isDigit point.tail
      let digits ← decimalRow? whole
      some (.decimal negative (digitsValue 10 (digits ++ fraction)) (power - fraction.length))

/-! ## Dates and times -/

/-- A number of exactly `n` digits at the start of a word, and the rest. -/
def fixed? (n : Nat) (cs : List Char) : Option (Nat × List Char) :=
  let digits := cs.take n
  if digits.length = n && digits.all Char.isDigit then some (digitsValue 10 digits, cs.drop n)
  else none

/-- The rest behind one expected character. -/
def expect? (c : Char) : List Char → Option (List Char)
  | d :: cs => if d = c then some cs else none
  | [] => none

/-- A number in at least two places. -/
def twoPlaces (n : Nat) : List Char :=
  let digits := Nat.toDigits 10 n
  List.replicate (2 - digits.length) '0' ++ digits

/-- The days of a month. -/
def daysOf (year month : Nat) : Nat :=
  if month = 2 then
    if year % 4 = 0 ∧ (year % 100 ≠ 0 ∨ year % 400 = 0) then 29 else 28
  else if month = 4 ∨ month = 6 ∨ month = 9 ∨ month = 11 then 30
  else 31

/-- A date at the start of a word, in normal form, and the rest. -/
def date? (cs : List Char) : Option (List Char × List Char) := do
  let (year, cs1) ← fixed? 4 cs
  let cs2 ← expect? '-' cs1
  let (month, cs3) ← fixed? 2 cs2
  let cs4 ← expect? '-' cs3
  let (day, rest) ← fixed? 2 cs4
  if 1 ≤ month ∧ month ≤ 12 ∧ 1 ≤ day ∧ day ≤ daysOf year month then some (cs.take 10, rest)
  else none

/-- Digits behind a point, cut to nine and without zeros at the end, though not without all. -/
def fractionText (digits : List Char) : List Char :=
  let kept := ((digits.take 9).reverse.dropWhile (· == '0')).reverse
  '.' :: (if kept.isEmpty then ['0'] else kept)

/-- A time at the start of a word, in normal form, and the rest.  Seconds may lack. -/
def time? (cs : List Char) : Option (List Char × List Char) := do
  let (hour, cs1) ← fixed? 2 cs
  let cs2 ← expect? ':' cs1
  let (minute, cs3) ← fixed? 2 cs2
  if 23 < hour ∨ 59 < minute then none
  else
    let front := twoPlaces hour ++ ':' :: twoPlaces minute
    match cs3 with
    | ':' :: cs4 =>
      let (second, cs5) ← fixed? 2 cs4
      if 60 < second then none
      else
        let front := front ++ ':' :: twoPlaces second
        match cs5 with
        | '.' :: cs6 =>
          let digits := cs6.takeWhile Char.isDigit
          if digits.isEmpty then none
          else some (front ++ fractionText digits, cs6.dropWhile Char.isDigit)
        | _ => some (front, cs5)
    | _ => some (front, cs3)

/-- The distance from universal time, in normal form: nothing, `Z`, or hours and minutes. -/
def offset? (cs : List Char) : Option (List Char) :=
  match cs with
  | [] => some []
  | ['Z'] | ['z'] => some ['Z']
  | sign :: rest =>
    if sign = '+' ∨ sign = '-' then do
      let (hour, cs1) ← fixed? 2 rest
      let cs2 ← expect? ':' cs1
      let (minute, cs3) ← fixed? 2 cs2
      if 23 < hour ∨ 59 < minute ∨ !cs3.isEmpty then none
      else
        let shown := if hour = 0 ∧ minute = 0 then '+' else sign
        some (shown :: (twoPlaces hour ++ ':' :: twoPlaces minute))
    else none

/-- A date, a time, or a date and a time with or without a distance, in normal form. -/
def dateTime? (word : List Char) : Option (List Char) :=
  match date? word with
  | some (date, []) => some date
  | some (date, separator :: rest) =>
    if separator = 'T' ∨ separator = 't' ∨ separator = ' ' then do
      let (time, rest) ← time? rest
      let offset ← offset? rest
      some (date ++ 'T' :: (time ++ offset))
    else none
  | none =>
    match time? word with
    | some (time, []) => some time
    | _ => none

/-! ## Words -/

/-- Whether a character may stand in a word. -/
def isWordChar (c : Char) : Bool :=
  c.isAlphanum || c == '+' || c == '-' || c == '_' || c == '.' || c == ':'

/-- The word at the start of a text and the rest.  A blank between a date and what may be a time
belongs to the word. -/
def splitWord (cs : List Char) : List Char × List Char :=
  let word := cs.takeWhile isWordChar
  let rest := cs.dropWhile isWordChar
  match date? word, rest with
  | some (_, []), ' ' :: d :: more =>
    if d.isDigit then
      (word ++ ' ' :: (d :: more).takeWhile isWordChar, (d :: more).dropWhile isWordChar)
    else (word, rest)
  | _, _ => (word, rest)

/-- The value of a word. -/
def ofWord? (word : List Char) : Option Value :=
  if word = "true".toList then some (.boolean true)
  else if word = "false".toList then some (.boolean false)
  else match integer? word with
    | some n => some (.integer n)
    | none =>
      match number? word with
      | some x => some (.number x)
      | none => (dateTime? word).map fun t => .date (String.ofList t)

/-- The word at the start of a text, by its value, and the rest. -/
def scalar? (cs : List Char) : Option (Value × List Char) :=
  let (word, rest) := splitWord cs
  (ofWord? word).map fun v => (v, rest)

end Toml
end ToolPack
