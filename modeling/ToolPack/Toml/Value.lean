import ToolPack.Decimal.Shortest
import ToolPack.Native
import ToolPack.Text.Quoted

/-!
# Values of a TOML document

What a document holds, after reading and before anything is asked of it.  A number keeps what was
written; whether it can be held as a number is asked only when somebody reads it.

## What is here

* `Number`: a floating-point number as written;
* `Value`: texts, numbers, truth values, dates, lists and tables.  A table remembers how it came
  to be, because that decides whether the document may add to it;
* `Value.describe?`: how a value is named when another kind was expected.
-/

set_option autoImplicit false

namespace ToolPack
namespace Toml

open scoped Native

/-- A floating-point number as written. -/
inductive Number where
  /-- A decimal, `digits * 10 ^ exponent` up to the sign. -/
  | decimal (negative : Bool) (digits : Nat) (exponent : Int)
  | infinite (negative : Bool)
  | nan
  deriving DecidableEq, Repr

/-- How a table came to be. -/
inductive Origin where
  /-- By a header of its own. -/
  | header
  /-- As a part of the path of another table's header. -/
  | implied
  /-- As a part of a dotted key. -/
  | dotted
  /-- Between braces. -/
  | braces
  deriving DecidableEq, Repr

/-- A value of a document. -/
inductive Value where
  | text (s : String)
  | integer (n : Int)
  | number (x : Number)
  | boolean (b : Bool)
  /-- A date, a time or both, in normal form. -/
  | date (s : String)
  /-- A list between brackets. -/
  | list (items : List Value)
  /-- The tables of one doubled header, the last one first. -/
  | tables (items : List (List (String × Value)))
  | table (origin : Origin) (entries : List (String × Value))
  deriving Inhabited

/-- The entries of a table. -/
abbrev Entries := List (String × Value)

/-- The value under a key. -/
def Entries.get? (entries : Entries) (key : String) : Option Value := entries.lookup key

/-- Puts a value under a key, in the place of the one that was there. -/
def Entries.set (key : String) (value : Value) : Entries → Entries
  | [] => [(key, value)]
  | (k, v) :: rest => if k = key then (key, value) :: rest else (k, v) :: Entries.set key value rest

/-! ## Names for values of the wrong kind -/

/-- The largest exponent, in digits, that is worth rounding: beyond it a number is infinite or
zero whatever its digits are. -/
def exponentLimit : Nat := 400

/-- The positional text of a decimal, none when it is beyond the largest number. -/
def decimalText? (negative : Bool) (digits : Nat) (exponent : Int) : Option (List Char) :=
  let sign := if negative then ['-'] else []
  let magnitude : Int := (Binary.digitCount digits : Int) + exponent
  if digits = 0 ∨ magnitude < -(exponentLimit : Int) then some (sign ++ ['0', '.', '0'])
  else if (exponentLimit : Int) < magnitude then none
  else
    let (num, den) := scale digits 1 10 exponent
    (Binary.ofRatio? num den).map fun b => sign ++ b.shortest.positional

/-- The text of a number, none when it is beyond the largest one. -/
def Number.text? : Number → Option String
  | decimal negative digits exponent =>
    (decimalText? negative digits exponent).map String.ofList
  | infinite negative => some (if negative then "-inf" else "inf")
  | nan => some "NaN"

/-- The smallest number that takes more bits than these. -/
def firstBeyond (bits : Nat) : Int := 2 ^ bits

/-- The text of a whole number, none when it takes more than 128 bits.  Beyond 64 bits the width
is named. -/
def integerText? (n : Int) : Option String :=
  let text := "integer `" ++ toString n ++ "`"
  if -firstBeyond 63 ≤ n ∧ n < firstBeyond 64 then some text
  else if -firstBeyond 127 ≤ n ∧ n < firstBeyond 127 then some (text ++ " as i128")
  else if 0 ≤ n ∧ n < firstBeyond 128 then some (text ++ " as u128")
  else none

/-- How a value is named when another kind was expected; none when it is a number that cannot be
held.  A date counts as a table. -/
def Value.describe? : Value → Option String
  | text s => some ("string " ++ Text.quoted .double s)
  | integer n => integerText? n
  | number x => x.text?.map fun t => "floating point `" ++ t ++ "`"
  | boolean b => some ("boolean `" ++ (if b then "true" else "false") ++ "`")
  | date _ => some "map"
  | list _ | tables _ => some "sequence"
  | table .. => some "map"

end Toml
end ToolPack
