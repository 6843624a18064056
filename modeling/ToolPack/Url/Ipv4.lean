import ToolPack.Native
import ToolPack.Text.Split
import ToolPack.Url.Percent

/-!
# Hosts that are numbers

A host whose last part is a number is an address of one to four parts, each decimal, octal (a
leading zero) or hexadecimal (`0x`).  The last part fills the bytes that the others leave.
-/

set_option autoImplicit false

namespace ToolPack
namespace Url
namespace Ipv4

open scoped Native

/-- The value of digits in a base, none when some character is no digit of it. -/
def digitsValue? (base : Nat) (cs : List Char) : Option Nat :=
  cs.foldl
    (fun sum c => match sum, hexDigit? c with
      | some n, some d => if d < base then some (n * base + d) else none
      | _, _ => none)
    (some 0)

/-- The number that a part stands for.  A bare marker of a base stands for zero. -/
def number? : List Char → Option Nat
  | [] => none
  | '0' :: 'x' :: cs => digitsValue? 16 cs
  | '0' :: 'X' :: cs => digitsValue? 16 cs
  | '0' :: c :: cs => digitsValue? 8 (c :: cs)
  | cs => digitsValue? 10 cs

/-- The parts of a host, without one empty part at the end. -/
def parts (host : List Char) : List (List Char) :=
  let ps := Text.splitOn '.' host
  if ps.getLast? = some [] then ps.dropLast else ps

/-- Whether the last part of a host is a number: it is nothing but digits, or reads as a number. -/
def endsInNumber (host : List Char) : Bool :=
  match (parts host).getLast? with
  | none => false
  | some last => (!last.isEmpty && last.all Char.isDigit) || (number? last).isSome

/-- All the numbers of the parts, or none. -/
def numbers? : List (List Char) → Option (List Nat)
  | [] => some []
  | p :: ps =>
    match number? p, numbers? ps with
    | some n, some ns => some (n :: ns)
    | _, _ => none

/-- Whether a host is an address: at most four numbers, all but the last one a byte, and the last
one within the bytes that are left. -/
def isAddress (host : List Char) : Bool :=
  match numbers? (parts host) with
  | none => false
  | some ns =>
    ns.length ≤ 4 && ns.dropLast.all (· ≤ 255)
      && (match ns.getLast? with
          | some last => last < 256 ^ (5 - ns.length)
          | none => false)

end Ipv4
end Url
end ToolPack
