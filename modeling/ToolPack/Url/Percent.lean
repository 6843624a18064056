/-!
# Percent-encoded bytes

In a host a percent sign and two hexadecimal digits stand for a byte; a percent sign without them
stands for itself.  The bytes of a host must then be UTF-8.
-/

set_option autoImplicit false

namespace ToolPack
namespace Url

/-- The value of a hexadecimal digit, in either case. -/
def hexDigit? (c : Char) : Option Nat :=
  if '0' ≤ c ∧ c ≤ '9' then some (c.toNat - '0'.toNat)
  else if 'a' ≤ c ∧ c ≤ 'f' then some (c.toNat - 'a'.toNat + 10)
  else if 'A' ≤ c ∧ c ≤ 'F' then some (c.toNat - 'A'.toNat + 10)
  else none

/-- The bytes of a character. -/
def charBytes (c : Char) : List UInt8 := (String.singleton c).toUTF8.toList

/-- The bytes that a text stands for. -/
def percentBytes : List Char → List UInt8
  | '%' :: high :: low :: rest =>
    match hexDigit? high, hexDigit? low with
    | some h, some l => UInt8.ofNat (h * 16 + l) :: percentBytes rest
    | _, _ => charBytes '%' ++ percentBytes (high :: low :: rest)
  | c :: cs => charBytes c ++ percentBytes cs
  | [] => []

/-- The text that a percent-encoded text stands for, none when its bytes are no UTF-8. -/
def percentDecode? (cs : List Char) : Option (List Char) :=
  if cs.contains '%' then (String.fromUTF8? ⟨(percentBytes cs).toArray⟩).map String.toList
  else some cs

end Url
end ToolPack
