import ToolPack.Url.Percent

/-!
# Addresses in brackets

An address in brackets is eight groups of at most four hexadecimal digits between colons.  Two
colons once stand for the groups that lack, and the last two groups may be written as four decimal
bytes between dots.
-/

set_option autoImplicit false

namespace ToolPack
namespace Url
namespace Ipv6

/-- A decimal byte at the start of a text, without leading zeros, and the rest. -/
def byte? (cs : List Char) : Option (List Char) :=
  let digits := cs.takeWhile Char.isDigit
  let value := digits.foldl (fun n c => n * 10 + (c.toNat - '0'.toNat)) 0
  let leading := digits.length > 1 && digits.head? == some '0'
  if digits.isEmpty || leading || value > 255 then none else some (cs.drop digits.length)

/-- Whether a text is `n` decimal bytes between dots. -/
def isBytes : Nat → List Char → Bool
  | 0, _ => false
  | n + 1, cs =>
    match byte? cs with
    | none => false
    | some [] => n == 0
    | some (c :: rest) => c == '.' && isBytes n rest

/-- Reads groups.  `fuel` bounds their number, `count` is how many were read, and `gap` says
whether the two colons have been passed.  At the end the groups are complete when there are
eight, or fewer with a gap. -/
def groups : Nat → Nat → Bool → List Char → Bool
  | 0, _, _, _ => false
  | fuel + 1, count, gap, cs =>
    match cs with
    | [] => if gap then count ≤ 8 else count == 8
    | ':' :: rest => count < 8 && !gap && groups fuel (count + 1) true rest
    | _ =>
      let digits := (cs.take 4).takeWhile fun c => (hexDigit? c).isSome
      match cs.drop digits.length with
      | [] => count < 8 && groups fuel (count + 1) gap []
      | '.' :: _ =>
        !digits.isEmpty && count ≤ 6 && isBytes 4 cs && (if gap then true else count == 6)
      | ':' :: rest => count < 8 && !rest.isEmpty && groups fuel (count + 1) gap rest
      | _ => false

/-- Whether a text is an address.  A leading colon must be one of two. -/
def isAddress (cs : List Char) : Bool :=
  match cs with
  | ':' :: ':' :: rest => groups (rest.length + 2) 1 true rest
  | ':' :: _ => false
  | _ => cs.length ≥ 2 && groups (cs.length + 2) 0 false cs

end Ipv6
end Url
end ToolPack
