/-!
# Punycode

The ASCII form of a label with other characters: the ASCII characters first, then a hyphen if
there are any, then the other characters in ascending order, each as the distance from the one
before in a base of thirty-six whose digits have moving thresholds.

## What is here

* `encode`: the ASCII form of a label;
* `decode?`: the label of an ASCII form, `none` when it is not one.
-/

set_option autoImplicit false

namespace ToolPack
namespace Url
namespace Punycode

/-- The digit of a value below thirty-six: letters first. -/
def digitChar (d : Nat) : Char :=
  if d < 26 then Char.ofNat ('a'.toNat + d) else Char.ofNat ('0'.toNat + d - 26)

/-- The value of a digit; capital letters are none. -/
def digitValue? (c : Char) : Option Nat :=
  if 'a' ≤ c ∧ c ≤ 'z' then some (c.toNat - 'a'.toNat)
  else if '0' ≤ c ∧ c ≤ '9' then some (c.toNat - '0'.toNat + 26)
  else none

/-- The threshold of the digit at position `k`: between one and twenty-six. -/
def threshold (k bias : Nat) : Nat :=
  if k ≤ bias then 1 else if bias + 26 ≤ k then 26 else k - bias

theorem threshold_pos (k bias : Nat) : 1 ≤ threshold k bias := by
  unfold threshold; split
  · exact Nat.le_refl 1
  · split <;> omega

/-- Divides by thirty-five until little is left, counting the positions passed. -/
def shrink (delta k : Nat) : Nat × Nat :=
  if 455 < delta then shrink (delta / 35) (k + 36) else (delta, k)
termination_by delta
decreasing_by exact Nat.div_lt_self (by omega) (by omega)

/-- The bias after a distance, with `count` characters placed. -/
def adapt (delta count : Nat) (first : Bool) : Nat :=
  let halved := if first then delta / 700 else delta / 2
  let r := shrink (halved + halved / count) 0
  r.2 + 36 * r.1 / (r.1 + 38)

/-! ## Writing -/

/-- The digits of a distance, the lowest first. -/
def digits (bias k q : Nat) : List Char :=
  let t := threshold k bias
  if q < t then [digitChar q]
  else digitChar (t + (q - t) % (36 - t)) :: digits bias (k + 36) ((q - t) / (36 - t))
termination_by q
decreasing_by
  have h1 := threshold_pos k bias
  have h2 := Nat.div_le_self (q - threshold k bias) (36 - threshold k bias)
  omega

/-- Where the writing stands: the characters written, the distance since the last one, the bias
and the number of characters placed. -/
structure Writing where
  out : List Char
  delta : Nat
  bias : Nat
  placed : Nat

/-- One character of the label while the characters numbered `m` are placed. -/
def Writing.pass (basics m : Nat) (w : Writing) (c : Char) : Writing :=
  if c.toNat < m then { w with delta := w.delta + 1 }
  else if c.toNat = m then
    { out := w.out ++ digits w.bias 36 w.delta, delta := 0,
      bias := adapt w.delta (w.placed + 1) (w.placed == basics), placed := w.placed + 1 }
  else w

/-- Places the characters of the numbers, in ascending order; `n` is the next number not passed. -/
def place (label : List Char) (basics : Nat) : List Nat → Nat → Writing → Writing
  | [], _, w => w
  | m :: ms, n, w =>
    let w := label.foldl (Writing.pass basics m)
      { w with delta := w.delta + (m - n) * (w.placed + 1) }
    place label basics ms (m + 1) { w with delta := w.delta + 1 }

/-- The ASCII form of a label, without the marker of such forms. -/
def encode (label : List Char) : List Char :=
  let basic := label.filter fun c => c.toNat < 0x80
  let others := ((label.filter fun c => 0x80 ≤ c.toNat).map Char.toNat).eraseDups.mergeSort
  basic ++ (if basic.isEmpty then [] else ['-'])
    ++ (place label basic.length others 0x80
          { out := [], delta := 0, bias := 72, placed := basic.length }).out

/-! ## Reading -/

/-- Reads one distance: the sum so far grows by each digit times its weight. -/
def readDistance (bias : Nat) : List Char → Nat → Nat → Nat → Option (Nat × List Char)
  | [], _, _, _ => none
  | c :: cs, k, weight, sum =>
    match digitValue? c with
    | none => none
    | some d =>
      if d < threshold k bias then some (sum + d * weight, cs)
      else readDistance bias cs (k + 36) (weight * (36 - threshold k bias)) (sum + d * weight)

/-- A distance takes at least one digit. -/
theorem readDistance_length (bias : Nat) (cs : List Char) (k weight sum : Nat)
    (r : Nat × List Char) (h : readDistance bias cs k weight sum = some r) :
    r.2.length < cs.length := by
  induction cs generalizing k weight sum with
  | nil => simp [readDistance] at h
  | cons c cs ih =>
    simp only [readDistance] at h
    split at h
    · exact absurd h (by simp)
    · split at h
      · cases h; simp
      · have := ih _ _ _ h
        simp only [List.length_cons]; omega

/-- Places the characters that the distances give, among those placed already. -/
def unplace (bias n i : Nat) (out cs : List Char) : Option (List Char) :=
  match cs with
  | [] => some out
  | c :: rest =>
    match _h : readDistance bias (c :: rest) 36 1 i with
    | none => none
    | some (sum, more) =>
      let count := out.length + 1
      let number := n + sum / count
      if number.isValidChar then
        unplace (adapt (sum - i) count (i == 0)) number (sum % count + 1)
          (out.insertIdx (sum % count) (Char.ofNat number)) more
      else none
termination_by cs.length
decreasing_by
  have := readDistance_length bias (c :: rest) 36 1 i (sum, more) _h
  simpa using this

/-- The ASCII characters in front of the last hyphen, and the digits behind it. -/
def splitBasic (cs : List Char) : List Char × List Char :=
  let tail := (cs.reverse.takeWhile (· != '-')).reverse
  let head := cs.take (cs.length - tail.length - 1)
  if head.isEmpty then ([], cs) else (head, tail)

/-- The label of an ASCII form. -/
def decode? (cs : List Char) : Option (List Char) :=
  let (basic, rest) := splitBasic cs
  if basic.all fun c => c.toNat < 0x80 then unplace 72 0x80 0 basic rest else none

end Punycode
end Url
end ToolPack
