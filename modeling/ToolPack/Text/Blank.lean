/-!
# White space

The characters that count as white space when a value is asked not to be blank: the Unicode
property White_Space, twenty-five characters in ten ranges.

`isBlank_of_isWhitespace` says that the set holds core's ASCII white space.
-/

set_option autoImplicit false

namespace ToolPack
namespace Text

/-- The ranges of the Unicode property White_Space. -/
def blankRanges : List (Nat × Nat) :=
  [(0x09, 0x0D), (0x20, 0x20), (0x85, 0x85), (0xA0, 0xA0), (0x1680, 0x1680), (0x2000, 0x200A),
   (0x2028, 0x2029), (0x202F, 0x202F), (0x205F, 0x205F), (0x3000, 0x3000)]

/-- Whether the character is white space. -/
def isBlank (c : Char) : Bool :=
  blankRanges.any fun r => r.1 ≤ c.toNat && c.toNat ≤ r.2

/-- Whether a text has nothing but white space in it; the empty text has not. -/
def isAllBlank (text : String) : Bool := text.toList.all isBlank

/-- The set holds what core calls white space. -/
theorem isBlank_of_isWhitespace {c : Char} (h : c.isWhitespace = true) : isBlank c = true := by
  simp only [Char.isWhitespace, Bool.or_eq_true, decide_eq_true_eq] at h
  rcases h with ((rfl | rfl) | rfl) | rfl <;> decide

example : (blankRanges.map fun r => r.2 + 1 - r.1).sum = 25 := by decide

end Text
end ToolPack
