import ToolPack.Text.Table
import ToolPack.Url.Idna.MappingData

/-!
# The mapping of internationalised domain names

Before a domain name is cut into labels its characters are mapped: capital letters to small ones,
compatibility characters to what they stand for, the several full stops to one, and some to
nothing.  Characters that no domain name may hold are refused.

ASCII is mapped without the table: letters become small and all else stays, whether or not a
host may hold it.
-/

set_option autoImplicit false

namespace ToolPack
namespace Url
namespace Idna

/-- What becomes of a character. -/
inductive Fate where
  | kept
  | dropped
  | refused
  | replaced (chars : List Char)

/-- The mapping table. -/
def mappingTable : Text.Table := Text.Table.ofRuns mappingText

/-- What becomes of a character, by the row of its run: kept, dropped, refused, moved up or down
by a distance, replaced by given characters, or one of a run of pairs whose first goes to its
second. -/
def fate (c : Char) : Fate :=
  match mappingTable.floor? c.toNat with
  | some (_, [0]) => .kept
  | some (_, [1]) => .dropped
  | some (_, [3, up]) => .replaced [Char.ofNat (c.toNat + up)]
  | some (_, [4, down]) => .replaced [Char.ofNat (c.toNat - down)]
  | some (_, 5 :: numbers) => .replaced (numbers.map Char.ofNat)
  | some (first, [6]) =>
    if (c.toNat - first) % 2 = 0 then .replaced [Char.ofNat (c.toNat + 1)] else .kept
  | _ => .refused

/-- The characters that a character is mapped to; none when it is refused. -/
def mapChar? (c : Char) : Option (List Char) :=
  if c.toNat < 0x80 then some [c.toLower]
  else match fate c with
    | .kept => some [c]
    | .dropped => some []
    | .refused => none
    | .replaced cs => some cs

/-- The mapped text; none when it has a refused character. -/
def map? : List Char → Option (List Char)
  | [] => some []
  | c :: cs =>
    match mapChar? c, map? cs with
    | some mapped, some rest => some (mapped ++ rest)
    | _, _ => none

/-- Whether the mapping leaves a character as it is. -/
def isKept (c : Char) : Bool :=
  match mapChar? c with
  | some [d] => d == c
  | _ => false

end Idna
end Url
end ToolPack
