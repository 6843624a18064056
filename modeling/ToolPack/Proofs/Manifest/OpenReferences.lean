import ToolPack.Proofs.Manifest.References

/-!
# An opening that is left open

The name of a reference goes to the next closing brace, whatever is in it.  So an opening that
nothing closes takes the next reference into its name, and a variable that is set is not put in.
A text that leaves no opening open ends with a piece, and what stands behind it is read on its own.

## What is here

* `LeavesOpen`: texts with an opening that is never closed;
* `expand_append`: what stands behind a text without one is read on its own;
* `expand_unclosed`, `expand_swallowed`: what becomes of such an opening, alone and in front of a
  reference;
* `expanded_wherever_iff`: behind a text references are replaced exactly if it leaves none open.
-/

set_option autoImplicit false

namespace ToolPack
namespace Template

variable {env : Environment}

/-- What is behind an opening that is never closed, if there is one. -/
def Parts.unclosed? : Parts → Option Remainder
  | last _ rest => rest
  | before _ _ rest => rest.unclosed?

/-- The text has an opening that is never closed. -/
def LeavesOpen (cs : List Char) : Prop :=
  ∃ front rest, cs = front ++ '$' :: '\x7b' :: rest ∧ '\x7d' ∉ rest

/-- Parts that end with an opening that is never closed are those of a text that leaves one open. -/
theorem leavesOpen_of_unclosed? {p : Parts} {rest : Remainder} (h : p.unclosed? = some rest) :
    LeavesOpen p.text := by
  induction p with
  | last piece unclosed =>
    obtain rfl : unclosed = some rest := h
    exact ⟨piece.1, rest.1, rfl, rest.2⟩
  | before piece name more ih =>
    obtain ⟨front, behind, hmore, hbehind⟩ := ih h
    refine ⟨piece.1 ++ (reference name.1 ++ front), behind, ?_, hbehind⟩
    rw [Parts.text] at hmore ⊢
    rw [Parts.write, hmore, List.append_assoc, List.append_assoc]

/-- What stands behind a text that leaves nothing open is read on its own. -/
theorem expand_append {front back : List Char} (h : ¬ LeavesOpen front) (hback : Opens back) :
    expand env (front ++ back) = expand env front ++ expand env back := by
  obtain ⟨p, rfl⟩ := exists_parts front
  have hclosed : p.unclosed? = none := by
    cases hp : p.unclosed? with
    | none => rfl
    | some rest => exact absurd (leavesOpen_of_unclosed? hp) h
  clear h
  rw [expand_text]
  induction p with
  | last piece unclosed =>
    obtain rfl : unclosed = none := hclosed
    rw [Parts.text, Parts.write, Parts.write, unclosedText, List.append_nil]
    exact expand_piece piece.2 hback
  | before piece name rest ih =>
    rw [Parts.text] at ih ⊢
    rw [Parts.write, Parts.write, List.append_assoc, List.append_assoc, List.append_assoc,
      List.append_assoc, expand_piece piece.2 (opens_reference name.2 _), expand_reference name.2,
      ih hclosed]

/-- A text that leaves something open has a first opening that is never closed. -/
theorem exists_first_open {cs : List Char} (h : LeavesOpen cs) :
    ∃ front rest, cs = front ++ '$' :: '\x7b' :: rest ∧ '\x7d' ∉ rest ∧ ¬ LeavesOpen front := by
  obtain ⟨front, rest, rfl, hrest⟩ := h
  induction hlen : front.length using Nat.strongRecOn generalizing front rest with
  | ind n ih =>
    by_cases hfront : LeavesOpen front
    · obtain ⟨earlier, behind, rfl, hbehind⟩ := hfront
      obtain ⟨first, more, hmore⟩ := ih earlier.length (by simp [← hlen]) earlier
        (behind ++ '$' :: '\x7b' :: rest) (by simp [hbehind, hrest]) rfl
      exact ⟨first, more, by simpa using hmore⟩
    · exact ⟨front, rest, rfl, hrest, hfront⟩

/-- A letter or an underscore, and then letters, digits and underscores. -/
def IsIdentifier (name : String) : Prop :=
  ∃ c cs, name.toList = c :: cs ∧ (c.isAlpha = true ∨ c = '_')
    ∧ ∀ d ∈ cs, d.isAlphanum = true ∨ d = '_'

theorem IsIdentifier.isName {name : String} (h : IsIdentifier name) :
    name.toList ≠ [] ∧ '\x7d' ∉ name.toList := by
  obtain ⟨c, cs, hname, hc, hcs⟩ := h
  rw [hname]
  refine ⟨List.cons_ne_nil c cs, fun hmem => ?_⟩
  rcases List.mem_cons.mp hmem with rfl | hmem
  · exact absurd hc (by decide)
  · exact absurd (hcs _ hmem) (by decide)

/-- A reference that stands in a text, as characters. -/
theorem toList_expandText_around (before name behind : String) :
    (expandText env (before ++ "$\x7b" ++ name ++ "\x7d" ++ behind)).toList
      = expand env (before.toList ++ (reference name.toList ++ behind.toList)) := by
  rw [expandText, String.toList_ofList]
  simp [reference]

/-- What is left open stays as it is. -/
theorem expand_unclosed {front rest : List Char} (hfront : ¬ LeavesOpen front)
    (hrest : '\x7d' ∉ rest) :
    expand env (front ++ '$' :: '\x7b' :: rest) = expand env front ++ '$' :: '\x7b' :: rest := by
  have hopens : Opens ('$' :: '\x7b' :: rest) := opens_unclosedText (some ⟨rest, hrest⟩)
  have hopen : '\x7d' ∉ '$' :: '\x7b' :: rest := not_mem_unclosedText (some ⟨rest, hrest⟩)
  rw [expand_append hfront hopens, expand_of_not_mem hopen]

/-- The variable `A` is set, to nothing. -/
def onlyA : Environment := fun name => if name = "A" then some "" else none

/-- What is left open takes the next opening into its name, and that is the name of no variable. -/
theorem expand_swallowed {front rest : List Char} (hfront : ¬ LeavesOpen front)
    (hrest : '\x7d' ∉ rest) :
    expand onlyA (front ++ '$' :: '\x7b' :: rest ++ (reference ['A'] ++ []))
      = expand onlyA front ++ reference (rest ++ ['$', '\x7b', 'A']) := by
  have hname : rest ++ ['$', '\x7b', 'A'] ≠ [] ∧ '\x7d' ∉ rest ++ ['$', '\x7b', 'A'] := by
    simp [hrest]
  have hunset : onlyA (String.ofList (rest ++ ['$', '\x7b', 'A'])) = none := by
    rw [onlyA, if_neg]
    intro h
    have hlength := congrArg (fun s : String => s.toList.length) h
    simp at hlength
  have htext : front ++ '$' :: '\x7b' :: rest ++ (reference ['A'] ++ [])
      = front ++ (reference (rest ++ ['$', '\x7b', 'A']) ++ []) := by
    simp [reference]
  rw [htext, expand_append hfront (opens_reference hname []), expand_reference hname, value_eq,
    hunset, expand_of_not_mem List.not_mem_nil, List.append_nil]
  rfl

/-- **A reference is replaced wherever it stands, exactly if nothing is left open before it.**  The
texts behind which every reference to a variable that is set is replaced, while what stands around
it is read as if it stood alone, are those without an opening that is never closed.  Behind such an
opening the next reference is a part of a longer name. -/
theorem expanded_wherever_iff (before : String) :
    (∀ (behind : String) (env : Environment) (name v : String),
      IsIdentifier name → env name = some v →
        expandText env (before ++ "$\x7b" ++ name ++ "\x7d" ++ behind)
          = expandText env before ++ v ++ expandText env behind)
      ↔ ¬ LeavesOpen before.toList := by
  constructor
  · intro h hopen
    obtain ⟨front, rest, hbefore, hrest, hfront⟩ := exists_first_open hopen
    have hname : IsIdentifier "A" := ⟨'A', [], rfl, .inl (by decide), by simp⟩
    have hlaw := congrArg String.toList (h "" onlyA "A" "" hname rfl)
    rw [toList_expandText_around, String.toList_append, String.toList_append, expandText,
      expandText, String.toList_ofList, String.toList_ofList, hbefore,
      expand_unclosed hfront hrest] at hlaw
    have hlength := congrArg List.length ((expand_swallowed hfront hrest).symm.trans hlaw)
    simp [reference, expand_of_not_mem] at hlength
  · intro hclosed behind env name v hname hv
    refine String.toList_inj.mp ?_
    rw [toList_expandText_around, expand_append hclosed (opens_reference hname.isName _),
      expand_reference hname.isName, value_eq, String.ofList_toList, hv, String.toList_append,
      String.toList_append, expandText, expandText, String.toList_ofList, String.toList_ofList,
      List.append_assoc]
    rfl

/-- A comment that leaves a reference open hides the next one, though its variable is set. -/
theorem comment_hides_reference :
    let env : Environment := fun name => if name = "TOOL_VERSION" then some "1.0" else none
    let before := "# costs are in $\x7b\nversion = \""
    IsIdentifier "TOOL_VERSION" ∧ env "TOOL_VERSION" = some "1.0"
      ∧ expandText env (before ++ "$\x7b" ++ "TOOL_VERSION" ++ "\x7d" ++ "\"\n")
        = before ++ "$\x7b" ++ "TOOL_VERSION" ++ "\x7d" ++ "\"\n"
      ∧ expandText env before ++ "1.0" ++ expandText env "\"\n" = before ++ "1.0\"\n"
      ∧ expandText env (before ++ "$\x7b" ++ "TOOL_VERSION" ++ "\x7d" ++ "\"\n")
        ≠ expandText env before ++ "1.0" ++ expandText env "\"\n" := by
  intro env before
  have hname : IsIdentifier "TOOL_VERSION" := ⟨'T', "OOL_VERSION".toList, rfl, .inl rfl, by simp⟩
  exact ⟨hname, rfl, by decide +kernel, by decide +kernel, by decide +kernel⟩

end Template
end ToolPack
