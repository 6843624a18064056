import Mathlib.Data.List.Basic
import ToolPack.Manifest.Template

/-!
# A text is pieces and references

What is replaced in a text depends on how the text is taken apart, and there is one way only: plain
pieces with references between them, and at the end perhaps an opening that is never closed.  In a
plain piece every opening has the closing brace right behind it, so that it is the opening of no
name.

## What is here

* `Plain`, `Parts`: the pieces, and a text taken apart; `Parts.write` puts it together with
  something in the place of each reference;
* `text_injective`, `exists_parts`: every text is that of its parts, and of no others;
* `expand_text`: what is replaced are the references of the parts;
* `expanded_by_parts`: all of that for texts.
-/

set_option autoImplicit false

namespace ToolPack
namespace Template

/-! ## The parts of a text -/

/-- A text is plain if every opening in it has the closing brace right behind it. -/
def Plain (cs : List Char) : Prop :=
  ∀ front back, cs = front ++ '$' :: '\x7b' :: back → ∃ rest, back = '\x7d' :: rest

/-- What stands between references. -/
abbrev Piece := { cs : List Char // Plain cs }

/-- The name in a reference. -/
abbrev Name := { cs : List Char // cs ≠ [] ∧ '\x7d' ∉ cs }

/-- What stands behind an opening that is never closed. -/
abbrev Remainder := { cs : List Char // '\x7d' ∉ cs }

/-- A text taken apart. -/
inductive Parts where
  /-- The last piece, and what is behind an opening that is never closed, if there is one. -/
  | last (piece : Piece) (unclosed : Option Remainder)
  /-- A piece, the name of the reference behind it, and the parts behind that. -/
  | before (piece : Piece) (name : Name) (rest : Parts)

/-- A reference, as it is written. -/
def reference (name : List Char) : List Char := '$' :: '\x7b' :: name ++ ['\x7d']

/-- An opening that is never closed, as it is written. -/
def unclosedText : Option Remainder → List Char
  | none => []
  | some rest => '$' :: '\x7b' :: rest.1

namespace Parts

/-- What the parts are put together to, with `fill name` for the reference to `name`. -/
def write (fill : List Char → List Char) : Parts → List Char
  | last piece rest => piece.1 ++ unclosedText rest
  | before piece name rest => piece.1 ++ (fill name.1 ++ rest.write fill)

/-- The text that was taken apart. -/
def text (p : Parts) : List Char := p.write reference

/-- The names of the references. -/
def names : Parts → List String
  | last _ _ => []
  | before _ name rest => String.ofList name.1 :: rest.names

/-- Only what the names of the parts are filled with counts. -/
theorem write_congr {p : Parts} {fill fill' : List Char → List Char}
    (h : ∀ name, String.ofList name ∈ p.names → fill name = fill' name) :
    p.write fill = p.write fill' := by
  induction p with
  | last piece rest => rfl
  | before piece name rest ih =>
    rw [write, write, h name.1 List.mem_cons_self,
      ih fun other hother => h other (List.mem_cons_of_mem _ hother)]

end Parts

/-! ## Names -/

theorem isClose_iff {c : Char} : isClose c = true ↔ c = '\x7d' := by
  rw [isClose, beq_iff_eq]

/-- A name goes to the first closing brace, and is not empty. -/
theorem name?_eq_some_iff {cs name rest : List Char} :
    name? cs = some (name, rest)
      ↔ (name ≠ [] ∧ '\x7d' ∉ name) ∧ cs = name ++ '\x7d' :: rest := by
  constructor
  · intro h
    have hcs := List.takeWhile_append_dropWhile (p := fun c => !isClose c) (l := cs)
    have hfirst := List.head?_dropWhile_not (fun c => !isClose c) cs
    rw [name?] at h
    split at h
    · cases h
    · rename_i c behind hdrop
      split at h
      · cases h
      · rename_i hne
        obtain ⟨rfl, rfl⟩ := Prod.mk.inj (Option.some.inj h)
        simp only [hdrop, List.head?_cons, Bool.not_eq_false', isClose_iff] at hfirst
        rw [hdrop, hfirst] at hcs
        refine ⟨⟨by simpa using hne, fun hmem => ?_⟩, hcs.symm⟩
        have hopen := List.all_eq_true.mp List.all_takeWhile _ hmem
        exact absurd hopen (by decide)
  · rintro ⟨⟨hne, hopen⟩, rfl⟩
    have hpass : ∀ c ∈ name, (!isClose c) = true := by
      intro c hc
      rw [Bool.not_eq_true', ← Bool.not_eq_true, isClose_iff]
      rintro rfl
      exact hopen hc
    have hclose : isClose '\x7d' = true := by decide
    simp [name?, List.dropWhile_append_of_pos hpass, List.takeWhile_append_of_pos hpass, hclose,
      hne]

/-- There is no name where there is no closing brace, or where it comes at once. -/
theorem name?_eq_none_iff {cs : List Char} :
    name? cs = none ↔ '\x7d' ∉ cs ∨ ∃ rest, cs = '\x7d' :: rest := by
  constructor
  · intro h
    by_cases hmem : '\x7d' ∈ cs
    · obtain ⟨name, rest, rfl, hopen⟩ := List.eq_append_cons_of_mem hmem
      cases name with
      | nil => exact .inr ⟨rest, rfl⟩
      | cons c name =>
        rw [name?_eq_some_iff.mpr ⟨⟨List.cons_ne_nil _ _, hopen⟩, rfl⟩] at h
        cases h
    · exact .inl hmem
  · intro h
    cases hread : name? cs with
    | none => rfl
    | some found =>
      obtain ⟨name, behind⟩ := found
      obtain ⟨⟨hne, hopen⟩, rfl⟩ := name?_eq_some_iff.mp hread
      rcases h with hnone | ⟨rest, hrest⟩
      · exact absurd (List.mem_append_right _ List.mem_cons_self) hnone
      · cases name with
        | nil => exact absurd rfl hne
        | cons c name =>
          obtain ⟨rfl, -⟩ := List.cons.inj hrest
          exact absurd List.mem_cons_self hopen

theorem reference_append (name rest : List Char) :
    reference name ++ rest = '$' :: '\x7b' :: (name ++ '\x7d' :: rest) := by
  simp [reference]

/-- A reference is read as what it is. -/
theorem reference_append_inj {name name' rest rest' : List Char}
    (hname : name ≠ [] ∧ '\x7d' ∉ name) (hname' : name' ≠ [] ∧ '\x7d' ∉ name')
    (h : reference name ++ rest = reference name' ++ rest') : name = name' ∧ rest = rest' := by
  rw [reference_append, reference_append] at h
  have hbehind := (List.cons.inj (List.cons.inj h).2).2
  have hread := name?_eq_some_iff.mpr ⟨hname', hbehind⟩
  rw [name?_eq_some_iff.mpr ⟨hname, rfl⟩] at hread
  exact Prod.mk.inj (Option.some.inj hread)

/-! ## What stands behind a piece -/

/-- Behind a piece there is nothing, or an opening with something else than the closing brace behind
it. -/
def Opens (cs : List Char) : Prop :=
  cs = [] ∨ ∃ back, cs = '$' :: '\x7b' :: back ∧ ¬ ∃ rest, back = '\x7d' :: rest

theorem opens_reference {name : List Char} (hname : name ≠ [] ∧ '\x7d' ∉ name)
    (rest : List Char) : Opens (reference name ++ rest) := by
  refine .inr ⟨_, reference_append name rest, ?_⟩
  rintro ⟨more, hmore⟩
  match name, hname, hmore with
  | [], hname, _ => exact hname.1 rfl
  | c :: name, hname, hmore =>
    obtain ⟨rfl, -⟩ := List.cons.inj hmore
    exact hname.2 List.mem_cons_self

theorem not_mem_unclosedText (rest : Option Remainder) : '\x7d' ∉ unclosedText rest := by
  cases rest with
  | none => exact List.not_mem_nil
  | some rest => simpa [unclosedText] using rest.2

theorem opens_unclosedText (rest : Option Remainder) : Opens (unclosedText rest) := by
  cases rest with
  | none => exact .inl rfl
  | some rest =>
    refine .inr ⟨rest.1, rfl, ?_⟩
    rintro ⟨more, hmore⟩
    exact rest.2 (hmore ▸ List.mem_cons_self)

/-- A piece does not go on with what can stand behind another one. -/
theorem eq_nil_of_opens {piece more back : List Char} (hpiece : Plain (piece ++ more))
    (hback : Opens back) (hmore : Opens (more ++ back)) : more = [] := by
  rcases hmore with hnil | ⟨behind, hbehind, hclosed⟩
  · exact (List.append_eq_nil_iff.mp hnil).1
  · match more, hbehind with
    | [], _ => rfl
    | [d], hbehind =>
      -- the dollar would be in the piece and its brace behind it, where another dollar stands
      obtain ⟨-, hbrace⟩ := List.cons.inj hbehind
      rcases hback with rfl | ⟨_, rfl, -⟩
      · cases hbrace
      · exact absurd (List.cons.inj hbrace).1 (by decide)
    | d :: e :: more, hbehind =>
      obtain ⟨rfl, hbrace⟩ := List.cons.inj hbehind
      obtain ⟨rfl, rfl⟩ := List.cons.inj hbrace
      obtain ⟨rest, rfl⟩ := hpiece piece more rfl
      exact absurd ⟨rest ++ back, rfl⟩ hclosed

/-- A text starts with one piece only. -/
theorem piece_unique {a b x y : List Char} (ha : Plain a) (hb : Plain b) (hx : Opens x)
    (hy : Opens y) (h : a ++ x = b ++ y) : a = b ∧ x = y := by
  rcases List.append_eq_append_iff.mp h with ⟨more, rfl, rfl⟩ | ⟨more, rfl, rfl⟩
  · obtain rfl := eq_nil_of_opens hb hy hx
    exact ⟨(List.append_nil a).symm, rfl⟩
  · obtain rfl := eq_nil_of_opens ha hx hy
    exact ⟨List.append_nil b, rfl⟩

/-! ## No text has two kinds of parts -/

theorem unclosedText_injective {rest rest' : Option Remainder}
    (h : unclosedText rest = unclosedText rest') : rest = rest' := by
  cases rest with
  | none =>
    cases rest' with
    | none => rfl
    | some rest' => cases h
  | some rest =>
    cases rest' with
    | none => cases h
    | some rest' =>
      rw [Subtype.ext (List.cons.inj (List.cons.inj h).2).2]

/-- A reference is no opening that is never closed. -/
theorem unclosedText_ne_reference_append (unclosed : Option Remainder) (name rest : List Char) :
    unclosedText unclosed ≠ reference name ++ rest := by
  intro h
  refine not_mem_unclosedText unclosed ?_
  rw [h, reference_append]
  simp

/-- **Parts with one text are the same parts.** -/
theorem text_injective {p q : Parts} (h : p.text = q.text) : p = q := by
  induction p generalizing q with
  | last piece rest =>
    cases q with
    | last piece' rest' =>
      obtain ⟨hpiece, hrest⟩ := piece_unique piece.2 piece'.2 (opens_unclosedText rest)
        (opens_unclosedText rest') h
      rw [Subtype.ext hpiece, unclosedText_injective hrest]
    | before piece' name more =>
      obtain ⟨-, hrest⟩ := piece_unique piece.2 piece'.2 (opens_unclosedText rest)
        (opens_reference name.2 _) h
      exact absurd hrest (unclosedText_ne_reference_append _ _ _)
  | before piece name more ih =>
    cases q with
    | last piece' rest =>
      obtain ⟨-, hrest⟩ := piece_unique piece.2 piece'.2 (opens_reference name.2 _)
        (opens_unclosedText rest) h
      exact absurd hrest.symm (unclosedText_ne_reference_append _ _ _)
    | before piece' name' more' =>
      obtain ⟨hpiece, hrest⟩ := piece_unique piece.2 piece'.2 (opens_reference name.2 _)
        (opens_reference name'.2 _) h
      obtain ⟨hname, hmore⟩ := reference_append_inj name.2 name'.2 hrest
      rw [Subtype.ext hpiece, Subtype.ext hname, ih hmore]

/-! ## Every text has parts -/

theorem plain_nil : Plain [] := by
  intro front back h
  simp at h

theorem Plain.of_cons {c : Char} {cs : List Char} (h : Plain (c :: cs)) : Plain cs :=
  fun front back hcs => h (c :: front) back (by rw [hcs, List.cons_append])

/-- The parts of a text start with a piece, and that piece can be exchanged. -/
theorem Parts.exists_text_eq (p : Parts) :
    ∃ (piece : Piece) (back : List Char), p.text = piece.1 ++ back ∧ Opens back
      ∧ ∀ other : Piece, ∃ q : Parts, q.text = other.1 ++ back := by
  cases p with
  | last piece rest =>
    exact ⟨piece, _, rfl, opens_unclosedText rest, fun other => ⟨last other rest, rfl⟩⟩
  | before piece name rest =>
    exact ⟨piece, _, rfl, opens_reference name.2 _, fun other => ⟨before other name rest, rfl⟩⟩

/-- A character in front of a text belongs to its first piece, unless it makes an opening there
that is one of a name or of nothing. -/
theorem exists_text_eq_cons {c : Char} {p : Parts}
    (h : ∀ back, c = '$' → p.text = '\x7b' :: back → ∃ rest, back = '\x7d' :: rest) :
    ∃ q : Parts, q.text = c :: p.text := by
  obtain ⟨piece, back, htext, hback, hexchange⟩ := p.exists_text_eq
  have hplain : Plain (c :: piece.1) := by
    intro front behind hsplit
    cases front with
    | cons d front => exact piece.2 front behind (List.cons.inj hsplit).2
    | nil =>
      obtain ⟨rfl, hpiece⟩ := List.cons.inj hsplit
      rw [hpiece] at htext
      obtain ⟨rest, hrest⟩ := h _ rfl htext
      cases behind with
      | cons d behind =>
        obtain ⟨rfl, -⟩ := List.cons.inj hrest
        exact ⟨behind, rfl⟩
      | nil =>
        rcases hback with rfl | ⟨_, rfl, -⟩
        · cases hrest
        · exact absurd (List.cons.inj hrest).1 (by decide)
  obtain ⟨q, hq⟩ := hexchange ⟨c :: piece.1, hplain⟩
  exact ⟨q, by rw [hq, htext, List.cons_append]⟩

/-- **Every text has parts**, those that are met when it is read. -/
theorem exists_parts (cs : List Char) : ∃ p : Parts, p.text = cs := by
  induction cs using Template.names.induct with
  | case1 => exact ⟨.last ⟨[], plain_nil⟩ none, rfl⟩
  | case2 cs name rest hread ih =>
    obtain ⟨p, hp⟩ := ih
    obtain ⟨hname, rfl⟩ := name?_eq_some_iff.mp hread
    refine ⟨.before ⟨[], plain_nil⟩ ⟨name, hname⟩ p, ?_⟩
    rw [← reference_append, ← hp]
    rfl
  | case3 cs hread ih =>
    obtain ⟨p, hp⟩ := ih
    rcases name?_eq_none_iff.mp hread with hopen | hclosed
    · exact ⟨.last ⟨[], plain_nil⟩ (some ⟨cs, hopen⟩), rfl⟩
    · rw [← hp]
      refine exists_text_eq_cons fun back _ hback => ?_
      rw [hp] at hback
      obtain rfl := (List.cons.inj hback).2
      exact hclosed
  | case4 c cs hopening ih =>
    obtain ⟨p, rfl⟩ := ih
    exact exists_text_eq_cons fun back hc hback => (hopening back hc hback).elim

/-! ## What is replaced -/

variable {env : Environment}

theorem expand_of_name {cs name rest : List Char} (h : name? cs = some (name, rest)) :
    expand env ('$' :: '\x7b' :: cs) = value env name ++ expand env rest := by
  rw [expand]
  split
  · rename_i hread
    obtain ⟨rfl, rfl⟩ := Prod.mk.inj (Option.some.inj (h.symm.trans hread))
    rfl
  · rename_i hread
    cases h.symm.trans hread

theorem expand_of_no_name {cs : List Char} (h : name? cs = none) :
    expand env ('$' :: '\x7b' :: cs) = '$' :: expand env ('\x7b' :: cs) := by
  rw [expand]
  split
  · rename_i hread
    cases h.symm.trans hread
  · rfl

/-- A character that starts no opening stays, and what is behind it is read on its own. -/
theorem expand_cons {c : Char} {cs : List Char} (h : ∀ back, c = '$' → cs ≠ '\x7b' :: back) :
    expand env (c :: cs) = c :: expand env cs := by
  rw [expand]
  exact h

/-- A reference is replaced, and what is behind it is read on its own. -/
theorem expand_reference {name : List Char} (hname : name ≠ [] ∧ '\x7d' ∉ name)
    (rest : List Char) :
    expand env (reference name ++ rest) = value env name ++ expand env rest := by
  rw [reference_append]
  exact expand_of_name (name?_eq_some_iff.mpr ⟨hname, rfl⟩)

/-- A piece stays, and what is behind it is read on its own. -/
theorem expand_piece {piece : List Char} (hpiece : Plain piece) {back : List Char}
    (hback : Opens back) : expand env (piece ++ back) = piece ++ expand env back := by
  induction piece with
  | nil => rfl
  | cons c piece ih =>
    have ih := ih hpiece.of_cons
    rw [List.cons_append, List.cons_append, ← ih]
    by_cases hopening : c = '$' ∧ ∃ behind, piece ++ back = '\x7b' :: behind
    · obtain ⟨rfl, behind, hbehind⟩ := hopening
      rw [hbehind]
      refine expand_of_no_name (name?_eq_none_iff.mpr (.inr ?_))
      cases piece with
      | nil =>
        rcases hback with rfl | ⟨_, rfl, -⟩
        · cases hbehind
        · exact absurd (List.cons.inj hbehind).1 (by decide)
      | cons d piece =>
        obtain ⟨rfl, rfl⟩ := List.cons.inj hbehind
        obtain ⟨rest, rfl⟩ := hpiece [] piece rfl
        exact ⟨rest ++ back, rfl⟩
    · exact expand_cons fun behind hc hbehind => hopening ⟨hc, behind, hbehind⟩

/-- Nothing is replaced where nothing is closed. -/
theorem expand_of_not_mem {cs : List Char} (h : '\x7d' ∉ cs) : expand env cs = cs := by
  induction cs with
  | nil => rw [expand]
  | cons c cs ih =>
    have hcs : '\x7d' ∉ cs := fun hmem => h (List.mem_cons_of_mem c hmem)
    by_cases hopening : c = '$' ∧ ∃ behind, cs = '\x7b' :: behind
    · obtain ⟨rfl, behind, rfl⟩ := hopening
      have hbehind : '\x7d' ∉ behind := fun hmem => hcs (List.mem_cons_of_mem _ hmem)
      rw [expand_of_no_name (name?_eq_none_iff.mpr (.inl hbehind)), ih hcs]
    · rw [expand_cons fun behind hc hbehind => hopening ⟨hc, behind, hbehind⟩, ih hcs]

/-- **What is replaced in a text are the references of its parts.** -/
theorem expand_text (p : Parts) : expand env p.text = p.write (value env) := by
  induction p with
  | last piece rest =>
    rw [Parts.text, Parts.write, Parts.write, expand_piece piece.2 (opens_unclosedText rest),
      expand_of_not_mem (not_mem_unclosedText rest)]
  | before piece name rest ih =>
    rw [Parts.text] at ih ⊢
    rw [Parts.write, Parts.write, expand_piece piece.2 (opens_reference name.2 _),
      expand_reference name.2, ih]

/-- What stands in the place of a reference: the value of its variable, or the reference. -/
theorem value_eq (name : List Char) :
    value env name = (env (String.ofList name)).elim (reference name) String.toList := by
  rw [value]
  cases env (String.ofList name) with
  | none => rfl
  | some v => rfl

/-- **A text is taken apart in one way, and its references are what is replaced.**  The values of
the variables that are set take the places of their references as they are, whatever is in them;
references to other variables stay, and so does all that is no reference.  So a text none of whose
variables is set comes back as it is. -/
theorem expanded_by_parts (text : String) :
    (∃! p : Parts, p.text = text.toList)
      ∧ ∀ p : Parts, p.text = text.toList → ∀ env : Environment,
          (expandText env text).toList
            = p.write (fun name =>
                (env (String.ofList name)).elim (reference name) String.toList)
          ∧ ((∀ name ∈ p.names, env name = none) → expandText env text = text) := by
  constructor
  · obtain ⟨p, hp⟩ := exists_parts text.toList
    exact ⟨p, hp, fun q hq => text_injective (hq.trans hp.symm)⟩
  · intro p hp env
    have hexpanded : (expandText env text).toList
        = p.write fun name => (env (String.ofList name)).elim (reference name) String.toList := by
      rw [expandText, String.toList_ofList, ← hp, expand_text]
      exact congrArg p.write (funext value_eq)
    refine ⟨hexpanded, fun hunset => String.toList_inj.mp ?_⟩
    rw [hexpanded, ← hp]
    exact Parts.write_congr fun name hname => by rw [hunset _ hname]; rfl

/-- A value is not looked into, a dollar in front of an opening stays, and an opening and a closing
brace alone are no reference. -/
example : expandText (fun name => if name = "A" then some "$\x7bA\x7d$1" else none)
      "$$\x7bA\x7d $\x7b\x7d $\x7bB\nC\x7d $\x7bA"
    = "$$\x7bA\x7d$1 $\x7b\x7d $\x7bB\nC\x7d $\x7bA" := by
  decide +kernel

end Template
end ToolPack
