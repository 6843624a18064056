import Mathlib.Data.List.Basic
import ToolPack.Text.Split

/-!
# Joined texts are cut where they were joined

Cutting and joining are those of lists in core, so their laws are too.  What is wanted of them is
this: a text that is put together with separators falls into the pieces of its parts, and parts
that hold no separator come back as they are.

## What is here

* `splitOn_append_cons`, `splitOn_of_not_mem`: the pieces of characters around a separator, and of
  characters without one;
* `pieces_append`, `pieces_of_not_mem`, `pieces_append_eq_pair_iff`: the same for texts;
* `not_mem_of_length_flatMap`: texts that are no more pieces than texts hold no separator;
* `pieces_joinLines`, `joinLines_pieces`: lines are cut as they were joined, and joined as they were
  cut.
-/

set_option autoImplicit false

namespace ToolPack
namespace Text

/-! ## Characters -/

/-- Cutting is the cutting of lists. -/
theorem splitOn_eq (sep : Char) (cs : List Char) : splitOn sep cs = cs.splitOn sep := by
  induction cs with
  | nil => rfl
  | cons c cs ih =>
    rw [List.splitOn_eq_splitOnP, List.splitOnP_cons_eq_if_modifyHead, ← List.splitOn_eq_splitOnP,
      ← ih, splitOn]
    by_cases h : c = sep
    · simp [h]
    · cases hs : splitOn sep cs with
      | nil => exact absurd hs (splitOn_ne_nil sep cs)
      | cons piece pieces => simp [h, glue]

/-- Characters around a separator fall into the pieces of both sides. -/
theorem splitOn_append_cons (sep : Char) (front back : List Char) :
    splitOn sep (front ++ sep :: back) = splitOn sep front ++ splitOn sep back := by
  simp only [splitOn_eq, List.splitOn_eq_splitOnP]
  exact List.splitOnP_append_cons front back (by simp)

/-- Characters without a separator are one piece. -/
theorem splitOn_of_not_mem {sep : Char} {cs : List Char} (h : sep ∉ cs) :
    splitOn sep cs = [cs] := by
  have hcut : ([sep].intercalate [cs]).splitOn sep = [cs] :=
    List.splitOn_intercalate sep (by simpa using h) (List.cons_ne_nil _ _)
  rwa [List.intercalate_singleton, ← splitOn_eq] at hcut

/-! ## Texts -/

theorem pieces_ne_nil (sep : Char) (text : String) : pieces sep text ≠ [] := by
  rw [pieces, Ne, List.map_eq_nil_iff]
  exact splitOn_ne_nil sep text.toList

/-- No piece holds the separator. -/
theorem not_mem_of_mem_pieces {sep : Char} {text piece : String} (h : piece ∈ pieces sep text) :
    sep ∉ piece.toList := by
  obtain ⟨cs, hcs, rfl⟩ := List.mem_map.mp h
  rw [String.toList_ofList]
  exact not_mem_of_mem_splitOn hcs

/-- A text around a separator falls into the pieces of both sides. -/
theorem pieces_append {sep : Char} {mark : String} (hmark : mark.toList = [sep])
    (front back : String) :
    pieces sep (front ++ mark ++ back) = pieces sep front ++ pieces sep back := by
  rw [pieces, String.toList_append, String.toList_append, hmark, List.append_assoc,
    List.singleton_append, splitOn_append_cons, List.map_append]
  rfl

/-- A text without a separator is one piece. -/
theorem pieces_of_not_mem {sep : Char} {text : String} (h : sep ∉ text.toList) :
    pieces sep text = [text] := by
  rw [pieces, splitOn_of_not_mem h, List.map_singleton, String.ofList_toList]

/-- A text that is one piece has no separator in it. -/
theorem not_mem_of_length_pieces {sep : Char} {text : String}
    (h : (pieces sep text).length ≤ 1) : sep ∉ text.toList := by
  have htext := joinChars_splitOn sep text.toList
  rw [pieces, List.length_map] at h
  match hpieces : splitOn sep text.toList with
  | [] => exact absurd hpieces (splitOn_ne_nil sep text.toList)
  | [piece] =>
    rw [hpieces, joinChars] at htext
    rw [← htext]
    exact not_mem_of_mem_splitOn (hpieces ▸ List.mem_singleton_self piece)
  | _ :: _ :: _ =>
    rw [hpieces] at h
    simp at h

/-- A text with one more separator is cut in two exactly if that is the only one. -/
theorem pieces_append_eq_pair_iff {sep : Char} {mark : String} (hmark : mark.toList = [sep])
    (front back : String) :
    pieces sep (front ++ mark ++ back) = [front, back]
      ↔ sep ∉ front.toList ∧ sep ∉ back.toList := by
  rw [pieces_append hmark]
  constructor
  · intro h
    have hlength := congrArg List.length h
    have hfront := List.length_pos_iff.mpr (pieces_ne_nil sep front)
    have hback := List.length_pos_iff.mpr (pieces_ne_nil sep back)
    rw [List.length_append, List.length_cons, List.length_singleton] at hlength
    exact ⟨not_mem_of_length_pieces (by omega), not_mem_of_length_pieces (by omega)⟩
  · rintro ⟨hfront, hback⟩
    rw [pieces_of_not_mem hfront, pieces_of_not_mem hback]
    rfl

/-- Every text is a piece at least. -/
theorem length_le_flatMap_pieces (sep : Char) (texts : List String) :
    texts.length ≤ (texts.flatMap (pieces sep)).length := by
  induction texts with
  | nil => exact Nat.le_refl 0
  | cons text texts ih =>
    have htext := List.length_pos_iff.mpr (pieces_ne_nil sep text)
    rw [List.flatMap_cons, List.length_append, List.length_cons]
    omega

/-- Texts that are no more pieces than texts have no separator in them. -/
theorem not_mem_of_length_flatMap {sep : Char} {texts : List String}
    (h : (texts.flatMap (pieces sep)).length ≤ texts.length) :
    ∀ text ∈ texts, sep ∉ text.toList := by
  induction texts with
  | nil => exact fun text htext => absurd htext List.not_mem_nil
  | cons text texts ih =>
    have htext := List.length_pos_iff.mpr (pieces_ne_nil sep text)
    have htexts := length_le_flatMap_pieces sep texts
    rw [List.flatMap_cons, List.length_append, List.length_cons] at h
    exact List.forall_mem_cons.mpr ⟨not_mem_of_length_pieces (by omega), ih (by omega)⟩

/-! ## Lines -/

theorem joinLines_cons {line : String} {lines : List String} (h : lines ≠ []) :
    joinLines (line :: lines) = line ++ "\n" ++ joinLines lines := by
  cases lines with
  | nil => exact absurd rfl h
  | cons next lines => rfl

/-- Joined lines fall into the pieces of each of them, if there are lines. -/
theorem pieces_joinLines_eq_flatMap {lines : List String} (hsome : lines ≠ []) :
    pieces '\n' (joinLines lines) = lines.flatMap (pieces '\n') := by
  induction lines with
  | nil => exact absurd rfl hsome
  | cons line lines ih =>
    by_cases hnil : lines = []
    · rw [hnil, List.flatMap_singleton]
      rfl
    · rw [joinLines_cons hnil, pieces_append rfl, ih hnil, List.flatMap_cons]

/-- Lines are cut as they were joined, if there are lines and none has a line feed in it. -/
theorem pieces_joinLines {lines : List String} (hsome : lines ≠ [])
    (h : ∀ line ∈ lines, '\n' ∉ line.toList) : pieces '\n' (joinLines lines) = lines := by
  rw [pieces_joinLines_eq_flatMap hsome, List.flatMap_congr fun line hline =>
    pieces_of_not_mem (h line hline), List.flatMap_singleton']

theorem toList_joinLines (lines : List String) :
    (joinLines lines).toList = joinChars '\n' (lines.map String.toList) := by
  induction lines with
  | nil => rfl
  | cons line lines ih =>
    cases lines with
    | nil => rfl
    | cons next lines =>
      rw [joinLines_cons (List.cons_ne_nil _ _), String.toList_append, String.toList_append, ih]
      exact List.append_assoc _ _ _

/-- A text is its lines, joined. -/
theorem joinLines_pieces (text : String) : joinLines (pieces '\n' text) = text := by
  have htext := joinChars_splitOn '\n' text.toList
  refine String.toList_inj.mp ?_
  rw [toList_joinLines, pieces, List.map_map]
  simpa [Function.comp_def] using htext

end Text
end ToolPack
