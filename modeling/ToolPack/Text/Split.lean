/-!
# Cutting texts at a separator and joining them again

Paths, archive records and package headers are all sequences of pieces with a separator between
them.  The cut works on lists of characters, where every step can be reasoned about, and the
join on texts, where the program writes them.

## What is here

* `splitOn`: the pieces between the separators, one more than there are separators;
* `joinChars`: the pieces with the separator between them, so that cutting and joining undo each
  other (`joinChars_splitOn`);
* `joinLines`: texts joined by line feeds.
-/

set_option autoImplicit false

namespace ToolPack
namespace Text

/-- Puts `c` in front of the first piece. -/
def glue (c : Char) : List (List Char) → List (List Char)
  | [] => [[c]]
  | piece :: pieces => (c :: piece) :: pieces

/-- The pieces between the separators.  A text without the separator is one piece. -/
def splitOn (sep : Char) : List Char → List (List Char)
  | [] => [[]]
  | c :: cs => if c = sep then [] :: splitOn sep cs else glue c (splitOn sep cs)

/-- The pieces with the separator between each two. -/
def joinChars (sep : Char) : List (List Char) → List Char
  | [] => []
  | [piece] => piece
  | piece :: pieces => piece ++ sep :: joinChars sep pieces

/-- The pieces of a text, as texts. -/
def pieces (sep : Char) (text : String) : List String :=
  (splitOn sep text.toList).map String.ofList

/-- The lines joined by line feeds, without one after the last. -/
def joinLines : List String → String
  | [] => ""
  | [line] => line
  | line :: lines => line ++ "\n" ++ joinLines lines

/-! ## Laws -/

theorem glue_ne_nil (c : Char) (ps : List (List Char)) : glue c ps ≠ [] := by
  cases ps <;> simp [glue]

theorem splitOn_ne_nil (sep : Char) (cs : List Char) : splitOn sep cs ≠ [] := by
  cases cs with
  | nil => simp [splitOn]
  | cons c cs =>
    by_cases h : c = sep
    · simp [splitOn, h]
    · simpa [splitOn, h] using glue_ne_nil c (splitOn sep cs)

theorem joinChars_cons {sep : Char} {piece : List Char} {pieces : List (List Char)}
    (h : pieces ≠ []) : joinChars sep (piece :: pieces) = piece ++ sep :: joinChars sep pieces := by
  cases pieces with
  | nil => exact absurd rfl h
  | cons next pieces => rfl

theorem joinChars_glue (sep c : Char) (ps : List (List Char)) (h : ps ≠ []) :
    joinChars sep (glue c ps) = c :: joinChars sep ps := by
  match ps with
  | [] => exact absurd rfl h
  | [p] => rfl
  | p :: q :: ps => rfl

/-- Nothing is lost by cutting. -/
theorem joinChars_splitOn (sep : Char) (cs : List Char) :
    joinChars sep (splitOn sep cs) = cs := by
  induction cs with
  | nil => rfl
  | cons c cs ih =>
    by_cases h : c = sep
    · rw [splitOn, if_pos h, joinChars_cons (splitOn_ne_nil sep cs), ih, List.nil_append, h]
    · rw [splitOn, if_neg h, joinChars_glue sep c _ (splitOn_ne_nil sep cs), ih]

/-- No piece holds the separator. -/
theorem not_mem_of_mem_splitOn {sep : Char} {cs p : List Char} (h : p ∈ splitOn sep cs) :
    sep ∉ p := by
  induction cs generalizing p with
  | nil => simp [splitOn] at h; simp [h]
  | cons c cs ih =>
    by_cases hc : c = sep
    · rw [splitOn, if_pos hc] at h
      rcases List.mem_cons.mp h with rfl | h
      · simp
      · exact ih h
    · rw [splitOn, if_neg hc] at h
      cases hs : splitOn sep cs with
      | nil => exact absurd hs (splitOn_ne_nil sep cs)
      | cons q qs =>
        rw [hs, glue] at h
        rcases List.mem_cons.mp h with rfl | h
        · have : sep ∉ q := ih (by simp [hs])
          simp [this, Ne.symm hc]
        · exact ih (by simp [hs, h])

end Text
end ToolPack
