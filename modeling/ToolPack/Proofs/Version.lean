import ToolPack.Version

/-!
# What a release version is made of

A text that is read as a version is the text of its parts: nothing is skipped and nothing is left.
Its numbers hold digits only, so all that stands in a version is a digit or belongs to a marker.

## What is here

* `after?_eq_some_iff`, `writePart_readPart`, `readPre_eq`, `joinChars_readRelease`: what a reader
  takes and what it leaves are what it was given;
* `write_of_parse?`: a version that was read writes the text that it was read from;
* `numbers_of_parse?`: its numbers hold digits only;
* `mem_of_isVersion`: the characters of a text that is a version.
-/

set_option autoImplicit false

namespace ToolPack
namespace Version

/-! ## What is read -/

/-- What stands behind a marker. -/
theorem after?_eq_some_iff {marker cs rest : List Char} :
    after? marker cs = some rest ↔ cs = marker ++ rest := by
  induction marker generalizing cs with
  | nil => simp [after?]
  | cons m marker ih =>
    cases cs with
    | nil => simp [after?]
    | cons c cs =>
      by_cases h : m = c
      · simp [after?, h, ih]
      · simp [after?, h, Ne.symm h]

/-- A part and what is behind it are the text. -/
theorem writePart_readPart (marker cs : List Char) :
    writePart marker (readPart marker cs).1 ++ (readPart marker cs).2 = cs := by
  rw [readPart]
  cases h : after? marker cs with
  | none => rfl
  | some rest =>
    have hcs := after?_eq_some_iff.mp h
    simp only
    split
    · simp [writePart, hcs, List.takeWhile_append_dropWhile]
    · rfl

/-- The number of a part holds digits only. -/
theorem isDecimalDigit_of_readPart {marker cs digits : List Char} {c : Char}
    (h : (readPart marker cs).1 = some digits) (hc : c ∈ digits) :
    Text.isDecimalDigit c = true := by
  rw [readPart] at h
  split at h
  · cases h
  · split at h
    · obtain rfl := Option.some.inj h
      exact List.all_eq_true.mp List.all_takeWhile c hc
    · cases h

/-- The text of an optional pre-release. -/
def writePre (pre : Option (PreRelease × Digits)) : List Char :=
  (pre.map fun p => p.1.letters ++ p.2).getD []

/-- A pre-release is read as the part behind its letters. -/
theorem readPre_eq (cs : List Char) :
    (readPre cs = (none, cs)) ∨ ∃ kind digits, readPre cs
      = (some (kind, digits), (readPart kind.letters cs).2)
        ∧ (readPart kind.letters cs).1 = some digits := by
  rw [readPre]
  split
  · rename_i digits rest h
    exact .inr ⟨.alpha, digits, by rw [h], by rw [h]⟩
  · split
    · rename_i digits rest h
      exact .inr ⟨.beta, digits, by rw [h], by rw [h]⟩
    · split
      · rename_i digits rest h
        exact .inr ⟨.candidate, digits, by rw [h], by rw [h]⟩
      · exact .inl rfl

theorem writePre_readPre (cs : List Char) :
    writePre (readPre cs).1 ++ (readPre cs).2 = cs := by
  rcases readPre_eq cs with h | ⟨kind, digits, h, hdigits⟩
  · rw [h]
    rfl
  · have hpart := writePart_readPart kind.letters cs
    rw [hdigits] at hpart
    rw [h]
    exact hpart

theorem readRelease_ne_nil (cs : List Char) : (readRelease cs).1 ≠ [] := by
  cases cs with
  | nil => simp [readRelease]
  | cons c cs =>
    rw [readRelease]
    split
    · exact Text.glue_ne_nil c _
    · split
      · exact List.cons_ne_nil _ _
      · exact List.cons_ne_nil _ _

/-- The numbers that a text starts with and what is behind them are the text. -/
theorem joinChars_readRelease (cs : List Char) :
    Text.joinChars '.' (readRelease cs).1 ++ (readRelease cs).2 = cs := by
  induction cs with
  | nil => rfl
  | cons c cs ih =>
    rw [readRelease]
    split
    · rw [Text.joinChars_glue _ _ _ (readRelease_ne_nil cs), List.cons_append, ih]
    · split
      · rename_i hdot
        rw [Text.joinChars_cons (readRelease_ne_nil cs), List.nil_append, List.cons_append, ih,
          hdot.1]
      · rfl

/-- The numbers that a text starts with hold digits only. -/
theorem isDecimalDigit_of_readRelease {cs digits : List Char} {c : Char}
    (h : digits ∈ (readRelease cs).1) (hc : c ∈ digits) : Text.isDecimalDigit c = true := by
  induction cs generalizing digits with
  | nil =>
    obtain rfl := List.mem_singleton.mp h
    cases hc
  | cons d cs ih =>
    rw [readRelease] at h
    split at h
    · rename_i hd
      cases hs : (readRelease cs).1 with
      | nil => exact absurd hs (readRelease_ne_nil cs)
      | cons first rest =>
        rw [hs] at h ih
        rcases List.mem_cons.mp h with rfl | h
        · rcases List.mem_cons.mp hc with rfl | hc
          · exact hd
          · exact ih List.mem_cons_self hc
        · exact ih (List.mem_cons_of_mem _ h) hc
    · split at h
      · rcases List.mem_cons.mp h with rfl | h
        · cases hc
        · exact ih h hc
      · obtain rfl := List.mem_singleton.mp h
        cases hc

/-! ## What was read -/

/-- The numbers of a version. -/
def numbers (v : Version) : List Digits :=
  v.release ++ (v.pre.map (·.2)).toList ++ v.post.toList ++ v.dev.toList

/-- The parts of a text that is a version, as they are read one after the other. -/
theorem parse?_eq_some {cs : List Char} {v : Version} (h : parse? cs = some v) :
    let release := readRelease cs
    let pre := readPre release.2
    let post := readPart postMarker pre.2
    let dev := readPart devMarker post.2
    v = ⟨release.1, pre.1, post.1, dev.1⟩ ∧ dev.2 = [] := by
  simp only [parse?] at h
  split at h
  · rename_i hends
    rw [Bool.and_eq_true, List.isEmpty_iff] at hends
    exact ⟨(Option.some.inj h).symm, hends.2⟩
  · cases h

/-- **A version that was read writes the text that it was read from.** -/
theorem write_of_parse? {cs : List Char} {v : Version} (h : parse? cs = some v) :
    v.write = cs := by
  obtain ⟨rfl, hends⟩ := parse?_eq_some h
  have hrelease := joinChars_readRelease cs
  have hpre := writePre_readPre (readRelease cs).2
  have hpost := writePart_readPart postMarker (readPre (readRelease cs).2).2
  have hdev := writePart_readPart devMarker
    (readPart postMarker (readPre (readRelease cs).2).2).2
  rw [hends, List.append_nil] at hdev
  show Text.joinChars '.' _ ++ writePre _ ++ writePart postMarker _ ++ writePart devMarker _ = cs
  rw [hdev, List.append_assoc, hpost, List.append_assoc, hpre, hrelease]

/-- The numbers of a version that was read hold digits only. -/
theorem numbers_of_parse? {cs digits : List Char} {v : Version} {c : Char}
    (h : parse? cs = some v) (hdigits : digits ∈ v.numbers) (hc : c ∈ digits) :
    Text.isDecimalDigit c = true := by
  obtain ⟨rfl, -⟩ := parse?_eq_some h
  simp only [numbers, List.mem_append, Option.mem_toList, Option.map_eq_some_iff] at hdigits
  rcases hdigits with ((hrelease | ⟨pre, hpre, rfl⟩) | hpost) | hdev
  · exact isDecimalDigit_of_readRelease hrelease hc
  · rcases readPre_eq (readRelease cs).2 with hnone | ⟨kind, digits, hread, hpart⟩
    · rw [hnone] at hpre
      cases hpre
    · rw [hread] at hpre
      obtain rfl := Option.some.inj hpre
      exact isDecimalDigit_of_readPart hpart hc
  · exact isDecimalDigit_of_readPart hpost hc
  · exact isDecimalDigit_of_readPart hdev hc

/-! ## The characters of a version -/

/-- The characters that stand in a version beside its digits. -/
def markerChars : List Char :=
  '.' :: ([PreRelease.alpha, .beta, .candidate].flatMap PreRelease.letters
    ++ postMarker ++ devMarker)

theorem mem_joinChars {sep c : Char} {pieces : List (List Char)}
    (h : c ∈ Text.joinChars sep pieces) : c = sep ∨ ∃ piece ∈ pieces, c ∈ piece := by
  induction pieces with
  | nil => cases h
  | cons piece pieces ih =>
    cases pieces with
    | nil => exact .inr ⟨piece, List.mem_cons_self, h⟩
    | cons next pieces =>
      rcases List.mem_append.mp h with hpiece | hrest
      · exact .inr ⟨piece, List.mem_cons_self, hpiece⟩
      · rcases List.mem_cons.mp hrest with hsep | hrest
        · exact .inl hsep
        · rcases ih hrest with hsep | ⟨other, hother, hc⟩
          · exact .inl hsep
          · exact .inr ⟨other, List.mem_cons_of_mem _ hother, hc⟩

theorem mem_writePart {marker : List Char} {digits : Option Digits} {c : Char}
    (h : c ∈ writePart marker digits) : c ∈ marker ∨ ∃ number ∈ digits, c ∈ number := by
  cases digits with
  | none => cases h
  | some number => exact (List.mem_append.mp h).imp_right fun hc => ⟨number, rfl, hc⟩

/-- What is written of a version stands in one of its numbers or in a marker. -/
theorem mem_write {v : Version} {c : Char} (h : c ∈ v.write) :
    c ∈ markerChars ∨ ∃ digits ∈ v.numbers, c ∈ digits := by
  simp only [write, List.mem_append] at h
  simp only [markerChars, numbers, List.mem_cons, List.mem_append, List.mem_flatMap,
    Option.mem_toList]
  rcases h with ((hrelease | hpre) | hpost) | hdev
  · rcases mem_joinChars hrelease with hdot | ⟨digits, hdigits, hc⟩
    · exact .inl (.inl hdot)
    · exact .inr ⟨digits, .inl (.inl (.inl hdigits)), hc⟩
  · cases hp : v.pre with
    | none => simp [hp] at hpre
    | some pre =>
      rw [hp] at hpre
      rcases List.mem_append.mp hpre with hletters | hc
      · refine .inl (.inr (.inl (.inl ⟨pre.1, ?_, hletters⟩)))
        cases pre.1 <;> simp
      · exact .inr ⟨pre.2, .inl (.inl (.inr (by simp))), hc⟩
  · rcases mem_writePart hpost with hmarker | ⟨digits, hdigits, hc⟩
    · exact .inl (.inr (.inl (.inr hmarker)))
    · exact .inr ⟨digits, .inl (.inr hdigits), hc⟩
  · rcases mem_writePart hdev with hmarker | ⟨digits, hdigits, hc⟩
    · exact .inl (.inr (.inr hmarker))
    · exact .inr ⟨digits, .inr hdigits, hc⟩

end Version

/-- All that stands in a text that is a version is a digit or belongs to a marker. -/
theorem mem_of_isVersion {text : String} {c : Char} (h : isVersion text = true)
    (hc : c ∈ text.toList) : Text.isDecimalDigit c = true ∨ c ∈ Version.markerChars := by
  obtain ⟨v, hv⟩ := Option.isSome_iff_exists.mp h
  rw [← Version.write_of_parse? hv] at hc
  rcases Version.mem_write hc with hmarker | ⟨digits, hdigits, hc⟩
  · exact .inr hmarker
  · exact .inl (Version.numbers_of_parse? hv hdigits hc)

/-- So a character that is neither does not stand in one. -/
theorem not_mem_of_isVersion {text : String} {c : Char} (h : isVersion text = true)
    (hdigit : Text.isDecimalDigit c = false) (hmarker : c ∉ Version.markerChars) :
    c ∉ text.toList := by
  intro hc
  rcases mem_of_isVersion h hc with hdigit' | hmarker'
  · rw [hdigit] at hdigit'
    cases hdigit'
  · exact hmarker hmarker'

end ToolPack
