import Mathlib.Data.List.Basic
import ToolPack.Proofs.Manifest.Accepted
import ToolPack.Proofs.Version

/-!
# What is a release version

Versions are read from left to right, and each reader takes what it can get.  A dot may join a
number, or start a `.post` or a `.dev`; since what stands behind it is a digit in the first case
only, no reader takes what belongs to the next one.  So what is read are exactly the texts of
versions, and each one has its parts only.

## What is here

* `IsNumber`, `WellFormed`: numbers, and the parts of a version;
* `wellFormed_of_parse?`: what is read is well formed;
* `Stops`: what no number goes on with; `readRelease_joinChars`, `readPart_writePart`,
  `readPre_writePre`: each reader reads what was written and leaves what is behind it;
* `parse?_write`: the text of a version is read as its parts;
* `version_accepted_iff`: what passes the check, and what is said of what does not.
-/

set_option autoImplicit false

namespace ToolPack
namespace Version

/-- A number has digits, and has digits only. -/
structure IsNumber (digits : Digits) : Prop where
  ne_nil : digits ≠ []
  isDigit : ∀ c ∈ digits, Text.isDecimalDigit c = true

/-- There is a number in front, and all numbers are numbers. -/
structure WellFormed (v : Version) : Prop where
  release_ne_nil : v.release ≠ []
  isNumber : ∀ digits ∈ v.numbers, IsNumber digits

/-! ## What is read is well formed -/

theorem startsWithDigit_iff {cs : List Char} :
    startsWithDigit cs = true ↔ ∃ c rest, cs = c :: rest ∧ Text.isDecimalDigit c = true := by
  cases cs with
  | nil => simp [startsWithDigit]
  | cons c rest => simp [startsWithDigit]

/-- Behind a dot every number has digits; the first number has some if the text starts with one. -/
theorem readRelease_eq_cons (cs : List Char) :
    ∃ first more, (readRelease cs).1 = first :: more ∧ (∀ digits ∈ more, digits ≠ [])
      ∧ (startsWithDigit cs = true → first ≠ []) := by
  induction cs with
  | nil => exact ⟨[], [], rfl, by simp, by simp [startsWithDigit]⟩
  | cons c cs ih =>
    obtain ⟨first, more, hread, hmore, hfirst⟩ := ih
    rw [readRelease]
    split
    · exact ⟨c :: first, more, by rw [hread]; rfl, hmore, fun _ => List.cons_ne_nil c first⟩
    · rename_i hdigit
      have hno : startsWithDigit (c :: cs) = true → ([] : Digits) ≠ [] :=
        fun hc => absurd hc hdigit
      split
      · rename_i hdot
        refine ⟨[], first :: more, by rw [hread], ?_, hno⟩
        exact List.forall_mem_cons.mpr ⟨hfirst hdot.2, hmore⟩
      · exact ⟨[], [], rfl, by simp, hno⟩

/-- The number of a part has digits. -/
theorem ne_nil_of_readPart {marker cs digits : List Char}
    (h : (readPart marker cs).1 = some digits) : digits ≠ [] := by
  rw [readPart] at h
  split at h
  · cases h
  · split at h
    · rename_i hdigit
      obtain ⟨c, rest, rfl, hc⟩ := startsWithDigit_iff.mp hdigit
      obtain rfl := Option.some.inj h
      simp [hc]
    · cases h

theorem startsWithDigit_of_parse? {cs : List Char} {v : Version} (h : parse? cs = some v) :
    startsWithDigit cs = true := by
  simp only [parse?] at h
  split at h
  · rename_i hends
    exact (Bool.and_eq_true_iff.mp hends).1
  · cases h

/-- **What is read as a version is well formed.** -/
theorem wellFormed_of_parse? {cs : List Char} {v : Version} (h : parse? cs = some v) :
    v.WellFormed := by
  have hstart := startsWithDigit_of_parse? h
  obtain ⟨hv, -⟩ := parse?_eq_some h
  obtain ⟨first, more, hread, hmore, hfirst⟩ := readRelease_eq_cons cs
  refine ⟨?_, fun digits hdigits => ⟨?_, fun c hc => numbers_of_parse? h hdigits hc⟩⟩
  · rw [hv]
    exact readRelease_ne_nil cs
  · rw [hv] at hdigits
    simp only [numbers, List.mem_append, Option.mem_toList, Option.map_eq_some_iff] at hdigits
    rcases hdigits with ((hrelease | ⟨pre, hpre, rfl⟩) | hpost) | hdev
    · rw [hread] at hrelease
      rcases List.mem_cons.mp hrelease with rfl | hlater
      · exact hfirst hstart
      · exact hmore digits hlater
    · rcases readPre_eq (readRelease cs).2 with hnone | ⟨kind, number, hsome, hpart⟩
      · rw [hnone] at hpre
        cases hpre
      · rw [hsome] at hpre
        obtain rfl := Option.some.inj hpre
        exact ne_nil_of_readPart hpart
    · exact ne_nil_of_readPart hpost
    · exact ne_nil_of_readPart hdev

/-! ## The numbers -/

/-- No number goes on with the text: it starts neither with a digit nor with a dot and a digit. -/
structure Stops (cs : List Char) : Prop where
  noDigit : startsWithDigit cs = false
  noDot : ∀ rest, cs = '.' :: rest → startsWithDigit rest = false

theorem IsNumber.startsWithDigit {digits : Digits} (h : IsNumber digits) (rest : List Char) :
    startsWithDigit (digits ++ rest) = true := by
  cases digits with
  | nil => exact absurd rfl h.ne_nil
  | cons c digits => exact h.isDigit c List.mem_cons_self

theorem IsNumber.startsWithDigit_joinChars {digits : Digits} (h : IsNumber digits)
    (release : List Digits) (rest : List Char) :
    Version.startsWithDigit (Text.joinChars '.' (digits :: release) ++ rest) = true := by
  cases release with
  | nil => exact h.startsWithDigit rest
  | cons next release =>
    rw [Text.joinChars_cons (List.cons_ne_nil _ _), List.append_assoc]
    exact h.startsWithDigit _

/-- Digits are read in front of the first number of what is behind them. -/
theorem readRelease_digits {digits : Digits} (h : ∀ c ∈ digits, Text.isDecimalDigit c = true)
    {cs : List Char} {more : List Digits} (hcs : (readRelease cs).1 = [] :: more) :
    readRelease (digits ++ cs) = (digits :: more, (readRelease cs).2) := by
  induction digits with
  | nil => exact Prod.ext hcs rfl
  | cons c digits ih =>
    obtain ⟨hc, hdigits⟩ := List.forall_mem_cons.mp h
    rw [List.cons_append, readRelease, if_pos hc, ih hdigits]
    rfl

theorem readRelease_of_stops {cs : List Char} (h : Stops cs) : readRelease cs = ([[]], cs) := by
  cases cs with
  | nil => rfl
  | cons c cs =>
    have hc : ¬ Text.isDecimalDigit c = true := by
      have hdigit := h.noDigit
      rwa [startsWithDigit, ← Bool.not_eq_true] at hdigit
    have hdot : ¬ (c = '.' ∧ startsWithDigit cs = true) := by
      rintro ⟨rfl, hcs⟩
      rw [h.noDot cs rfl] at hcs
      cases hcs
    rw [readRelease, if_neg hc, if_neg hdot]

/-- Joined numbers are read, up to what no number goes on with. -/
theorem readRelease_joinChars {release : List Digits} (hsome : release ≠ [])
    (h : ∀ digits ∈ release, IsNumber digits) {rest : List Char} (hrest : Stops rest) :
    readRelease (Text.joinChars '.' release ++ rest) = (release, rest) := by
  induction release with
  | nil => exact absurd rfl hsome
  | cons digits release ih =>
    obtain ⟨hdigits, hrelease⟩ := List.forall_mem_cons.mp h
    cases release with
    | nil =>
      have hstop := readRelease_of_stops hrest
      rw [Text.joinChars, readRelease_digits hdigits.isDigit (by rw [hstop]), hstop]
    | cons next release =>
      have hnext := (hrelease next List.mem_cons_self).startsWithDigit_joinChars release rest
      have hdot : readRelease ('.' :: (Text.joinChars '.' (next :: release) ++ rest))
          = ([] :: next :: release, rest) := by
        rw [readRelease, if_neg (by decide), if_pos ⟨rfl, hnext⟩,
          ih (List.cons_ne_nil _ _) hrelease]
      rw [Text.joinChars_cons (List.cons_ne_nil _ _), List.append_assoc, List.cons_append,
        readRelease_digits hdigits.isDigit (by rw [hdot]), hdot]

/-! ## What may stand behind a number -/

theorem stops_nil : Stops [] := ⟨rfl, fun _ h => nomatch h⟩

/-- A text that starts with some other character than a digit or a dot stops a number. -/
theorem stops_cons {c : Char} (hdigit : Text.isDecimalDigit c = false) (hdot : c ≠ '.')
    (cs : List Char) : Stops (c :: cs) :=
  ⟨hdigit, fun _ h => absurd (List.cons.inj h).1 hdot⟩

/-- So does a text that starts with a dot and something else than a digit. -/
theorem stops_dot_cons {c : Char} (hdigit : Text.isDecimalDigit c = false) (cs : List Char) :
    Stops ('.' :: c :: cs) := by
  have hdot : Text.isDecimalDigit '.' = false := by decide
  refine ⟨hdot, fun rest h => ?_⟩
  obtain rfl := (List.cons.inj h).2
  exact hdigit

theorem stops_writeDev (dev : Option Digits) : Stops (writePart devMarker dev) := by
  cases dev with
  | none => exact stops_nil
  | some digits => exact stops_dot_cons (by decide) _

theorem stops_writePost (post : Option Digits) {rest : List Char} (hrest : Stops rest) :
    Stops (writePart postMarker post ++ rest) := by
  cases post with
  | none => exact hrest
  | some digits => exact stops_dot_cons (by decide) _

theorem stops_writePre (pre : Option (PreRelease × Digits)) {rest : List Char}
    (hrest : Stops rest) : Stops (writePre pre ++ rest) := by
  match pre with
  | none => exact hrest
  | some (.alpha, digits) => exact stops_cons (by decide) (by decide) _
  | some (.beta, digits) => exact stops_cons (by decide) (by decide) _
  | some (.candidate, digits) => exact stops_cons (by decide) (by decide) _

/-! ## The parts behind the numbers -/

theorem span_of_noDigit {rest : List Char} (h : startsWithDigit rest = false) :
    rest.takeWhile Text.isDecimalDigit = [] ∧ rest.dropWhile Text.isDecimalDigit = rest := by
  cases rest with
  | nil => exact ⟨rfl, rfl⟩
  | cons c rest =>
    have hc : ¬ Text.isDecimalDigit c = true := by rwa [startsWithDigit, ← Bool.not_eq_true] at h
    exact ⟨List.takeWhile_cons_of_neg hc, List.dropWhile_cons_of_neg hc⟩

/-- A part is read behind its marker, up to what does not go on with a digit. -/
theorem readPart_some (marker : List Char) {digits rest : List Char} (hdigits : IsNumber digits)
    (hrest : startsWithDigit rest = false) :
    readPart marker (writePart marker (some digits) ++ rest) = (some digits, rest) := by
  have hmarker : after? marker (writePart marker (some digits) ++ rest) = some (digits ++ rest) :=
    after?_eq_some_iff.mpr (List.append_assoc _ _ _)
  obtain ⟨htake, hdrop⟩ := span_of_noDigit hrest
  rw [readPart, hmarker]
  simp only [hdigits.startsWithDigit, if_true]
  rw [List.takeWhile_append_of_pos hdigits.isDigit, List.dropWhile_append_of_pos hdigits.isDigit,
    htake, hdrop, List.append_nil]

theorem readPart_of_no_marker {marker cs : List Char} (h : after? marker cs = none) :
    readPart marker cs = (none, cs) := by
  rw [readPart, h]

/-- The last part is read to the end. -/
theorem readPart_writeDev {dev : Option Digits} (hdev : ∀ digits ∈ dev, IsNumber digits) :
    readPart devMarker (writePart devMarker dev) = (dev, []) := by
  cases dev with
  | none => rfl
  | some digits =>
    have hread := readPart_some devMarker (hdev digits rfl) stops_nil.noDigit
    rwa [List.append_nil] at hread

/-- The part before it is read and leaves the last one, though both start with a dot. -/
theorem readPart_writePost {post dev : Option Digits} (hpost : ∀ digits ∈ post, IsNumber digits) :
    readPart postMarker (writePart postMarker post ++ writePart devMarker dev)
      = (post, writePart devMarker dev) := by
  cases post with
  | none =>
    refine readPart_of_no_marker ?_
    cases dev with
    | none => rfl
    | some digits => rfl
  | some digits => exact readPart_some postMarker (hpost digits rfl) (stops_writeDev dev).noDigit

/-- A pre-release is read by its letters; the letters of no other kind stand in front of it. -/
theorem readPre_some (kind : PreRelease) {digits rest : List Char} (hdigits : IsNumber digits)
    (hrest : startsWithDigit rest = false) :
    readPre (writePart kind.letters (some digits) ++ rest) = (some (kind, digits), rest) := by
  have hread := readPart_some kind.letters hdigits hrest
  cases kind with
  | alpha => rw [readPre, hread]
  | beta => rw [readPre, readPart_of_no_marker rfl, hread]
  | candidate => rw [readPre, readPart_of_no_marker rfl, readPart_of_no_marker rfl, hread]

/-- Without one, what comes next is a dot or the end, and nothing is read. -/
theorem readPre_writePre {pre : Option (PreRelease × Digits)} {post dev : Option Digits}
    (hpre : ∀ p ∈ pre, IsNumber p.2) :
    readPre (writePre pre ++ (writePart postMarker post ++ writePart devMarker dev))
      = (pre, writePart postMarker post ++ writePart devMarker dev) := by
  cases pre with
  | none =>
    cases post with
    | some digits => rfl
    | none =>
      cases dev with
      | some digits => rfl
      | none => rfl
  | some p =>
    exact readPre_some p.1 (hpre p rfl) (stops_writePost post (stops_writeDev dev)).noDigit

/-- **The text of a version is read as its parts.** -/
theorem parse?_write {v : Version} (h : v.WellFormed) : parse? v.write = some v := by
  obtain ⟨release, pre, post, dev⟩ := v
  have hrelease : ∀ digits ∈ release, IsNumber digits := fun digits hd =>
    h.isNumber digits (by simp [numbers, hd])
  have hpre : ∀ p ∈ pre, IsNumber p.2 := fun p hp => h.isNumber p.2 (by simp_all [numbers])
  have hpost : ∀ digits ∈ post, IsNumber digits := fun digits hd =>
    h.isNumber digits (by simp_all [numbers])
  have hdev : ∀ digits ∈ dev, IsNumber digits := fun digits hd =>
    h.isNumber digits (by simp_all [numbers])
  have hwrite : write ⟨release, pre, post, dev⟩ = Text.joinChars '.' release
      ++ (writePre pre ++ (writePart postMarker post ++ writePart devMarker dev)) := by
    rw [← List.append_assoc, ← List.append_assoc]
    rfl
  have hstarts : startsWithDigit (write ⟨release, pre, post, dev⟩) = true := by
    rw [hwrite]
    cases release with
    | nil => exact absurd rfl h.release_ne_nil
    | cons digits release =>
      exact (hrelease digits List.mem_cons_self).startsWithDigit_joinChars release _
  have hread := readRelease_joinChars h.release_ne_nil hrelease
    (stops_writePre pre (stops_writePost post (stops_writeDev dev)))
  rw [← hwrite] at hread
  simp only [parse?, hread, readPre_writePre hpre, readPart_writePost hpost,
    readPart_writeDev hdev, hstarts]
  rfl

/-- A text has the parts of one version at most. -/
theorem write_injective {v w : Version} (hv : v.WellFormed) (hw : w.WellFormed)
    (h : v.write = w.write) : v = w := by
  have hread := parse?_write hv
  rw [h, parse?_write hw] at hread
  exact (Option.some.inj hread).symm

end Version

/-! ## The check -/

/-- What is read is the text of a version, and each text of a version is read. -/
theorem isVersion_iff {text : String} :
    isVersion text = true ↔ ∃ v : Version, v.WellFormed ∧ v.write = text.toList := by
  constructor
  · intro h
    obtain ⟨v, hv⟩ := Option.isSome_iff_exists.mp h
    exact ⟨v, Version.wellFormed_of_parse? hv, Version.write_of_parse? hv⟩
  · rintro ⟨v, hv, htext⟩
    rw [isVersion, ← htext, Version.parse?_write hv]
    rfl

/-- **A version passes its check exactly if it is the text of the parts of a version, which are
then the only ones; any other text is refused as no version, and the refusal holds the text.** -/
theorem version_accepted_iff (field value : String) :
    (Check.version field value = .ok () ↔ ∃ v : Version, v.WellFormed ∧ v.write = value.toList)
      ∧ (Check.version field value = .ok () →
          ∃! v : Version, v.WellFormed ∧ v.write = value.toList)
      ∧ (Check.version field value ≠ .ok () →
          Check.version field value = .error (.invalidValue field value .notAVersion)) := by
  have hiff : Check.version field value = .ok ()
      ↔ ∃ v : Version, v.WellFormed ∧ v.write = value.toList :=
    Check.version_eq_ok_iff.trans isVersion_iff
  refine ⟨hiff, fun hok => ?_, fun hrefused => ?_⟩
  · obtain ⟨v, hv, htext⟩ := hiff.mp hok
    refine ⟨v, ⟨hv, htext⟩, fun w hw => ?_⟩
    exact Version.write_injective hw.1 hv (hw.2.trans htext.symm)
  · rw [Ne, Check.version_eq_ok_iff, Bool.not_eq_true] at hrefused
    rw [Check.version, hrefused]
    rfl

/-- A digit of any script counts; a line end behind the last number does not. -/
example : isVersion "1.٢rc3.post4.dev5" = true ∧ isVersion "1.0\n" = false := by decide +kernel

end ToolPack
