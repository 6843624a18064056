import Mathlib.Computability.Language
import ToolPack.Proofs.Package.Sample
import ToolPack.Proofs.Version.Grammar

/-!
# Accepted versions and public versions

PEP 440 writes a public version as `[N!]N(.N)*[{a|b|rc}N][.postN][.devN]`, where `N` is one or more
of the digits `0` to `9`.  The pattern that a version is checked with is this one without the epoch
in front, but its digits are the decimal digits of every script.  So the two differ in the digits
alone: an accepted version is a public version exactly if no digit of another script is in it, and
these digits are all that it can have outside of ASCII.

## What is here

* `digitRuns`, `releases`, `publicVersions`: the two patterns, as languages over the characters;
* `mem_releases_iff`: a release is the text of the parts of a version;
* `isVersion_iff_mem_releases`: what is read as a version are the releases whose digits are of any
  script;
* `accepted_version_public_iff`: the accepted versions that are public versions;
* `foreign_digit_is_no_public_version`: a package that is built and whose version is none.
-/

set_option autoImplicit false

namespace ToolPack
namespace Version

open scoped Computability

/-! ## The two patterns -/

/-- The language of one text. -/
def word (text : String) : Language Char := {text.toList}

/-- One digit or more. -/
def digitRuns (digit : Char → Bool) : Language Char :=
  {cs | cs ≠ [] ∧ ∀ c ∈ cs, digit c = true}

/-- Releases with numbers of a kind: `N(.N)*[{a|b|rc}N][.postN][.devN]`. -/
def releases (N : Language Char) : Language Char :=
  N * (word "." * N)∗ * (1 + (word "a" + word "b" + word "rc") * N)
    * (1 + word ".post" * N) * (1 + word ".dev" * N)

/-- Public versions: `[N!]N(.N)*[{a|b|rc}N][.postN][.devN]`, with the digits `0` to `9`. -/
def publicVersions : Language Char :=
  (1 + digitRuns Char.isDigit * word "!") * releases (digitRuns Char.isDigit)

/-! ## The parts of a release -/

variable {N : Language Char} {cs : List Char}

theorem mem_word_mul_iff {text : String} :
    cs ∈ word text * N ↔ ∃ digits ∈ N, text.toList ++ digits = cs := by
  rw [Language.mem_mul]
  constructor
  · rintro ⟨front, rfl, digits, hdigits, rfl⟩
    exact ⟨digits, hdigits, rfl⟩
  · rintro ⟨digits, hdigits, rfl⟩
    exact ⟨_, rfl, digits, hdigits, rfl⟩

/-- Pieces with a dot in front of each. -/
theorem mem_dotted_iff :
    cs ∈ (word "." * N)∗
      ↔ ∃ more : List Digits, (∀ digits ∈ more, digits ∈ N) ∧ more.flatMap ('.' :: ·) = cs := by
  rw [Language.mem_kstar]
  constructor
  · rintro ⟨pieces, rfl, hpieces⟩
    induction pieces with
    | nil => exact ⟨[], by simp, rfl⟩
    | cons piece pieces ih =>
      obtain ⟨hpiece, hrest⟩ := List.forall_mem_cons.mp hpieces
      obtain ⟨digits, hdigits, rfl⟩ := mem_word_mul_iff.mp hpiece
      obtain ⟨more, hmore, hjoined⟩ := ih hrest
      refine ⟨digits :: more, List.forall_mem_cons.mpr ⟨hdigits, hmore⟩, ?_⟩
      rw [List.flatMap_cons, hjoined]
      rfl
  · rintro ⟨more, hmore, rfl⟩
    refine ⟨more.map ('.' :: ·), List.flatMap_def, List.forall_mem_map.mpr fun digits hdigits => ?_⟩
    exact mem_word_mul_iff.mpr ⟨digits, hmore digits hdigits, rfl⟩

theorem joinChars_eq (digits : Digits) (more : List Digits) :
    Text.joinChars '.' (digits :: more) = digits ++ more.flatMap ('.' :: ·) := by
  induction more generalizing digits with
  | nil => simp [Text.joinChars]
  | cons next more ih =>
    rw [Text.joinChars_cons (List.cons_ne_nil _ _), ih, List.flatMap_cons, List.cons_append]

theorem mem_joinChars_of_mem {release : List Digits} {digits : Digits} {c : Char}
    (h : digits ∈ release) (hc : c ∈ digits) : c ∈ Text.joinChars '.' release := by
  obtain ⟨first, more, rfl⟩ := List.exists_cons_of_ne_nil (List.ne_nil_of_mem h)
  rw [joinChars_eq]
  rcases List.mem_cons.mp h with rfl | h
  · exact List.mem_append_left _ hc
  · exact List.mem_append_right _ (List.mem_flatMap.mpr ⟨digits, h, List.mem_cons_of_mem _ hc⟩)

theorem mem_joined_iff :
    cs ∈ N * (word "." * N)∗ ↔ ∃ release : List Digits,
      release ≠ [] ∧ (∀ digits ∈ release, digits ∈ N) ∧ Text.joinChars '.' release = cs := by
  rw [Language.mem_mul]
  constructor
  · rintro ⟨digits, hdigits, rest, hrest, rfl⟩
    obtain ⟨more, hmore, rfl⟩ := mem_dotted_iff.mp hrest
    exact ⟨digits :: more, List.cons_ne_nil _ _, List.forall_mem_cons.mpr ⟨hdigits, hmore⟩,
      joinChars_eq digits more⟩
  · rintro ⟨release, hsome, hrelease, rfl⟩
    obtain ⟨digits, more, rfl⟩ := List.exists_cons_of_ne_nil hsome
    obtain ⟨hdigits, hmore⟩ := List.forall_mem_cons.mp hrelease
    exact ⟨digits, hdigits, _, mem_dotted_iff.mpr ⟨more, hmore, rfl⟩,
      (joinChars_eq digits more).symm⟩

theorem mem_part_iff {marker : String} :
    cs ∈ 1 + word marker * N ↔ ∃ part : Option Digits,
      (∀ digits ∈ part, digits ∈ N) ∧ writePart marker.toList part = cs := by
  rw [Language.mem_add, Language.mem_one, mem_word_mul_iff]
  constructor
  · rintro (rfl | ⟨digits, hdigits, rfl⟩)
    · exact ⟨none, by simp, rfl⟩
    · exact ⟨some digits, by simpa using hdigits, rfl⟩
  · rintro ⟨part, hpart, rfl⟩
    cases part with
    | none => exact .inl rfl
    | some digits => exact .inr ⟨digits, hpart digits rfl, rfl⟩

theorem mem_pre_iff :
    cs ∈ 1 + (word "a" + word "b" + word "rc") * N ↔ ∃ pre : Option (PreRelease × Digits),
      (∀ p ∈ pre, p.2 ∈ N) ∧ writePre pre = cs := by
  simp only [Language.mem_add, Language.mem_one, add_mul, mem_word_mul_iff]
  constructor
  · rintro (rfl | (⟨digits, hdigits, rfl⟩ | ⟨digits, hdigits, rfl⟩) | ⟨digits, hdigits, rfl⟩)
    · exact ⟨none, by simp, rfl⟩
    · exact ⟨some (.alpha, digits), by simpa using hdigits, rfl⟩
    · exact ⟨some (.beta, digits), by simpa using hdigits, rfl⟩
    · exact ⟨some (.candidate, digits), by simpa using hdigits, rfl⟩
  · rintro ⟨pre, hpre, rfl⟩
    match pre, hpre with
    | none, _ => exact .inl rfl
    | some (.alpha, digits), hpre => exact .inr (.inl (.inl ⟨digits, hpre _ rfl, rfl⟩))
    | some (.beta, digits), hpre => exact .inr (.inl (.inr ⟨digits, hpre _ rfl, rfl⟩))
    | some (.candidate, digits), hpre => exact .inr (.inr ⟨digits, hpre _ rfl, rfl⟩)

/-- All numbers of a version are of a kind if those of each of its parts are. -/
theorem forall_numbers_iff {v : Version} :
    (∀ digits ∈ v.numbers, digits ∈ N) ↔ (∀ digits ∈ v.release, digits ∈ N)
      ∧ (∀ p ∈ v.pre, p.2 ∈ N) ∧ (∀ digits ∈ v.post, digits ∈ N)
      ∧ ∀ digits ∈ v.dev, digits ∈ N := by
  simp only [numbers, List.forall_mem_append, Option.mem_toList, Option.map_eq_some_iff,
    and_assoc, forall_exists_index, and_imp, forall_apply_eq_imp_iff₂, Option.mem_def]

/-- **The releases with numbers of a kind are the texts of the versions with such numbers.** -/
theorem mem_releases_iff :
    cs ∈ releases N
      ↔ ∃ v : Version, v.release ≠ [] ∧ (∀ digits ∈ v.numbers, digits ∈ N) ∧ v.write = cs := by
  rw [releases, Language.mem_mul]
  constructor
  · rintro ⟨upToPost, hupToPost, devText, hdevText, rfl⟩
    obtain ⟨upToPre, hupToPre, postText, hpostText, rfl⟩ := Language.mem_mul.mp hupToPost
    obtain ⟨joined, hjoined, preText, hpreText, rfl⟩ := Language.mem_mul.mp hupToPre
    obtain ⟨release, hsome, hrelease, rfl⟩ := mem_joined_iff.mp hjoined
    obtain ⟨pre, hpre, rfl⟩ := mem_pre_iff.mp hpreText
    obtain ⟨post, hpost, rfl⟩ := mem_part_iff.mp hpostText
    obtain ⟨dev, hdev, rfl⟩ := mem_part_iff.mp hdevText
    exact ⟨⟨release, pre, post, dev⟩, hsome, forall_numbers_iff.mpr ⟨hrelease, hpre, hpost, hdev⟩,
      rfl⟩
  · rintro ⟨v, hsome, hnumbers, rfl⟩
    obtain ⟨hrelease, hpre, hpost, hdev⟩ := forall_numbers_iff.mp hnumbers
    refine ⟨_, ?_, _, mem_part_iff.mpr ⟨v.dev, hdev, rfl⟩, rfl⟩
    refine Language.append_mem_mul ?_ (mem_part_iff.mpr ⟨v.post, hpost, rfl⟩)
    refine Language.append_mem_mul ?_ (mem_pre_iff.mpr ⟨v.pre, hpre, rfl⟩)
    exact mem_joined_iff.mpr ⟨v.release, hsome, hrelease, rfl⟩

/-- What is in a release stands in one of its numbers or in a marker. -/
theorem mem_of_mem_releases {c : Char} (h : cs ∈ releases N) (hc : c ∈ cs) :
    c ∈ markerChars ∨ ∃ digits ∈ N, c ∈ digits := by
  obtain ⟨v, -, hnumbers, rfl⟩ := mem_releases_iff.mp h
  rcases mem_write hc with hmarker | ⟨digits, hdigits, hc⟩
  · exact .inl hmarker
  · exact .inr ⟨digits, hnumbers digits hdigits, hc⟩

/-- The numbers of a version are written. -/
theorem mem_write_of_mem_numbers {v : Version} {digits : Digits} {c : Char}
    (h : digits ∈ v.numbers) (hc : c ∈ digits) : c ∈ v.write := by
  simp only [numbers, List.mem_append, Option.mem_toList, Option.map_eq_some_iff] at h
  simp only [write, List.mem_append]
  rcases h with ((hrelease | ⟨pre, hpre, rfl⟩) | hpost) | hdev
  · exact .inl (.inl (.inl (mem_joinChars_of_mem hrelease hc)))
  · exact .inl (.inl (.inr (by rw [hpre]; exact List.mem_append_right _ hc)))
  · exact .inl (.inr (by rw [hpost]; exact List.mem_append_right _ hc))
  · exact .inr (by rw [hdev]; exact List.mem_append_right _ hc)

/-- **What is read as a version are the releases whose digits are of any script.** -/
theorem isVersion_iff_mem_releases {text : String} :
    isVersion text = true ↔ text.toList ∈ releases (digitRuns Text.isDecimalDigit) := by
  rw [isVersion_iff, mem_releases_iff]
  constructor
  · rintro ⟨v, hv, htext⟩
    exact ⟨v, hv.release_ne_nil, fun digits hdigits =>
      ⟨(hv.isNumber digits hdigits).ne_nil, (hv.isNumber digits hdigits).isDigit⟩, htext⟩
  · rintro ⟨v, hsome, hnumbers, htext⟩
    exact ⟨v, ⟨hsome, fun digits hdigits =>
      ⟨(hnumbers digits hdigits).1, (hnumbers digits hdigits).2⟩⟩, htext⟩

/-! ## Digits of other scripts -/

/-- The digits of ASCII are `0` to `9`; those of the other scripts are far behind it. -/
theorem isDigit_iff_of_isDecimalDigit {c : Char} (h : Text.isDecimalDigit c = true) :
    c.isDigit = true ↔ c.toNat < 128 := by
  have hrange : c.isDigit = true ↔ 0x30 ≤ c.toNat ∧ c.toNat ≤ 0x39 := by
    rw [Char.isDigit, Bool.and_eq_true, decide_eq_true_eq, decide_eq_true_eq]
    exact Iff.rfl
  have hfar : ∀ first ∈ Text.digitZeros, first = 0x30 ∨ 128 ≤ first := by decide
  obtain ⟨first, hfirst, hc⟩ := List.any_eq_true.mp h
  specialize hfar first hfirst
  simp only [Bool.and_eq_true, decide_eq_true_eq] at hc
  rw [hrange]
  omega

theorem ascii_of_mem_markerChars {c : Char} (h : c ∈ markerChars) : c.toNat < 128 := by
  have hall : markerChars.all (·.toNat < 128) = true := by decide
  exact of_decide_eq_true (List.all_eq_true.mp hall c h)

/-- A public version is written in ASCII. -/
theorem ascii_of_mem_publicVersions {c : Char} (h : cs ∈ publicVersions) (hc : c ∈ cs) :
    c.toNat < 128 := by
  have hnumber : ∀ digits ∈ digitRuns Char.isDigit, ∀ c ∈ digits, c.toNat < 128 := by
    intro digits hdigits c hc
    have hdigit := hdigits.2 c hc
    exact (isDigit_iff_of_isDecimalDigit (Text.isDecimalDigit_of_isDigit hdigit)).mp hdigit
  obtain ⟨epoch, hepoch, release, hrelease, rfl⟩ := Language.mem_mul.mp h
  rcases List.mem_append.mp hc with hc | hc
  · rcases hepoch with rfl | ⟨digits, hdigits, mark, rfl, rfl⟩
    · cases hc
    · rcases List.mem_append.mp hc with hc | hc
      · exact hnumber digits hdigits c hc
      · obtain rfl := List.mem_singleton.mp hc
        decide
  · rcases mem_of_mem_releases hrelease hc with hmarker | ⟨digits, hdigits, hc⟩
    · exact ascii_of_mem_markerChars hmarker
    · exact hnumber digits hdigits c hc

/-- A release without digits of other scripts is a public version, with no epoch in front. -/
theorem mem_publicVersions_of_isDigit
    (h : cs ∈ releases (digitRuns Text.isDecimalDigit))
    (hdigits : ∀ c ∈ cs, Text.isDecimalDigit c = true → c.isDigit = true) :
    cs ∈ publicVersions := by
  obtain ⟨v, hsome, hnumbers, rfl⟩ := mem_releases_iff.mp h
  have hdecimal : ∀ digits ∈ v.numbers, digits ∈ digitRuns Char.isDigit := fun digits hmem =>
    ⟨(hnumbers digits hmem).1, fun c hc =>
      hdigits c (mem_write_of_mem_numbers hmem hc) ((hnumbers digits hmem).2 c hc)⟩
  have hrelease := mem_releases_iff.mpr ⟨v, hsome, hdecimal, rfl⟩
  have hepoch : [] ∈ 1 + digitRuns Char.isDigit * word "!" := .inl rfl
  exact List.nil_append v.write ▸ Language.append_mem_mul hepoch hrelease

end Version

/-! ## Accepted versions -/

/-- **An accepted version is a public version exactly if no digit of another script is in it, and
so it is exactly if it is written in ASCII.** -/
theorem accepted_version_public_iff {field value : String}
    (h : Check.version field value = .ok ()) :
    (value.toList ∈ Version.publicVersions
        ↔ ∀ c ∈ value.toList, Text.isDecimalDigit c = true → c.isDigit = true)
      ∧ ((∀ c ∈ value.toList, c.toNat < 128)
        ↔ ∀ c ∈ value.toList, Text.isDecimalDigit c = true → c.isDigit = true) := by
  have hversion := Check.version_eq_ok_iff.mp h
  have hrelease := Version.isVersion_iff_mem_releases.mp hversion
  have hascii : (∀ c ∈ value.toList, c.toNat < 128)
      → ∀ c ∈ value.toList, Text.isDecimalDigit c = true → c.isDigit = true :=
    fun hsmall c hc hdigit => (Version.isDigit_iff_of_isDecimalDigit hdigit).mpr (hsmall c hc)
  refine ⟨⟨fun hpublic => ?_, fun hdigits => ?_⟩, hascii, fun hdigits c hc => ?_⟩
  · exact hascii fun c hc => Version.ascii_of_mem_publicVersions hpublic hc
  · exact Version.mem_publicVersions_of_isDigit hrelease hdigits
  · rcases mem_of_isVersion hversion hc with hdigit | hmarker
    · exact (Version.isDigit_iff_of_isDecimalDigit hdigit).mp (hdigits c hc hdigit)
    · exact Version.ascii_of_mem_markerChars hmarker

/-- A version with every part, each with digits of ASCII only. -/
theorem full_version_is_public :
    Check.version "package.version" "1.2rc3.post4.dev5" = .ok ()
      ∧ "1.2rc3.post4.dev5".toList ∈ Version.publicVersions
      ∧ ∀ c ∈ "1.2rc3.post4.dev5".toList, c.toNat < 128 := by
  have haccepted : Check.version "package.version" "1.2rc3.post4.dev5" = .ok () := by
    decide +kernel
  have hall : "1.2rc3.post4.dev5".toList.all (·.toNat < 128) = true := by decide +kernel
  have hsmall : ∀ c ∈ "1.2rc3.post4.dev5".toList, c.toNat < 128 :=
    fun c hc => of_decide_eq_true (List.all_eq_true.mp hall c hc)
  obtain ⟨hpublic, hascii⟩ := accepted_version_public_iff haccepted
  exact ⟨haccepted, hpublic.mpr (hascii.mp hsmall), hsmall⟩

/-- A version with a digit of another script: it is accepted, the package is built, and no reader of
public versions takes what its header and the name of its archive say. -/
theorem foreign_digit_is_no_public_version :
    let m : Manifest := { (Package.kit {} {}).withDist with
      package := { Package.kitMetadata with version := "١.0" } }
    let r : Resolved := ⟨m.package, m.plan⟩
    let ran := (Package.run r).run Storage.Memory.handler Package.kitFiles
    Check.version "package.version" "١.0" = .ok ()
      ∧ "١.0".toList ∉ Version.publicVersions ∧ (¬ ∀ c ∈ "١.0".toList, c.toNat < 128)
      ∧ m.resolve (fun _ => none) = .ok r ∧ ran.result.isOk = true
      ∧ "Version: ١.0" ∈ PkgInfo.headers r.metadata
      ∧ (ran.state.get? ⟨"./dist/kit-١.0.zip"⟩).isSome = true := by
  intro m r ran
  have hforeign : ∃ c ∈ "١.0".toList, ¬ c.toNat < 128 := ⟨'١', by decide, by decide⟩
  obtain ⟨c, hc, hfar⟩ := hforeign
  refine ⟨by decide +kernel, fun hpublic => hfar (Version.ascii_of_mem_publicVersions hpublic hc),
    fun hascii => hfar (hascii c hc), Manifest.resolve_eq_of_isOk (by decide +kernel),
    by decide +kernel, by decide +kernel, by decide +kernel⟩

end ToolPack
