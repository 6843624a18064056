import Mathlib.Data.Nat.Find
import Mathlib.Order.Bounds.Defs
import ToolPack.Proofs.Manifest.Accepted
import ToolPack.Proofs.Steps

/-!
# Which name of a list is refused

The names of a list are checked one after the other, and each is compared with those before it.  So
a list falls into a front that passes, the first name with which it does not, and names that are
never looked at.  What is reported depends on that first name alone: it is refused for its own
looks if they are wrong, and as a repetition if they are not.

## What is here

* `Ordinary`: what a name has to look like, character by character; `plainName_iff_ordinary`;
* `Check.plainNamesAfter_append`: a list is checked as its front, and then its back against the
  front;
* `Check.refusalOf`, `Check.plainNamesAfter_singleton`: what is wrong with a name that is refused;
* `Check.FirstOffender`, `Check.plainNames_finds_first_offender`: the lists that pass, and the name
  that is reported for those that do not.
-/

set_option autoImplicit false

namespace ToolPack

/-- A name that can be seen, is a single segment of a path, and is not one of the two that lead to
other directories. -/
structure Ordinary (name : String) : Prop where
  shows : ∃ c ∈ name.toList, Text.isBlank c = false
  no_slash : '/' ∉ name.toList
  no_backslash : '\\' ∉ name.toList
  ne_here : name ≠ "."
  ne_above : name ≠ ".."

/-- The check of a single name is that of its characters. -/
theorem plainName_iff_ordinary {name : String} : PlainName name ↔ Ordinary name := by
  have hblank : Text.isAllBlank name = false ↔ ∃ c ∈ name.toList, Text.isBlank c = false := by
    simp [Text.isAllBlank]
  have hinside : Check.staysInside name = true
      ↔ (('/' ∉ name.toList ∧ '\\' ∉ name.toList) ∧ name ≠ ".") ∧ name ≠ ".." := by
    simp [Check.staysInside]
  constructor
  · rintro ⟨hshows, hstays⟩
    obtain ⟨⟨⟨hslash, hbackslash⟩, hhere⟩, habove⟩ := hinside.mp hstays
    exact ⟨hblank.mp hshows, hslash, hbackslash, hhere, habove⟩
  · intro h
    exact ⟨hblank.mpr h.shows,
      hinside.mpr ⟨⟨⟨h.no_slash, h.no_backslash⟩, h.ne_here⟩, h.ne_above⟩⟩

namespace Check

/-! ## A list and its parts -/

/-- A list is checked as its front, and then its back against the names of the front. -/
theorem plainNamesAfter_append (field : String) (seen front back : List String) :
    plainNamesAfter field seen (front ++ back)
      = plainNamesAfter field seen front
        >>= fun _ => plainNamesAfter field (front.reverse ++ seen) back := by
  induction front generalizing seen with
  | nil => rfl
  | cons name front ih =>
    simp only [List.cons_append, plainNamesAfter, ih, bind_assoc, List.reverse_cons,
      List.append_assoc, List.nil_append]

/-- What comes behind a front that is refused has no part in the report. -/
theorem plainNames_append_of_error {field : String} {front : List String} {e : PackError}
    (h : plainNames field front = .error e) (back : List String) :
    plainNames field (front ++ back) = .error e := by
  rw [plainNames] at h
  rw [plainNames, plainNamesAfter_append, h]
  rfl

/-- What comes behind a front that passes is checked against its names. -/
theorem plainNames_append_of_ok {field : String} {front : List String}
    (h : plainNames field front = .ok ()) (back : List String) :
    plainNames field (front ++ back) = plainNamesAfter field front.reverse back := by
  rw [plainNames] at h
  rw [plainNames, plainNamesAfter_append, h, List.append_nil]
  rfl

/-! ## A single name -/

/-- What is wrong with a name that is refused: its looks, or else that it is not the first of its
kind. -/
def refusalOf (name : String) : Refusal :=
  if Text.isAllBlank name then .blank
  else if staysInside name then .duplicateName
  else .notPlainName

/-- Repetition is what is wrong with a name exactly if its looks are not. -/
theorem reason_refusalOf_iff {name : String} :
    (refusalOf name).reason = "Duplicate name" ↔ Ordinary name := by
  rw [← plainName_iff_ordinary, refusalOf]
  split
  · rename_i hblank
    exact iff_of_false (by decide) fun h => absurd hblank (by simp [h.notBlank])
  split
  · rename_i hblank hstays
    exact iff_of_true rfl ⟨Bool.eq_false_iff.mpr hblank, hstays⟩
  · rename_i hstays
    exact iff_of_false (by decide) fun h => hstays h.staysInside

/-- A name that is not plain is refused for its looks, whatever was seen before. -/
theorem plainName_of_not_plain {field name : String} (h : ¬ PlainName name) :
    plainName field name = refuse field name (refusalOf name) := by
  cases hblank : Text.isAllBlank name with
  | true =>
    rw [plainName, nonBlank, refusalOf, if_pos hblank, hblank]
    rfl
  | false =>
    have hstays : staysInside name = false :=
      Bool.eq_false_iff.mpr fun hstays => h ⟨hblank, hstays⟩
    rw [plainName, nonBlank_eq_ok_iff.mpr hblank, refusalOf, hblank, hstays]
    rfl

/-- A name behind others is refused for what is wrong with it. -/
theorem plainNamesAfter_singleton {field name : String} {seen : List String}
    (h : plainNamesAfter field seen [name] ≠ .ok ()) :
    plainNamesAfter field seen [name] = refuse field name (refusalOf name) := by
  by_cases hplain : PlainName name
  · have hseen : name ∈ seen := by
      by_contra hfresh
      exact h (plainNamesAfter_eq_ok_iff.mpr (by simpa [hfresh] using hplain))
    rw [plainNamesAfter, plainName_eq_ok_iff.mpr hplain, refusalOf, hplain.notBlank,
      hplain.staysInside, List.contains_iff_mem.mpr hseen]
    rfl
  · rw [plainNamesAfter, plainName_of_not_plain hplain]
    rfl

/-! ## The first offender -/

/-- The name at a place of a list is the one that is reported. -/
structure FirstOffender (field : String) (names : List String) (i : Nat) (name : String) :
    Prop where
  /-- It is the first one such that the names up to it pass, and together with it do not. -/
  first : IsLeast {j | plainNames field (names.take j) = .ok ()
    ∧ plainNames field (names.take (j + 1)) ≠ .ok ()} i
  here : names[i]? = some name
  /-- It is called a repetition exactly if it is an ordinary name. -/
  reason_iff : (refusalOf name).reason = "Duplicate name" ↔ Ordinary name
  repeated : Ordinary name → name ∈ names.take i
  /-- Whatever comes behind it, the report is the same. -/
  last : ∀ behind, plainNames field (names.take (i + 1) ++ behind)
    = .error (.invalidValue field name (refusalOf name))

/-- A list that is refused has a place up to which it passes, and with which it does not. -/
theorem exists_first {field : String} {names : List String} (h : plainNames field names ≠ .ok ()) :
    ∃ i, IsLeast {j | plainNames field (names.take j) = .ok ()
      ∧ plainNames field (names.take (j + 1)) ≠ .ok ()} i := by
  classical
  have hsome : ∃ n, plainNames field (names.take n) ≠ .ok () := ⟨names.length, by simpa using h⟩
  -- The shortest front that is refused is not the empty one, so it has a name at its end.
  obtain ⟨i, hi⟩ : ∃ i, Nat.find hsome = i + 1 :=
    Nat.exists_eq_succ_of_ne_zero fun hzero => (Nat.find_eq_zero hsome).mp hzero rfl
  refine ⟨i, ⟨?_, hi ▸ Nat.find_spec hsome⟩, fun j hj => ?_⟩
  · exact not_not.mp (Nat.find_min hsome (by omega))
  · have hle := Nat.find_min' hsome hj.2
    omega

/-- A list that is refused has a name that is reported. -/
theorem exists_firstOffender {field : String} {names : List String}
    (h : plainNames field names ≠ .ok ()) : ∃ i name, FirstOffender field names i name := by
  obtain ⟨i, hi⟩ := exists_first h
  obtain ⟨hfront, hwith⟩ := hi.1
  have hlt : i < names.length := by
    by_contra hle
    rw [List.take_of_length_le (by omega)] at hfront hwith
    exact hwith hfront
  have htake : names.take (i + 1) = names.take i ++ [names[i]] :=
    List.take_succ_eq_append_getElem hlt
  rw [htake, plainNames_append_of_ok hfront] at hwith
  have hreport := plainNamesAfter_singleton hwith
  refine ⟨i, names[i], hi, List.getElem?_eq_getElem hlt, reason_refusalOf_iff, ?_, fun behind => ?_⟩
  · intro hordinary
    by_contra hfresh
    refine hwith (plainNamesAfter_eq_ok_iff.mpr ?_)
    simpa [hfresh] using plainName_iff_ordinary.mpr hordinary
  · refine plainNames_append_of_error ?_ behind
    rw [htake, plainNames_append_of_ok hfront]
    exact hreport

/-- **The first offender of a list is reported.**  A list of names passes exactly if all of them are
ordinary and no two are equal.  Otherwise the error has the name at the first place up to which the
list passes and with which it does not; the reason is that of a repetition exactly if the name is
ordinary, and then it is one; and what comes behind has no part in it. -/
theorem plainNames_finds_first_offender (field : String) (names : List String) :
    (plainNames field names = .ok () ↔ (∀ name ∈ names, Ordinary name) ∧ names.Nodup)
      ∧ ∀ e, plainNames field names = .error e
        ↔ ∃ i name, FirstOffender field names i name
          ∧ e = .invalidValue field name (refusalOf name) := by
  refine ⟨?_, fun e => ⟨fun h => ?_, ?_⟩⟩
  · rw [plainNames_eq_ok_iff]
    simp only [plainName_iff_ordinary]
  · obtain ⟨i, name, hfirst⟩ := exists_firstOffender fun hok => ok_ne_error (hok.symm.trans h)
    have hreport := hfirst.last (names.drop (i + 1))
    rw [List.take_append_drop, h] at hreport
    exact ⟨i, name, hfirst, Except.error.inj hreport⟩
  · rintro ⟨i, name, hfirst, rfl⟩
    have hreport := hfirst.last (names.drop (i + 1))
    rwa [List.take_append_drop] at hreport

/-- Of several faults the first one counts: the second `a` comes in front of what is no name. -/
example : plainNames "build.binaries" ["a", "b", "a", "..", " "]
    = .error (.invalidValue "build.binaries" "a" .duplicateName) := by decide

end Check
end ToolPack
