import Mathlib.Data.List.Forall2
import ToolPack.Proofs.Package.Headers

/-!
# Requirements that hold under an extra

A requirement of an extra is written with a marker behind it, so that it counts only where the extra
is wanted: a semicolon, and the name of the extra in quotes.  Neither the requirement nor the name
is written in quotes or escapes of its own.  A requirement that has a marker already gets a second
one, which no reader takes for a condition; a quote in the name ends the name too soon; and a line
feed in either tears the line apart.  The checks ask of both only that they are not blank.

## What is here

* `PkgInfo.HoldsUnder`, `PkgInfo.Announces`: what a reader looks for in the lines of an extra;
* `PkgInfo.linesOfExtra`, `PkgInfo.linesOfExtra_infix_pieces`: those lines, and that they are in the
  text;
* `PkgInfo.announces_linesOfExtra_iff`: the extras whose lines are as a reader wants them;
* `accepted_requirements_iff`: the accepted packages whose requirements are read as conditional;
* `marker_is_doubled`: an accepted package with a requirement that is not.
-/

set_option autoImplicit false

namespace ToolPack
namespace PkgInfo

/-! ## What a reader looks for -/

/-- A line asks for a requirement under an extra that was announced. -/
structure HoldsUnder (announced requirement line : String) : Prop where
  /-- It has one semicolon, and the marker of the extra behind that. -/
  cut : Text.pieces ';' line
    = ["Requires-Dist: " ++ requirement, " extra == \"" ++ announced ++ "\""]
  /-- The name of the extra goes on to the last quote. -/
  unquoted : '"' ∉ announced.toList
  shows : Text.isAllBlank requirement = false

/-- Lines announce an extra, and go on with a line for each of its requirements. -/
def Announces (requirements lines : List String) : Prop :=
  ∃ announced behind, lines = ("Provides-Extra: " ++ announced) :: behind
    ∧ List.Forall₂ (HoldsUnder announced) requirements behind

/-- The lines that an extra is written on. -/
def linesOfExtra (extra : String × List String) : List String :=
  (extraHeaders extra).flatMap (Text.pieces '\n')

/-! ## Where the lines are -/

/-- The lines of an extra follow one another in the text. -/
theorem linesOfExtra_infix_pieces {m : Metadata} {extra : String × List String}
    (h : extra ∈ m.extras.entries) (longDescription : String) :
    linesOfExtra extra <:+: Text.pieces '\n' (render m longDescription) := by
  have hextras : (m.extras.entries.flatMap extraHeaders).flatMap (Text.pieces '\n')
      = m.extras.entries.flatMap linesOfExtra := List.flatMap_assoc
  have hheaders : m.extras.entries.flatMap linesOfExtra
      <:+: (headers m).flatMap (Text.pieces '\n') := by
    rw [headers, List.flatMap_append, List.flatMap_append, hextras]
    exact List.infix_append _ _ _
  have hextra : linesOfExtra extra <:+: m.extras.entries.flatMap linesOfExtra :=
    List.infix_of_mem_flatten (List.mem_map_of_mem h)
  rw [render, Text.pieces_joinLines_append (by simp [headers])]
  exact (hextra.trans hheaders).trans (List.prefix_append _ _).isInfix

/-! ## When they are as a reader wants them -/

/-- The line of a requirement is cut in front of its marker. -/
theorem holdsUnder_iff {extra requirement : String} :
    HoldsUnder extra requirement (header "Requires-Dist" (conditional extra requirement))
      ↔ Text.isAllBlank requirement = false ∧ ';' ∉ requirement.toList
        ∧ ';' ∉ extra.toList ∧ '"' ∉ extra.toList := by
  have hline : header "Requires-Dist" (conditional extra requirement)
      = ("Requires-Dist: " ++ requirement) ++ ";" ++ (" extra == \"" ++ extra ++ "\"") := by
    have hkey : "Requires-Dist: " = "Requires-Dist" ++ ": " := by decide
    have hmark : "; extra == \"" = ";" ++ " extra == \"" := by decide
    rw [header, conditional, hkey, hmark]
    simp only [String.append_assoc]
  have hcut := Text.pieces_append_eq_pair_iff (by decide : ";".toList = [';'])
    ("Requires-Dist: " ++ requirement) (" extra == \"" ++ extra ++ "\"")
  rw [← hline] at hcut
  have hkey : ';' ∉ "Requires-Dist: ".toList := by decide
  have hmarker : ';' ∉ " extra == \"".toList ∧ ';' ∉ "\"".toList := by decide
  simp only [String.toList_append, List.mem_append, hkey, hmarker, false_or, or_false] at hcut
  constructor
  · rintro ⟨hpieces, hquote, hshows⟩
    exact ⟨hshows, (hcut.mp hpieces).1, (hcut.mp hpieces).2, hquote⟩
  · rintro ⟨hshows, hrequirement, hextra, hquote⟩
    exact ⟨hcut.mpr ⟨hrequirement, hextra⟩, hquote, hshows⟩

/-- The headers of an extra have line feeds only if its name or its requirements have. -/
theorem not_mem_extraHeaders_iff {extra : String × List String} :
    (∀ line ∈ extraHeaders extra, '\n' ∉ line.toList)
      ↔ '\n' ∉ extra.1.toList ∧ ∀ requirement ∈ extra.2, '\n' ∉ requirement.toList := by
  have hvalues := forall_extraFields_iff extra
  rw [List.forall_mem_cons] at hvalues
  rw [extraHeaders_eq, List.forall_mem_map, ← hvalues]
  refine forall₂_congr fun field hfield => ?_
  have hplain : ∀ name ∈ ["Provides-Extra", "Requires-Dist"], '\n' ∉ name.toList := by decide
  have hname := hplain _ (name_mem_of_mem_extraFields hfield)
  simp [fieldLine, hname]

/-- Headers without line feeds are lines as they are. -/
theorem linesOfExtra_eq {extra : String × List String}
    (h : ∀ line ∈ extraHeaders extra, '\n' ∉ line.toList) :
    linesOfExtra extra = extraHeaders extra := by
  rw [linesOfExtra, List.flatMap_congr fun line hline => Text.pieces_of_not_mem (h line hline),
    List.flatMap_singleton']

/-- The lines of an extra with requirements announce it, and ask for each requirement under it,
exactly if there is no line feed and no semicolon in its name and its requirements, and no quote in
its name. -/
theorem announces_linesOfExtra_iff {extra : String × List String} (hsome : extra.2 ≠ [])
    (hshows : ∀ requirement ∈ extra.2, Text.isAllBlank requirement = false) :
    Announces extra.2 (linesOfExtra extra)
      ↔ ('\n' ∉ extra.1.toList ∧ ';' ∉ extra.1.toList ∧ '"' ∉ extra.1.toList)
        ∧ ∀ requirement ∈ extra.2, '\n' ∉ requirement.toList ∧ ';' ∉ requirement.toList := by
  constructor
  · rintro ⟨announced, behind, hcons, hbehind⟩
    -- A line feed would make a line too many: there is one for the name and for each requirement.
    have hfree : ∀ line ∈ extraHeaders extra, '\n' ∉ line.toList := by
      refine Text.not_mem_of_length_flatMap ?_
      rw [← linesOfExtra, hcons, List.length_cons, ← hbehind.length_eq, extraHeaders,
        List.length_cons, List.length_map]
    rw [linesOfExtra_eq hfree, extraHeaders, List.cons.injEq] at hcons
    obtain ⟨hname, rfl⟩ := hcons
    obtain rfl : extra.1 = announced := (String.append_right_inj _).mp hname
    rw [List.forall₂_map_right_iff, List.forall₂_same] at hbehind
    have heach := fun requirement hrequirement =>
      holdsUnder_iff.mp (hbehind requirement hrequirement)
    obtain ⟨hbreak, hbreaks⟩ := not_mem_extraHeaders_iff.mp hfree
    obtain ⟨requirement, hrequirement⟩ := List.exists_mem_of_ne_nil _ hsome
    obtain ⟨-, -, hextra, hquote⟩ := heach requirement hrequirement
    exact ⟨⟨hbreak, hextra, hquote⟩, fun requirement hrequirement =>
      ⟨hbreaks requirement hrequirement, (heach requirement hrequirement).2.1⟩⟩
  · rintro ⟨⟨hbreak, hextra, hquote⟩, hrequirements⟩
    have hfree := not_mem_extraHeaders_iff.mpr ⟨hbreak, fun requirement hrequirement =>
      (hrequirements requirement hrequirement).1⟩
    refine ⟨extra.1, _, linesOfExtra_eq hfree, ?_⟩
    rw [List.forall₂_map_right_iff, List.forall₂_same]
    exact fun requirement hrequirement => holdsUnder_iff.mpr ⟨hshows requirement hrequirement,
      (hrequirements requirement hrequirement).2, hextra, hquote⟩

end PkgInfo

namespace Package

/-! ## Accepted packages -/

/-- **The requirements of an accepted package are read as conditional exactly if there is no line
feed and no semicolon in them and in the names of their extras, and no quote in these names.**  The
lines of an extra follow one another in the text; and under this condition the first one announces
the extra, and each of the others is a requirement with one semicolon and the marker of that extra
behind it. -/
theorem accepted_requirements_iff {m : Manifest} (h : m.check = .ok ()) (longDescription : String)
    {extra : String × List String} (hextra : extra ∈ m.package.extras.entries)
    (hsome : extra.2 ≠ []) :
    PkgInfo.linesOfExtra extra
        <:+: Text.pieces '\n' (PkgInfo.render m.package longDescription)
      ∧ (PkgInfo.Announces extra.2 (PkgInfo.linesOfExtra extra)
        ↔ ('\n' ∉ extra.1.toList ∧ ';' ∉ extra.1.toList ∧ '"' ∉ extra.1.toList)
          ∧ ∀ requirement ∈ extra.2, '\n' ∉ requirement.toList ∧ ';' ∉ requirement.toList) := by
  obtain ⟨hpackage, -⟩ := Manifest.check_eq_ok_iff.mp h
  obtain ⟨-, -, -, -, -, -, -, -, hextras⟩ := Metadata.check_eq_ok_iff.mp hpackage
  have hshows := (Extras.check_eq_ok_iff.mp hextras extra hextra).2
  exact ⟨PkgInfo.linesOfExtra_infix_pieces hextra longDescription,
    PkgInfo.announces_linesOfExtra_iff hsome hshows⟩

/-- The small package with an extra of two requirements, one of which has quotes of its own. -/
theorem plain_requirements_are_conditional :
    let requirements := ["pytest>=6.0", "tox[\"all\"]"]
    let m : Manifest := { kit {} {} with package := { kitMetadata with
      extras := Extras.ofList [("test", requirements)] } }
    let lines := ["Provides-Extra: test", "Requires-Dist: pytest>=6.0; extra == \"test\"",
      "Requires-Dist: tox[\"all\"]; extra == \"test\""]
    m.check = .ok ()
      ∧ lines <:+: Text.pieces '\n' (PkgInfo.render m.package "Hi")
      ∧ PkgInfo.Announces requirements lines := by
  intro requirements m lines
  have haccepted : m.check = .ok () := by decide +kernel
  have hextra : ("test", requirements) ∈ m.package.extras.entries := by decide +kernel
  have hlines : PkgInfo.linesOfExtra ("test", requirements) = lines := by decide +kernel
  have hread := accepted_requirements_iff haccepted "Hi" hextra (List.cons_ne_nil _ _)
  rw [hlines] at hread
  exact ⟨haccepted, hread.1, hread.2.mpr (by decide)⟩

/-- A manifest that is accepted, with a requirement that has a marker of its own: its line has two
semicolons, and is no requirement under the extra. -/
theorem marker_is_doubled :
    let requirements := ["tomli; python_version < \"3.11\""]
    let m : Manifest := { kit {} {} with package := { kitMetadata with
      extras := Extras.ofList [("test", requirements)] } }
    let lines := ["Provides-Extra: test",
      "Requires-Dist: tomli; python_version < \"3.11\"; extra == \"test\""]
    m.check = .ok ()
      ∧ PkgInfo.linesOfExtra ("test", requirements) = lines
      ∧ lines <:+: Text.pieces '\n' (PkgInfo.render m.package "Hi")
      ∧ ¬ PkgInfo.Announces requirements lines := by
  intro requirements m lines
  have hextra : ("test", requirements) ∈ m.package.extras.entries := by decide +kernel
  have hlines : PkgInfo.linesOfExtra ("test", requirements) = lines := by decide +kernel
  have hshows : ∀ requirement ∈ requirements, Text.isAllBlank requirement = false := by decide
  have hiff : PkgInfo.Announces requirements (PkgInfo.linesOfExtra ("test", requirements)) ↔ _ :=
    PkgInfo.announces_linesOfExtra_iff (List.cons_ne_nil _ _) hshows
  rw [hlines] at hiff
  refine ⟨by decide +kernel, hlines, ?_, fun hread => absurd (hiff.mp hread) (by decide)⟩
  exact hlines ▸ PkgInfo.linesOfExtra_infix_pieces hextra "Hi"

end Package
end ToolPack
