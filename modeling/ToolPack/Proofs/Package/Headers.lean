import ToolPack.Package.PkgInfo
import ToolPack.Proofs.Manifest.Accepted
import ToolPack.Proofs.Package.Sample
import ToolPack.Proofs.Text.Pieces
import ToolPack.Proofs.Version

/-!
# What a reader finds in the package headers

A reader of package headers goes by lines: the headers are the lines up to the first empty one, and
the long description is all that follows.  So a reader finds what was declared exactly if no value
brings line feeds of its own.  A checked version has none.  The other values are texts that are
only asked not to be blank, to look like an address or nothing at all, and a line feed gets past
each of these checks.

## What is here

* `cutAtEmptyLine`: how a reader takes headers and long description apart;
* `PkgInfo.fields`: what a package declares; `PkgInfo.freeTexts`: those of its texts that may hold
  anything;
* `PkgInfo.cutAtEmptyLine_render`: fields on lines of their own are read as they were declared;
* `cutAtEmptyLine_joinLines`, `not_mem_of_cutAtEmptyLine`: lines without line feeds are read as they
  were written, and no line that is read has one;
* `accepted_headers_iff`: the accepted packages whose headers are read as they were declared;
* `line_feed_forges_header`: an accepted package that declares one thing and is read as another.
-/

set_option autoImplicit false

namespace ToolPack

/-- The lines of a text in front of its first empty line, and the text behind that line; none if no
line is empty. -/
def Text.cutAtEmptyLine (text : String) : Option (List String × String) :=
  match (Text.pieces '\n' text).dropWhile (· != "") with
  | [] => none
  | _ :: rest => some ((Text.pieces '\n' text).takeWhile (· != ""), Text.joinLines rest)

namespace Text

/-- Lines with an empty one behind them fall into the pieces of each of them, the empty one, and the
lines of what follows. -/
theorem pieces_joinLines_append {lines : List String} (hsome : lines ≠ []) (rest : String) :
    pieces '\n' (joinLines lines ++ "\n\n" ++ rest)
      = lines.flatMap (pieces '\n') ++ "" :: pieces '\n' rest := by
  have hmark : "\n\n" = "\n" ++ "\n" := by decide
  have htwo : joinLines lines ++ "\n\n" ++ rest
      = joinLines lines ++ "\n" ++ ("" ++ "\n" ++ rest) := by
    rw [hmark, String.empty_append, String.append_assoc, String.append_assoc, String.append_assoc]
  rw [htwo, pieces_append rfl, pieces_append rfl, pieces_joinLines_eq_flatMap hsome]
  rfl

/-- Full lines without line feeds are read as they were written. -/
theorem cutAtEmptyLine_joinLines {lines : List String} (hsome : lines ≠ [])
    (hfull : ∀ line ∈ lines, line ≠ "") (hlines : ∀ line ∈ lines, '\n' ∉ line.toList)
    (rest : String) :
    cutAtEmptyLine (joinLines lines ++ "\n\n" ++ rest) = some (lines, rest) := by
  have hpieces : pieces '\n' (joinLines lines ++ "\n\n" ++ rest)
      = lines ++ "" :: pieces '\n' rest := by
    rw [pieces_joinLines_append hsome, ← pieces_joinLines_eq_flatMap hsome,
      pieces_joinLines hsome hlines]
  have hstop : ∀ line ∈ lines, (line != "") = true := fun line hline =>
    bne_iff_ne.mpr (hfull line hline)
  rw [cutAtEmptyLine, hpieces, List.dropWhile_append_of_pos hstop,
    List.takeWhile_append_of_pos hstop]
  simp [joinLines_pieces]

/-- No line that is read has a line feed in it. -/
theorem not_mem_of_cutAtEmptyLine {text rest : String} {lines : List String}
    (h : cutAtEmptyLine text = some (lines, rest)) : ∀ line ∈ lines, '\n' ∉ line.toList := by
  intro line hline
  rw [cutAtEmptyLine] at h
  split at h
  · cases h
  · obtain ⟨rfl, -⟩ := Prod.mk.inj (Option.some.inj h)
    exact not_mem_of_mem_pieces ((List.takeWhile_sublist _).subset hline)

end Text

namespace PkgInfo

/-- What an extra declares: its name, and its requirements under the condition that it is wanted. -/
def extraFields (extra : String × List String) : List (String × String) :=
  ("Provides-Extra", extra.1) :: extra.2.map fun requirement =>
    ("Requires-Dist", requirement ++ "; extra == \"" ++ extra.1 ++ "\"")

/-- What a package declares: the names of the fields and their values, in order. -/
def fields (m : Metadata) : List (String × String) :=
  [("Metadata-Version", "2.1"), ("Name", m.name), ("Version", m.version),
   ("Summary", m.description), ("Home-page", m.url), ("Author", m.author),
   ("Author-email", m.authorEmail), ("Requires-Python", m.pythonRequires)]
    ++ m.extras.entries.flatMap extraFields ++ [("Description-Content-Type", m.contentType)]

/-- The line of a field. -/
def fieldLine (field : String × String) : String := field.1 ++ ": " ++ field.2

/-- The texts of a package that no check keeps from having line feeds. -/
def freeTexts (m : Metadata) : List String :=
  [m.name, m.description, m.url, m.author, m.authorEmail, m.pythonRequires]
    ++ m.extras.entries.flatMap (fun extra => extra.1 :: extra.2) ++ [m.contentType]

/-! ## Lines of fields -/

theorem extraHeaders_eq (extra : String × List String) :
    extraHeaders extra = (extraFields extra).map fieldLine := by
  rw [extraHeaders, extraFields, List.map_cons, List.map_map]
  rfl

/-- The headers are the lines of the fields. -/
theorem headers_eq (m : Metadata) : headers m = (fields m).map fieldLine := by
  rw [headers, fields, List.map_append, List.map_append, List.map_flatMap,
    funext extraHeaders_eq]
  rfl

theorem fieldLine_ne_empty (field : String × String) : fieldLine field ≠ "" := by
  intro h
  have hlist := congrArg String.toList h
  simp [fieldLine] at hlist

/-- The names of the fields. -/
def fieldNames : List String :=
  ["Metadata-Version", "Name", "Version", "Summary", "Home-page", "Author", "Author-email",
   "Requires-Python", "Provides-Extra", "Requires-Dist", "Description-Content-Type"]

/-- What an extra declares goes by two of the names. -/
theorem name_mem_of_mem_extraFields {extra : String × List String} {field : String × String}
    (h : field ∈ extraFields extra) : field.1 ∈ ["Provides-Extra", "Requires-Dist"] := by
  rcases List.mem_cons.mp h with rfl | h
  · exact List.mem_cons_self
  · obtain ⟨requirement, -, rfl⟩ := List.mem_map.mp h
    exact List.mem_cons_of_mem _ List.mem_cons_self

theorem name_mem_fieldNames {m : Metadata} : ∀ field ∈ fields m, field.1 ∈ fieldNames := by
  simp only [fields, List.forall_mem_append, List.forall_mem_cons, List.mem_flatMap]
  refine ⟨⟨by simp [fieldNames], ?_⟩, by simp [fieldNames]⟩
  rintro field ⟨extra, -, hfield⟩
  exact (by decide : ["Provides-Extra", "Requires-Dist"] ⊆ fieldNames)
    (name_mem_of_mem_extraFields hfield)

theorem not_mem_fieldLine_iff {m : Metadata} {field : String × String} (h : field ∈ fields m) :
    '\n' ∉ (fieldLine field).toList ↔ '\n' ∉ field.2.toList := by
  have hplain : ∀ name ∈ fieldNames, '\n' ∉ name.toList := by decide
  have hname := hplain _ (name_mem_fieldNames field h)
  simp [fieldLine, hname]

/-- What an extra declares has line feeds only if its name or its requirements have. -/
theorem forall_extraFields_iff (extra : String × List String) :
    (∀ field ∈ extraFields extra, '\n' ∉ field.2.toList)
      ↔ ∀ text ∈ extra.1 :: extra.2, '\n' ∉ text.toList := by
  rw [extraFields, List.forall_mem_cons, List.forall_mem_cons, List.forall_mem_map]
  refine and_congr_right fun hname => forall₂_congr fun requirement _ => ?_
  simp [hname]

/-- All fields are on lines of their own exactly if the version and the free texts have no line
feeds. -/
theorem forall_fieldLine_iff {m : Metadata} :
    (∀ field ∈ fields m, '\n' ∉ (fieldLine field).toList)
      ↔ '\n' ∉ m.version.toList ∧ ∀ text ∈ freeTexts m, '\n' ∉ text.toList := by
  have hvalues : (∀ field ∈ fields m, '\n' ∉ (fieldLine field).toList)
      ↔ ∀ field ∈ fields m, '\n' ∉ field.2.toList :=
    forall₂_congr fun field hfield => not_mem_fieldLine_iff hfield
  have hextras : (∀ field ∈ m.extras.entries.flatMap extraFields, '\n' ∉ field.2.toList)
      ↔ ∀ text ∈ m.extras.entries.flatMap (fun extra => extra.1 :: extra.2),
        '\n' ∉ text.toList := by
    rw [List.forall_mem_flatMap, List.forall_mem_flatMap]
    exact forall₂_congr fun extra _ => forall_extraFields_iff extra
  rw [hvalues, fields, freeTexts, List.forall_mem_append, List.forall_mem_append,
    List.forall_mem_append, List.forall_mem_append, hextras]
  simp only [List.forall_mem_cons]
  have hfixed : '\n' ∉ "2.1".toList := by decide
  tauto

/-- Fields on lines of their own are read as they were declared, and behind the empty line comes the
long description, whatever that is. -/
theorem cutAtEmptyLine_render {m : Metadata}
    (h : ∀ field ∈ fields m, '\n' ∉ (fieldLine field).toList) (longDescription : String) :
    Text.cutAtEmptyLine (render m longDescription)
      = some ((fields m).map fieldLine, longDescription) := by
  rw [render, headers_eq]
  refine Text.cutAtEmptyLine_joinLines (by simp [fields]) ?_ ?_ longDescription
  · exact List.forall_mem_map.mpr fun field _ => fieldLine_ne_empty field
  · exact List.forall_mem_map.mpr h

end PkgInfo

namespace Package

/-! ## Accepted packages -/

/-- **The headers of an accepted package are read as they were declared exactly if none of its free
texts has a line feed in it.**  Then a reader finds one line for each field, with its value, the
extras in ascending order, and behind the empty line the long description, whatever that is. -/
theorem accepted_headers_iff {m : Manifest} (h : m.check = .ok ()) (longDescription : String) :
    (m.package.extras.entries.map (·.1)).Pairwise (· < ·)
      ∧ (Text.cutAtEmptyLine (PkgInfo.render m.package longDescription)
            = some ((PkgInfo.fields m.package).map PkgInfo.fieldLine, longDescription)
          ↔ ∀ text ∈ PkgInfo.freeTexts m.package, '\n' ∉ text.toList) := by
  obtain ⟨hpackage, -⟩ := Manifest.check_eq_ok_iff.mp h
  obtain ⟨-, hversion, -⟩ := Metadata.check_eq_ok_iff.mp hpackage
  have hline : '\n' ∉ m.package.version.toList :=
    not_mem_of_isVersion hversion (by decide) (by decide)
  refine ⟨List.pairwise_map.mpr m.package.extras.ascending, fun hread => ?_, fun hfree => ?_⟩
  · have hlines := Text.not_mem_of_cutAtEmptyLine hread
    rw [List.forall_mem_map] at hlines
    exact (PkgInfo.forall_fieldLine_iff.mp hlines).2
  · exact PkgInfo.cutAtEmptyLine_render (PkgInfo.forall_fieldLine_iff.mpr ⟨hline, hfree⟩) _

/-- The small package with two extras, given in descending order, and a long description that starts
with an empty line and looks like a header. -/
theorem kit_headers_are_read :
    let m : Manifest := { kit {} {} with package := { kitMetadata with
      extras := Extras.ofList [("test", ["pytest>=6.0", "tox"]), ("doc", [])] } }
    m.check = .ok ()
      ∧ Text.cutAtEmptyLine (PkgInfo.render m.package "\nName: other\n")
        = some (["Metadata-Version: 2.1", "Name: kit", "Version: 1.0", "Summary: D",
            "Home-page: https://x.y", "Author: A", "Author-email: a@b.c", "Requires-Python: >=3.6",
            "Provides-Extra: doc", "Provides-Extra: test",
            "Requires-Dist: pytest>=6.0; extra == \"test\"",
            "Requires-Dist: tox; extra == \"test\"",
            "Description-Content-Type: text/markdown"], "\nName: other\n") := by
  intro m
  have haccepted : m.check = .ok () := by decide +kernel
  refine ⟨haccepted, ?_⟩
  exact (accepted_headers_iff haccepted "\nName: other\n").2.mpr (by decide +kernel)

/-- A manifest that is accepted and whose description has a second line: a reader finds a
requirement that the package does not declare. -/
theorem line_feed_forges_header :
    let m : Manifest := { kit {} {} with package := { kitMetadata with
      description := "D\nRequires-Dist: other" } }
    m.check = .ok ()
      ∧ Text.cutAtEmptyLine (PkgInfo.render m.package "Hi")
        ≠ some ((PkgInfo.fields m.package).map PkgInfo.fieldLine, "Hi")
      ∧ ∃ lines, Text.cutAtEmptyLine (PkgInfo.render m.package "Hi") = some (lines, "Hi")
        ∧ "Requires-Dist: other" ∈ lines := by
  intro m
  let lines := ["Metadata-Version: 2.1", "Name: kit", "Version: 1.0", "Summary: D",
    "Requires-Dist: other", "Home-page: https://x.y", "Author: A", "Author-email: a@b.c",
    "Requires-Python: >=3.6", "Description-Content-Type: text/markdown"]
  have hrender : PkgInfo.render m.package "Hi" = Text.joinLines lines ++ "\n\n" ++ "Hi" := by
    decide +kernel
  have hread : Text.cutAtEmptyLine (PkgInfo.render m.package "Hi") = some (lines, "Hi") := by
    rw [hrender]
    exact Text.cutAtEmptyLine_joinLines (by decide) (by decide) (by decide) "Hi"
  refine ⟨by decide +kernel, fun hdeclared => ?_, lines, hread, by decide⟩
  have hforged : "Summary: D\nRequires-Dist: other"
      ∈ (PkgInfo.fields m.package).map PkgInfo.fieldLine := by decide +kernel
  exact Text.not_mem_of_cutAtEmptyLine hdeclared _ hforged (by decide)

end Package
end ToolPack
