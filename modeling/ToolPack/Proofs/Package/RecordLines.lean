import ToolPack.Proofs.Package.Archivable
import ToolPack.Proofs.Package.Bundle

/-!
# When the record of an archive can be read

A reader of a record goes by lines, one for each entry, and takes for the name of an entry what
stands in front of the last two commas of its line.  Neither a digest nor a number has a comma in
it, so commas in a name do no harm.  A line feed does: the name of an entry that has one is on two
lines, and from there on lines and entries do not go together.  Plain names may have line feeds,
and so may the name of a package, which is a part of the names of its scripts.

## What is here

* `Text.beforeLast?`: a text up to its last separator;
* `Record.nameOf?`, `Record.textOf?`, `Tells`, `Legible`: what a reader looks for, and when all of
  it is found;
* `legible_archiveEntries_iff`: the files whose record can be read;
* `accepted_record_legible_iff`: the accepted packages whose record can be read;
* `line_feed_breaks_record`: an accepted package whose record cannot.
-/

set_option autoImplicit false

namespace ToolPack

/-- What stands in front of the last separator of a text; none if there is no separator in it. -/
def Text.beforeLast? (sep : Char) (text : String) : Option String :=
  match text.toList.reverse.dropWhile (· != sep) with
  | [] => none
  | _ :: front => some (String.ofList front.reverse)

/-- A text with one more separator is cut there, if there is none behind it. -/
theorem Text.beforeLast?_append {sep : Char} {mark back : String} (hmark : mark.toList = [sep])
    (hback : sep ∉ back.toList) (front : String) :
    beforeLast? sep (front ++ mark ++ back) = some front := by
  have hchars : (front ++ mark ++ back).toList.reverse
      = back.toList.reverse ++ sep :: front.toList.reverse := by
    simp [hmark]
  have hpass : ∀ c ∈ back.toList.reverse, (c != sep) = true := fun c hc =>
    bne_iff_ne.mpr fun h => hback (h ▸ List.mem_reverse.mp hc)
  rw [beforeLast?, hchars, List.dropWhile_append_of_pos hpass]
  simp

namespace Record

/-! ## Lines -/

/-- The characters that a reader of records cuts at. -/
def marks : List Char := [',', '\n']

theorem not_mem_marks_of_mem_hexText {bytes : List UInt8} {c : Char}
    (h : c ∈ Text.hexText bytes) : c ∉ marks := by
  have hdigit : ∀ n < 16, Text.hexDigit n ∉ marks := by decide
  obtain ⟨n, hn, rfl⟩ := Text.exists_hexDigit_of_mem_hexText h
  exact hdigit n hn

theorem not_mem_marks_of_mem_toString {n : Nat} {c : Char} (h : c ∈ (toString n).toList) :
    c ∉ marks := by
  have hdigit : c.isDigit = true :=
    Nat.isDigit_of_mem_toDigits (by decide) (by decide) (Nat.toList_repr ▸ h)
  intro hc
  rcases List.mem_pair.mp hc with rfl | rfl
  · exact absurd hdigit (by decide)
  · exact absurd hdigit (by decide)

/-- What the line of an entry has behind the name. -/
def tag (data : ByteArray) : String :=
  "sha256=" ++ String.ofList (Text.hexText (Sha256.digest data))

theorem not_mem_tag {c : Char} (h : c ∈ marks) (data : ByteArray) : c ∉ (tag data).toList := by
  have hfixed : c ∉ "sha256=".toList := by
    rcases List.mem_pair.mp h with rfl | rfl
    · decide
    · decide
  intro hc
  rw [tag, String.toList_append] at hc
  rcases List.mem_append.mp hc with hc | hc
  · exact hfixed hc
  · rw [String.toList_ofList] at hc
    exact not_mem_marks_of_mem_hexText hc h

/-- A line is the name of its entry, a comma, a digest, a comma and a number. -/
theorem line_eq (name : String) (data : ByteArray) :
    line name data = name ++ "," ++ tag data ++ "," ++ toString data.size := by
  have hmark : ",sha256=" = "," ++ "sha256=" := by decide
  rw [line, hmark, tag, ← String.append_assoc, ← String.append_assoc]

/-- The name that a line tells: what stands in front of its last two commas. -/
def nameOf? (line : String) : Option String :=
  (Text.beforeLast? ',' line).bind (Text.beforeLast? ',')

/-- A line tells the name of its entry, whatever commas that has. -/
theorem nameOf?_line (name : String) (data : ByteArray) : nameOf? (line name data) = some name := by
  have hnumber : ',' ∉ (toString data.size).toList := fun h =>
    not_mem_marks_of_mem_toString h (by decide)
  rw [nameOf?, line_eq, Text.beforeLast?_append rfl hnumber, Option.bind_some,
    Text.beforeLast?_append rfl (not_mem_tag (by decide) data)]

/-- A line has a line feed in it exactly if the name has. -/
theorem not_mem_line_iff {name : String} {data : ByteArray} :
    '\n' ∉ (line name data).toList ↔ '\n' ∉ name.toList := by
  have hnumber : '\n' ∉ (toString data.size).toList := fun h =>
    not_mem_marks_of_mem_toString h (by decide)
  have htag := not_mem_tag (by decide : '\n' ∈ marks) data
  rw [line_eq]
  generalize toString data.size = number at hnumber
  simp [htag, hnumber]

/-! ## Records -/

/-- The text of the record among the entries of an archive. -/
def textOf? (entries : List Zip.Entry) : Option String :=
  (entries.find? (·.name == fileName)).bind fun entry => String.fromUTF8? entry.data

/-- A record falls into the pieces of its lines, and an empty text behind the last one. -/
theorem pieces_render (entries : List (String × ByteArray)) :
    Text.pieces '\n' (render entries)
      = (entries.map (fun entry => line entry.1 entry.2) ++ [ownLine]).flatMap (Text.pieces '\n')
        ++ [""] := by
  have hsome : entries.map (fun entry => line entry.1 entry.2) ++ [ownLine] ≠ [] :=
    List.append_ne_nil_of_right_ne_nil _ (List.cons_ne_nil _ _)
  have hcut := Text.pieces_append (by decide : "\n".toList = ['\n'])
    (Text.joinLines (entries.map (fun entry => line entry.1 entry.2) ++ [ownLine])) ""
  rw [String.append_empty, Text.pieces_joinLines_eq_flatMap hsome] at hcut
  exact hcut

end Record

namespace Package

open Storage ToolPack.Action

/-- A line tells the name of an entry; the record's own line need not. -/
def Tells (line : String) (entry : Zip.Entry) : Prop :=
  entry.name ≠ Record.fileName → Record.nameOf? line = some entry.name

/-- The record among the entries of an archive is read: it has one line for each entry, in order,
with nothing behind the last line feed, and every line but its own tells the name of its entry. -/
def Legible (entries : List Zip.Entry) : Prop :=
  ∃ text lines, Record.textOf? entries = some text ∧ Text.pieces '\n' text = lines ++ [""]
    ∧ List.Forall₂ Tells lines entries

/-- The record of files is the last entry, unless a file has its name. -/
theorem textOf?_archiveEntries {files : List (String × ByteArray)}
    (h : Record.fileName ∉ files.map (·.1)) (pkgInfo : String) :
    Record.textOf? (archiveEntries files pkgInfo)
      = some (Record.render (files ++ [(PkgInfo.fileName, pkgInfo.toUTF8)])) := by
  have hfiles : (files.map fun file => (⟨file.1, executableMode, file.2⟩ : Zip.Entry)).find?
      (·.name == Record.fileName) = none := by
    rw [List.find?_eq_none, List.forall_mem_map]
    intro file hfile hname
    exact h (List.mem_map.mpr ⟨file, hfile, beq_iff_eq.mp hname⟩)
  have hheaders : (PkgInfo.fileName == Record.fileName) = false := by decide
  rw [Record.textOf?, archiveEntries, List.find?_append, hfiles, Option.none_or,
    List.find?_cons_of_neg (by simp [hheaders]), List.find?_cons_of_pos (by simp)]
  exact Zip.fromUTF8?_toUTF8 _

/-- The lines of the record of files. -/
def linesOf (files : List (String × ByteArray)) (pkgInfo : String) : List String :=
  files.map (fun file => Record.line file.1 file.2)
    ++ [Record.line PkgInfo.fileName pkgInfo.toUTF8, Record.ownLine]

theorem pieces_record (files : List (String × ByteArray)) (pkgInfo : String) :
    Text.pieces '\n' (Record.render (files ++ [(PkgInfo.fileName, pkgInfo.toUTF8)]))
      = (linesOf files pkgInfo).flatMap (Text.pieces '\n') ++ [""] := by
  rw [Record.pieces_render, List.map_append, List.append_assoc]
  rfl

theorem length_archiveEntries (files : List (String × ByteArray)) (pkgInfo : String) :
    (archiveEntries files pkgInfo).length = (linesOf files pkgInfo).length := by
  simp [archiveEntries, linesOf]

/-- The lines tell the names of the entries. -/
theorem forall₂_linesOf (files : List (String × ByteArray)) (pkgInfo : String) :
    List.Forall₂ Tells (linesOf files pkgInfo) (archiveEntries files pkgInfo) := by
  refine List.rel_append ?_ (.cons (fun _ => Record.nameOf?_line _ _) (.cons ?_ .nil))
  · rw [List.forall₂_map_left_iff, List.forall₂_map_right_iff, List.forall₂_same]
    exact fun file _ _ => Record.nameOf?_line file.1 file.2
  · exact fun hname => absurd rfl hname

/-- There is no line feed in the lines exactly if there is none in the names. -/
theorem not_mem_linesOf_iff (files : List (String × ByteArray)) (pkgInfo : String) :
    (∀ line ∈ linesOf files pkgInfo, '\n' ∉ line.toList)
      ↔ ∀ name ∈ files.map (·.1), '\n' ∉ name.toList := by
  have hheaders : '\n' ∉ PkgInfo.fileName.toList := by decide
  have hown : '\n' ∉ Record.ownLine.toList := by decide
  simp only [linesOf, List.forall_mem_append, List.forall_mem_map, List.forall_mem_cons,
    Record.not_mem_line_iff]
  simp [hheaders, hown]

/-- The record of files is read exactly if none of their names has a line feed in it. -/
theorem legible_archiveEntries_iff {files : List (String × ByteArray)}
    (h : Record.fileName ∉ files.map (·.1)) (pkgInfo : String) :
    Legible (archiveEntries files pkgInfo) ↔ ∀ name ∈ files.map (·.1), '\n' ∉ name.toList := by
  rw [← not_mem_linesOf_iff files pkgInfo]
  constructor
  · rintro ⟨text, lines, htext, hlines, hnames⟩
    rw [textOf?_archiveEntries h] at htext
    rw [← Option.some.inj htext, pieces_record] at hlines
    have hcut := (List.append_inj' hlines rfl).1
    -- A line feed in a line would make a piece too many: there are as many pieces as entries.
    refine Text.not_mem_of_length_flatMap ?_
    rw [hcut, hnames.length_eq, length_archiveEntries]
  · intro hfree
    refine ⟨_, linesOf files pkgInfo, textOf?_archiveEntries h pkgInfo, ?_,
      forall₂_linesOf files pkgInfo⟩
    rw [pieces_record, List.flatMap_congr fun line hline =>
      Text.pieces_of_not_mem (hfree line hline), List.flatMap_singleton']

/-! ## Runs -/

/-- A run that ends well and makes an archive writes it last, and the archive is one of files under
the names that the plan foresees. -/
theorem archive_of_run {σ : Type} {handler : Handler σ} {state : σ} {r : Resolved} {o : Outcome}
    {path : Path} (hran : ((run r).run handler state).result = .ok o)
    (harchive : o.archivePath = some path) :
    ∃ files pkgInfo, files.map (·.1) = fileNames r
      ∧ ((archiveEntries files pkgInfo).map (·.name)).Nodup
      ∧ ((run r).run handler state).calls.getLast?
        = some (.write path (Zip.encode (archiveEntries files pkgInfo))) := by
  obtain ⟨report, place, hphases, rfl⟩ := threePhases_of_ok hran
  rw [← map_call_exchanges]
  generalize (run r).exchanges handler state = past at hphases
  obtain ⟨hseen, hdone, hwritten⟩ := hphases
  cases hwritten with
  | unwanted hnone => cases harchive
  | @built dir bytes done hdir hread =>
    obtain ⟨files, hnames, hbuilt⟩ := hread.files (hdone.traced hseen)
    obtain ⟨hnodup, rfl⟩ := Zip.build_eq_ok_iff.mp hbuilt
    obtain rfl := Option.some.inj harchive
    refine ⟨files, _, hnames, hnodup, ?_⟩
    simp only [List.map_append, List.map_singleton, List.getLast?_append, List.getLast?_singleton,
      Option.some_or]

/-- The record is not the name of a file in an archive whose names are different. -/
theorem record_not_mem_of_nodup {files : List (String × ByteArray)} {pkgInfo : String}
    (h : ((archiveEntries files pkgInfo).map (·.name)).Nodup) :
    Record.fileName ∉ files.map (·.1) := by
  rw [names_archiveEntries] at h
  exact fun hmem => (List.nodup_append.mp h).2.2 _ hmem _ (by simp) rfl

/-- The name of a script in the archive has a line feed in it if the script has, or the package. -/
theorem not_mem_scriptEntryName_iff {m : ToolPack.Metadata} {script : String} :
    '\n' ∉ (scriptEntryName m script).toList ↔ '\n' ∉ m.name.toList ∧ '\n' ∉ script.toList := by
  simp [scriptEntryName]

/-- The names of an accepted package in its archive have no line feeds exactly if those of its
binaries and scripts have none, nor has that of the package if there are scripts. -/
theorem forall_fileNames_iff {m : Manifest} :
    (∀ name ∈ fileNames ⟨m.package, m.plan⟩, '\n' ∉ name.toList)
      ↔ (∀ name ∈ m.build.binaries ++ m.scriptNames, '\n' ∉ name.toList)
        ∧ (m.scriptNames ≠ [] → '\n' ∉ m.package.name.toList) := by
  have hscripts : (∀ script ∈ m.scriptNames,
        '\n' ∉ m.package.name.toList ∧ '\n' ∉ script.toList)
      ↔ (m.scriptNames ≠ [] → '\n' ∉ m.package.name.toList)
        ∧ ∀ script ∈ m.scriptNames, '\n' ∉ script.toList := by
    rw [forall₂_and, and_congr_left_iff]
    refine fun _ => ⟨fun hname hsome => ?_, fun hname script hscript => ?_⟩
    · obtain ⟨script, hscript⟩ := List.exists_mem_of_ne_nil _ hsome
      exact hname script hscript
    · exact hname (List.ne_nil_of_mem hscript)
  rw [fileNames, List.forall_mem_append, List.forall_mem_map, List.forall_mem_append]
  simp only [not_mem_scriptEntryName_iff]
  exact (and_congr_right' hscripts).trans (by tauto)

/-- **The record of an accepted package is read exactly if there is no line feed in the names of its
binaries and scripts, nor, if there are scripts, in that of the package.**  On whatever storage a
run ends well and makes an archive, that is what it writes last; its entries have the names that the
plan foresees; and under this condition a reader of the record finds a line for each of them. -/
theorem accepted_record_legible_iff {canonical : Canonical} {m : Manifest} {r : Resolved}
    (haccepted : m.resolve canonical = .ok r) {σ : Type} {handler : Handler σ} {state : σ}
    {o : Outcome} {path : Path} (hran : ((run r).run handler state).result = .ok o)
    (harchive : o.archivePath = some path) :
    ∃ files pkgInfo,
      let entries := archiveEntries files pkgInfo
      ((run r).run handler state).calls.getLast? = some (.write path (Zip.encode entries))
        ∧ (Zip.Fits entries → Zip.decode? (Zip.encode entries) = some entries)
        ∧ entries.map (·.name) = r.archiveNames
        ∧ (Legible entries
          ↔ (∀ name ∈ m.build.binaries ++ m.scriptNames, '\n' ∉ name.toList)
            ∧ (m.scriptNames ≠ [] → '\n' ∉ m.package.name.toList)) := by
  obtain ⟨-, -, -, rfl⟩ := Manifest.resolve_eq_ok_iff.mp haccepted
  obtain ⟨files, pkgInfo, hnames, hnodup, hlast⟩ := archive_of_run hran harchive
  refine ⟨files, pkgInfo, hlast, fun hfits => Zip.decode?_encode hfits mode_archiveEntries, ?_, ?_⟩
  · rw [names_archiveEntries, hnames]
    rfl
  · rw [legible_archiveEntries_iff (record_not_mem_of_nodup hnodup), hnames, forall_fileNames_iff]

/-- A result that has an archive is that of a run that ended well. -/
theorem exists_outcome {result : Except PackError Outcome} {path : Path}
    (h : (result.toOption.bind fun o => o.archivePath) = some path) :
    ∃ o, result = .ok o ∧ o.archivePath = some path := by
  cases result with
  | error e => cases h
  | ok o => exact ⟨o, rfl, h⟩

/-- The small package with commas in the name of its binary, which is that of its script too. -/
theorem commas_are_read :
    let m : Manifest := { (kit {} {}).withDist with build := { binaries := ["to,ol,"] } }
    let r : Resolved := ⟨m.package, m.plan⟩
    let files : Memory := ⟨[(⟨"./build/bin/to,ol,"⟩, "ELF".toUTF8),
      (⟨"./scripts/to,ol,"⟩, "#!/bin/sh\n".toUTF8), (⟨"./README.md"⟩, "Hi".toUTF8)], []⟩
    let ran := (run r).run Memory.handler files
    m.resolve (fun _ => none) = .ok r
      ∧ ∃ content pkgInfo,
        let entries := archiveEntries content pkgInfo
        ran.calls.getLast? = some (.write ⟨"./dist/kit-1.0.zip"⟩ (Zip.encode entries))
          ∧ entries.map (·.name) = ["to,ol,", "kit.data/scripts/to,ol,", "PKG-INFO", "RECORD"]
          ∧ Legible entries := by
  intro m r files ran
  have haccepted : m.resolve (fun _ => none) = .ok r :=
    Manifest.resolve_eq_of_isOk (by decide +kernel)
  obtain ⟨o, hran, harchive⟩ : ∃ o, ran.result = .ok o
      ∧ o.archivePath = some ⟨"./dist/kit-1.0.zip"⟩ := exists_outcome (by decide +kernel)
  obtain ⟨content, pkgInfo, hlast, -, hnames, hlegible⟩ :=
    accepted_record_legible_iff haccepted hran harchive
  exact ⟨haccepted, content, pkgInfo, hlast, hnames, hlegible.mpr (by decide)⟩

/-- A manifest that is accepted and packaged, and whose record cannot be read: its binary has a line
feed in its name. -/
theorem line_feed_breaks_record :
    let m : Manifest := { (kit {} {}).withDist with build := { binaries := ["to\nol"] } }
    let r : Resolved := ⟨m.package, m.plan⟩
    let files : Memory := ⟨[(⟨"./build/bin/to\nol"⟩, "ELF".toUTF8),
      (⟨"./scripts/to\nol"⟩, "#!/bin/sh\n".toUTF8), (⟨"./README.md"⟩, "Hi".toUTF8)], []⟩
    let ran := (run r).run Memory.handler files
    m.resolve (fun _ => none) = .ok r
      ∧ ran.result.isOk = true
      ∧ ∃ content pkgInfo,
        let entries := archiveEntries content pkgInfo
        ran.calls.getLast? = some (.write ⟨"./dist/kit-1.0.zip"⟩ (Zip.encode entries))
          ∧ entries.map (·.name) = ["to\nol", "kit.data/scripts/to\nol", "PKG-INFO", "RECORD"]
          ∧ ¬ Legible entries := by
  intro m r files ran
  obtain ⟨o, hran, harchive⟩ : ∃ o, ran.result = .ok o
      ∧ o.archivePath = some ⟨"./dist/kit-1.0.zip"⟩ := exists_outcome (by decide +kernel)
  obtain ⟨content, pkgInfo, hnames, hnodup, hlast⟩ := archive_of_run hran harchive
  refine ⟨Manifest.resolve_eq_of_isOk (by decide +kernel), by rw [hran]; rfl, content, pkgInfo,
    hlast, by rw [names_archiveEntries, hnames]; decide, fun hlegible => ?_⟩
  rw [legible_archiveEntries_iff (record_not_mem_of_nodup hnodup), hnames] at hlegible
  exact absurd hlegible (by decide)

end Package
end ToolPack
