import ToolPack.Proofs.Package.Sample
import ToolPack.Proofs.Zip.Size

/-!
# What the archive of a package holds

The archive is built of what was staged: every staged file is read once more, and what was read is
stored and recorded.  So three things have to agree, the bytes at the destinations, the entries of
the archive and the lines of its record.

## What is here

* `contentEntries`, `recordText`, `packageEntries`: the entries that the archive of a package is to
  have, and the record of those before it;
* `run_readEach`, `run_buildArchive`: what is read, and what is made of it;
* `archive_agrees_with_staged`: the archive holds what the destinations held, and its record tells
  so; it is refused exactly if two of its entries have one name.
-/

set_option autoImplicit false

namespace ToolPack
namespace Package

open Storage ToolPack.Action

/-! ## The entries of a package -/

/-- The entries of a package in its archive, but for the record, when its files hold these bytes:
binaries, scripts, headers. -/
def contentEntries (m : ToolPack.Metadata) (held : Path → ByteArray)
    (binaries scripts : List StagedFile) (pkgInfo : String) : List Zip.Entry :=
  binaries.map (fun file => ⟨file.name, 0o755, held file.destination⟩)
    ++ scripts.map (fun file =>
      ⟨m.name ++ ".data/scripts/" ++ file.name, 0o755, held file.destination⟩)
    ++ [⟨"PKG-INFO", 0o644, pkgInfo.toUTF8⟩]

/-- The line of an entry in the record: its name, the digest of the bytes that are stored, and their
number. -/
def recordLine (entry : Zip.Entry) : String :=
  entry.name ++ ",sha256=" ++ String.ofList (Text.hexText (Sha256.digest entry.data)) ++ ","
    ++ toString entry.data.size ++ "\n"

/-- The record of entries: their lines, and its own. -/
def recordText (entries : List Zip.Entry) : String :=
  String.join (entries.map recordLine) ++ "RECORD,,\n"

/-- The entries of a package in its archive. -/
def packageEntries (m : ToolPack.Metadata) (held : Path → ByteArray)
    (binaries scripts : List StagedFile) (pkgInfo : String) : List Zip.Entry :=
  let content := contentEntries m held binaries scripts pkgInfo
  content ++ [⟨"RECORD", 0o644, (recordText content).toUTF8⟩]

/-- Lines that are joined with one more behind them. -/
theorem joinLines_append_singleton (lines : List String) (last : String) :
    Text.joinLines (lines ++ [last]) = String.join (lines.map (· ++ "\n")) ++ last := by
  induction lines with
  | nil => rw [List.nil_append, Text.joinLines, List.map_nil, String.join_nil, String.empty_append]
  | cons line lines ih =>
    have hsome : lines ++ [last] ≠ [] := List.append_ne_nil_of_right_ne_nil _ (List.cons_ne_nil _ _)
    rw [List.cons_append, Text.joinLines_cons hsome, ih, List.map_cons, String.join_cons,
      String.append_assoc, String.append_assoc, String.append_assoc]

/-- A record is the lines of its entries. -/
theorem render_eq (entries : List Zip.Entry) :
    Record.render (entries.map fun entry => (entry.name, entry.data)) = recordText entries := by
  rw [Record.render, joinLines_append_singleton, List.map_map, List.map_map, recordText,
    String.append_assoc]
  rfl

/-- What is archived are the entries of the package. -/
theorem archiveEntries_eq (m : ToolPack.Metadata) (held : Path → ByteArray)
    (binaries scripts : List StagedFile) (pkgInfo : String) :
    archiveEntries (binaries.map (fun file => (file.name, held file.destination))
        ++ scripts.map fun file => (scriptEntryName m file.name, held file.destination)) pkgInfo
      = packageEntries m held binaries scripts pkgInfo := by
  rw [archiveEntries, packageEntries, ← render_eq]
  simp [contentEntries, scriptEntryName, executableMode, regularMode, PkgInfo.fileName,
    Record.fileName, Function.comp_def]

theorem names_packageEntries (m : ToolPack.Metadata) (held : Path → ByteArray)
    (binaries scripts : List StagedFile) (pkgInfo : String) :
    (packageEntries m held binaries scripts pkgInfo).map (·.name)
      = binaries.map (·.name) ++ scripts.map (fun file => m.name ++ ".data/scripts/" ++ file.name)
        ++ ["PKG-INFO", "RECORD"] := by
  simp [packageEntries, contentEntries, Function.comp_def]

/-- An entry has permissions and nothing else in its mode. -/
theorem mode_archiveEntries {files : List (String × ByteArray)} {pkgInfo : String} :
    ∀ entry ∈ archiveEntries files pkgInfo, entry.mode < 0o1000 := by
  simp only [archiveEntries, List.mem_append, List.mem_map, List.mem_cons, List.not_mem_nil,
    or_false]
  rintro entry (⟨file, -, rfl⟩ | rfl | rfl)
  · show executableMode < 0o1000
    decide
  · show regularMode < 0o1000
    decide
  · show regularMode < 0o1000
    decide

theorem mode_packageEntries {m : ToolPack.Metadata} {held : Path → ByteArray}
    {binaries scripts : List StagedFile} {pkgInfo : String} :
    ∀ entry ∈ packageEntries m held binaries scripts pkgInfo, entry.mode < 0o1000 := by
  rw [← archiveEntries_eq]
  exact mode_archiveEntries

/-! ## Building it -/

/-- Reading back staged files gives what they hold. -/
theorem run_readEach {σ : Type} {handler : Handler σ} {state : σ} {held : Path → ByteArray}
    {files : List StagedFile} (entryName : String → String)
    (hread : ∀ file ∈ files,
      handler (.read file.destination) state = (.ok (held file.destination), state)) :
    (readEach entryName files).run handler state
      = ⟨.ok (files.map fun file => (entryName file.name, held file.destination)),
          files.map fun file => .read file.destination, [], state⟩ := by
  induction files with
  | nil => rfl
  | cons file files ih =>
    obtain ⟨hfile, hfiles⟩ := List.forall_mem_cons.mp hread
    rw [readEach, run_call_bind_ok hfile, run_bind_of_ok (ih hfiles)]
    simp only [pure, run_done, List.append_nil, List.map_cons]

/-- Once the files are read, the entries of the package are put together and written, unless two of
them have one name. -/
theorem run_buildArchive {σ : Type} {handler : Handler σ} {state : σ} {held : Path → ByteArray}
    {m : ToolPack.Metadata} {binaries scripts : List StagedFile} (dir : Path) (pkgInfo : String)
    (hread : ∀ file ∈ binaries ++ scripts,
      handler (.read file.destination) state = (.ok (held file.destination), state)) :
    let ran := (buildArchive dir m binaries scripts pkgInfo).run handler state
    let path := dir.join (archiveName m)
    let reads := (binaries ++ scripts).map fun file => Call.read file.destination
    match Zip.build (packageEntries m held binaries scripts pkgInfo) with
    | .error e => ran.result = .error (.archive e) ∧ ran.calls = reads ∧ ran.state = state
    | .ok bytes => (handler (.write path bytes) state).1 = .ok () →
        ran.result = .ok path ∧ ran.calls = reads ++ [.write path bytes]
          ∧ ran.state = (handler (.write path bytes) state).2 := by
  intro ran path reads
  obtain ⟨hbinaries, hscripts⟩ := List.forall_mem_append.mp hread
  have hran : ran = _ := run_bind_of_ok (run_readEach id hbinaries)
  rw [run_bind_of_ok (run_readEach (scriptEntryName m) hscripts)] at hran
  simp only [id_eq, archiveEntries_eq] at hran
  cases hbuild : Zip.build (packageEntries m held binaries scripts pkgInfo) with
  | error e =>
    simp only [hbuild, run_fail, List.append_nil] at hran
    rw [hran]
    exact ⟨rfl, List.map_append.symm, rfl⟩
  | ok bytes =>
    intro hwrite
    have hwritten : handler (.write path bytes) state
        = (.ok (), (handler (.write path bytes) state).2) := Prod.ext hwrite rfl
    have hlast : ∀ message, (Action.report .debug .archive message >>= fun _ =>
        Action.call (.write path bytes) >>= fun _ => pure path).run handler state
          = ⟨.ok path, [.write path bytes], [⟨.debug, .archive, message⟩],
              (handler (.write path bytes) state).2⟩ := by
      intro message
      rw [report, note_bind, Action.run, done_bind, run_call_bind_ok hwritten]
      rfl
    simp only [hbuild] at hran
    rw [hlast] at hran
    rw [hran, ← List.append_assoc, ← List.map_append]
    exact ⟨rfl, rfl, rfl⟩

/-- **The archive of a package holds what its staged files hold, and its record says so.**  If the
staged files can be read and the archive can be written, the archive is refused exactly if two of
the names in it are equal.  If not, it is written at the path that it is said to have, and is read
as the entries of the package, provided that these keep to the limits of archives. -/
theorem archive_agrees_with_staged {σ : Type} {handler : Handler σ} {state : σ}
    {held : Path → ByteArray} (dir : Path) (m : ToolPack.Metadata)
    (binaries scripts : List StagedFile) (pkgInfo : String)
    (hread : ∀ file ∈ binaries ++ scripts,
      handler (.read file.destination) state = (.ok (held file.destination), state))
    (hwrite : ∀ data, (handler (.write (dir.join (m.name ++ "-" ++ m.version ++ ".zip")) data)
      state).1 = .ok ()) :
    let ran := (buildArchive dir m binaries scripts pkgInfo).run handler state
    let path := dir.join (m.name ++ "-" ++ m.version ++ ".zip")
    let names := binaries.map (·.name)
      ++ scripts.map (fun file => m.name ++ ".data/scripts/" ++ file.name) ++ ["PKG-INFO", "RECORD"]
    let entries := packageEntries m held binaries scripts pkgInfo
    let bytes := Zip.encode entries
    ((∃ e, ran.result = .error (.archive e)) ↔ ¬ names.Nodup)
      ∧ (names.Nodup →
          ran.result = .ok path
          ∧ ran.calls = (binaries ++ scripts).map (fun file => .read file.destination)
              ++ [.write path bytes]
          ∧ ran.state = (handler (.write path bytes) state).2
          ∧ (Zip.Fits entries → Zip.decode? bytes = some entries)) := by
  intro ran path names entries bytes
  have hnames : entries.map (·.name) = names := names_packageEntries m held binaries scripts pkgInfo
  have hran := run_buildArchive (m := m) dir pkgInfo hread
  cases hbuild : Zip.build (packageEntries m held binaries scripts pkgInfo) with
  | error e =>
    rw [hbuild] at hran
    have hrepeated : ¬ names.Nodup := hnames ▸ Zip.not_nodup_of_build_eq_error hbuild
    exact ⟨iff_of_true ⟨e, hran.1⟩ hrepeated, fun hnodup => absurd hnodup hrepeated⟩
  | ok data =>
    rw [hbuild] at hran
    obtain ⟨hnodup, rfl⟩ := Zip.build_eq_ok_iff.mp hbuild
    obtain ⟨hresult, hcalls, hstate⟩ := hran (hwrite bytes)
    refine ⟨iff_of_false ?_ (not_not_intro (hnames ▸ hnodup)),
      fun _ => ⟨hresult, hcalls, hstate, fun hfits => Zip.decode?_encode hfits mode_packageEntries⟩⟩
    rintro ⟨e, he⟩
    cases hresult.symm.trans he

/-- The small package, staged. -/
def stagedKit : Memory :=
  ⟨[(⟨"build/lib/tool"⟩, "ELF".toUTF8), (⟨"build/lib/scripts/tool"⟩, "#!/bin/sh\n".toUTF8)], []⟩

/-- The archive of the small package is written, though its binary and its script have one name,
and it is read as the entries of the package. -/
theorem kit_is_archived :
    let binaries : List StagedFile := [⟨"tool", ⟨"build/lib/tool"⟩, 3⟩]
    let scripts : List StagedFile := [⟨"tool", ⟨"build/lib/scripts/tool"⟩, 10⟩]
    let pkgInfo := PkgInfo.render kitMetadata "Hi"
    let ran := (buildArchive ⟨"dist"⟩ kitMetadata binaries scripts pkgInfo).run Memory.handler
      stagedKit
    let held := fun path => (stagedKit.get? path).getD ByteArray.empty
    let entries := packageEntries kitMetadata held binaries scripts pkgInfo
    ran.result = .ok ⟨"dist/kit-1.0.zip"⟩
      ∧ ran.state.get? ⟨"dist/kit-1.0.zip"⟩ = some (Zip.encode entries)
      ∧ Zip.decode? (Zip.encode entries) = some entries := by
  intro binaries scripts pkgInfo ran held entries
  have hread : ∀ file ∈ binaries ++ scripts, Memory.handler (.read file.destination) stagedKit
      = (.ok (held file.destination), stagedKit) := by
    intro file hfile
    rcases List.mem_pair.mp hfile with rfl | rfl
    · rfl
    · rfl
  have hfits : Zip.Fits entries :=
    Zip.fits_of_sum_lt (by decide) (by decide +kernel) (by decide +kernel)
  obtain ⟨-, hwritten⟩ := archive_agrees_with_staged ⟨"dist"⟩ kitMetadata binaries scripts pkgInfo
    hread fun _ => rfl
  obtain ⟨hresult, -, hstate, hdecoded⟩ := hwritten (by decide)
  refine ⟨hresult, ?_, hdecoded hfits⟩
  show ran.state.get? _ = _
  rw [hstate]
  exact Memory.get?_set_self _ _ _

end Package
end ToolPack
