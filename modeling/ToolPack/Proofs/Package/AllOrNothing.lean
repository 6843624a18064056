import ToolPack.Proofs.Package.Bundle
import ToolPack.Proofs.Storage.Filing

/-!
# An archive is written as a whole, or not at all

An archive is put together before the storage hears of it: its files are read, its entries are
checked, and then it is handed over in a single call.  So whatever fails, be it a read, two entries
of one name or that last call, the files are those that were there before.

## What is here

* `Bundles`, `Bundled`: what building an archive asks for, and how it ends by itself;
* `ensures_bundled`: it keeps to that, whatever the storage answers;
* `file?_of_error`, `written_of_ok`: what a failed and a successful run leave;
* `archive_is_all_or_nothing`: both, on all storages and with all failures.
-/

set_option autoImplicit false

namespace ToolPack
namespace Package

open Storage ToolPack.Action

section

variable {dir : Path} {m : ToolPack.Metadata} {binaries scripts : List StagedFile}
  {pkgInfo : String} {σ κ : Type} {handler : Handler σ} {state : σ}

/-! ## What is asked for -/

/-- What building an archive asks for after the exchanges so far: to read a file, and once all files
are read, to write the archive of them. -/
inductive Bundles (dir : Path) (m : ToolPack.Metadata) (binaries scripts : List StagedFile)
    (pkgInfo : String) : List Exchange → Call → Prop
  | read {past : List Exchange} {file : StagedFile} (hquiet : Quiet past)
      (h : file ∈ binaries ++ scripts) :
      Bundles dir m binaries scripts pkgInfo past (.read file.destination)
  | write {past : List Exchange} {files : List (String × ByteArray)} {data : ByteArray}
      (h : Gathered m binaries scripts files past)
      (hbuild : Zip.build (archiveEntries files pkgInfo) = .ok data) :
      Bundles dir m binaries scripts pkgInfo past (.write (dir.join (archiveName m)) data)

/-- How building an archive ends by itself, and with which exchanges. -/
inductive Bundled (dir : Path) (m : ToolPack.Metadata) (binaries scripts : List StagedFile)
    (pkgInfo : String) : Except PackError Path → List Exchange → Prop
  | written {past : List Exchange} {files : List (String × ByteArray)} {data : ByteArray}
      (h : Gathered m binaries scripts files past)
      (hbuild : Zip.build (archiveEntries files pkgInfo) = .ok data) :
      Bundled dir m binaries scripts pkgInfo (.ok (dir.join (archiveName m)))
        (past ++ [⟨.write (dir.join (archiveName m)) data, .ok ()⟩])
  | blocked {past : List Exchange} {files : List (String × ByteArray)} {e : ArchiveError}
      (h : Gathered m binaries scripts files past)
      (hbuild : Zip.build (archiveEntries files pkgInfo) = .error e) :
      Bundled dir m binaries scripts pkgInfo (.error (.archive e)) past

theorem ensures_bundled :
    (buildArchive dir m binaries scripts pkgInfo).Ensures
      (Bundles dir m binaries scripts pkgInfo)
      (fun past result => Bundled dir m binaries scripts pkgInfo result past) [] :=
  ensures_buildArchive (fun _ hquiet _ hfile => .read hquiet hfile)
    (fun _ _ _ hgathered hbuild => ⟨.write hgathered hbuild, .written hgathered hbuild⟩)
    fun _ _ _ hgathered hbuild => .blocked hgathered hbuild

/-- Nothing has changed before a call. -/
theorem Bundles.quiet {past : List Exchange} {c : Call}
    (h : Bundles dir m binaries scripts pkgInfo past c) : Quiet past := by
  cases h with
  | read hquiet _ => exact hquiet
  | write hgathered _ => exact hgathered.quiet

/-! ## What a run leaves -/

theorem Quiet.file?_after {past : List Exchange} (h : Quiet past) (filing : Filing handler κ)
    (state : σ) :
    filing.file? (after handler (past.map (·.call)) state) = filing.file? state
      ∧ filing.place (after handler (past.map (·.call)) state) = filing.place state :=
  filing.after_looks (List.forall_mem_map.mpr h) state

/-- A run that fails leaves the files: its last call failed, or it has only looked. -/
theorem file?_of_error (filing : Filing handler κ) {e : PackError}
    (he : ((buildArchive dir m binaries scripts pkgInfo).run handler state).result = .error e) :
    filing.file? ((buildArchive dir m binaries scripts pkgInfo).run handler state).state
      = filing.file? state := by
  rw [state_run, ← map_call_exchanges]
  rcases ensures_bundled.ends_of_run (stopsOnFailure_buildArchive ..) handler state with
    ⟨before, c, cause, hx, -⟩ | hend
  · have hasks := ensures_bundled.asks_of_exchanges (stopsOnFailure_buildArchive ..) hx
    have hanswer := answer_of_exchanges hx
    obtain ⟨hbefore, -⟩ := hasks.quiet.file?_after filing state
    rw [hx, List.map_append, after_append]
    rw [List.nil_append] at hasks hbefore
    refine Eq.trans ?_ hbefore
    cases hasks with
    | read hquiet hfile => exact (filing.looks _ rfl).1
    | write hgathered hbuild => exact filing.failed hanswer.symm
  · rw [List.nil_append, he] at hend
    generalize (buildArchive dir m binaries scripts pkgInfo).exchanges handler state = past at hend
    generalize hr : (Except.error e : Except PackError Path) = result at hend
    cases hend with
    | written hgathered hbuild => cases hr
    | blocked hgathered hbuild => exact (hgathered.quiet.file?_after filing state).1

/-- A run that succeeds has read all files and then written the archive, and that one call is all
that has changed something. -/
theorem written_of_ok (filing : Filing handler κ) {archive : Path}
    (hok : ((buildArchive dir m binaries scripts pkgInfo).run handler state).result
      = .ok archive) :
    let ran := (buildArchive dir m binaries scripts pkgInfo).run handler state
    let path := dir.join (archiveName m)
    archive = path ∧ ∃ data,
      ran.calls = ((binaries ++ scripts).map fun file => .read file.destination)
          ++ [.write path data]
        ∧ (filing.file? ran.state (filing.place state path)).map (·.1) = some data
        ∧ ∀ place, place ≠ filing.place state path →
          filing.file? ran.state place = filing.file? state place := by
  intro ran path
  rcases ensures_bundled.ends_of_run (stopsOnFailure_buildArchive ..) handler state with
    ⟨before, c, cause, -, hresult⟩ | hend
  · rw [hok] at hresult
    cases hresult
  · rw [List.nil_append, hok] at hend
    generalize hx : (buildArchive dir m binaries scripts pkgInfo).exchanges handler state = past
      at hend
    generalize hr : (Except.ok archive : Except PackError Path) = result at hend
    cases hend with
    | blocked hgathered hbuild => cases hr
    | @written done files data hgathered hbuild =>
      have hcalls : ran.calls = done.map (·.call) ++ [.write path data] := by
        show ((buildArchive dir m binaries scripts pkgInfo).run handler state).calls = _
        rw [← map_call_exchanges, hx, List.map_append]
        rfl
      have hstate : ran.state
          = (handler (.write path data) (after handler (done.map (·.call)) state)).2 := by
        show ((buildArchive dir m binaries scripts pkgInfo).run handler state).state = _
        rw [state_run, hcalls, after_append]
        rfl
      obtain ⟨hfile, hplace⟩ := hgathered.quiet.file?_after filing state
      refine ⟨Except.ok.inj hr, data, by rw [hcalls, hgathered.map_call], ?_, fun place hne => ?_⟩
      · rw [hstate, ← hplace]
        exact filing.written (answer_of_exchanges hx).symm
      · rw [← hplace] at hne
        rw [hstate, filing.spared data hne, hfile]

end

/-- **Building an archive is all or nothing**, on every storage and whichever calls fail.  If it
ends with an error, the files are as before, and so is an archive that was there.  If it succeeds,
all files were read and then the archive was written by a single call, and no other file has
changed.  What is handed over to the storage, whether it is taken or not, is an archive of all the
files. -/
theorem archive_is_all_or_nothing {σ κ : Type} {handler : Handler σ} (filing : Filing handler κ)
    (dir : Path) (m : ToolPack.Metadata) (binaries scripts : List StagedFile) (pkgInfo : String)
    (state : σ) (schedule : Schedule) :
    let ran := (buildArchive dir m binaries scripts pkgInfo).run (failing schedule handler)
      ⟨state, []⟩
    let path := dir.join (archiveName m)
    (∀ e, ran.result = .error e → filing.file? ran.state.storage = filing.file? state)
      ∧ (∀ archive, ran.result = .ok archive → archive = path ∧ ∃ data,
          ran.calls = ((binaries ++ scripts).map fun file => .read file.destination)
              ++ [.write path data]
            ∧ (filing.file? ran.state.storage (filing.place state path)).map (·.1) = some data
            ∧ ∀ place, place ≠ filing.place state path →
              filing.file? ran.state.storage place = filing.file? state place)
      ∧ ∀ c ∈ ran.calls, c.changes = true → ∃ files data, c = .write path data
          ∧ files.map (·.1)
            = binaries.map (·.name) ++ scripts.map (fun file => scriptEntryName m file.name)
          ∧ Zip.build (archiveEntries files pkgInfo) = .ok data := by
  intro ran path
  refine ⟨fun e he => file?_of_error (filing.failing schedule) he,
    fun archive hok => written_of_ok (filing.failing schedule) hok, fun c hc hchanges => ?_⟩
  have hcalls : ran.calls
      = ((buildArchive dir m binaries scripts pkgInfo).exchanges (failing schedule handler)
        ⟨state, []⟩).map (·.call) := (map_call_exchanges _ _ _).symm
  rw [hcalls] at hc
  obtain ⟨x, hx, rfl⟩ := List.mem_map.mp hc
  obtain ⟨before, rest, hsplit⟩ := List.append_of_mem hx
  have hasks := ensures_bundled.asks_of_exchanges (stopsOnFailure_buildArchive ..) hsplit
  generalize x.call = c at hasks hchanges
  cases hasks with
  | read hquiet hfile => cases hchanges
  | write hgathered hbuild => exact ⟨_, _, rfl, hgathered.map_name, hbuild⟩

/-- An archive of an earlier run survives a binary that has the name of the record, which is found
out at the last entry, and a write that fails. -/
theorem old_archive_survives :
    let files := stagedKit.set ⟨"dist/kit-1.0.zip"⟩ "old".toUTF8
    let full : Schedule := fun _ c =>
      if c.changes then some ⟨.storageFull, "no space left"⟩ else none
    let building := fun name schedule =>
      (buildArchive ⟨"dist"⟩ kitMetadata [⟨name, ⟨"build/lib/tool"⟩, 3⟩] [] "").run
        (failing schedule Memory.handler) ⟨files, []⟩
    (building "RECORD" never).result = .error (.archive (.duplicateName "RECORD"))
      ∧ (building "RECORD" never).state.storage.file? ⟨"dist/kit-1.0.zip"⟩
        = some ("old".toUTF8, false)
      ∧ (building "tool" full).result = .error (.io ⟨.storageFull, "no space left"⟩)
      ∧ (building "tool" full).state.storage.file? ⟨"dist/kit-1.0.zip"⟩
        = some ("old".toUTF8, false) := by
  intro files full building
  have hold : files.file? ⟨"dist/kit-1.0.zip"⟩ = some ("old".toUTF8, false) := rfl
  have hnames : (building "RECORD" never).result = .error (.archive (.duplicateName "RECORD")) :=
    rfl
  have hwrite : (building "tool" full).result = .error (.io ⟨.storageFull, "no space left"⟩) := rfl
  have hkept : (building "RECORD" never).state.storage.file? = files.file? :=
    (archive_is_all_or_nothing Memory.filing ⟨"dist"⟩ kitMetadata
      [⟨"RECORD", ⟨"build/lib/tool"⟩, 3⟩] [] "" files never).1 _ hnames
  have hkept' : (building "tool" full).state.storage.file? = files.file? :=
    (archive_is_all_or_nothing Memory.filing ⟨"dist"⟩ kitMetadata
      [⟨"tool", ⟨"build/lib/tool"⟩, 3⟩] [] "" files full).1 _ hwrite
  rw [hkept, hkept']
  exact ⟨hnames, hold, hwrite, hold⟩

end Package
end ToolPack
