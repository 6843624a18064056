import Mathlib.Data.List.Nodup
import ToolPack.Proofs.Manifest.Accepted
import ToolPack.Proofs.Package.Frame

/-!
# Which accepted packages can be archived

An archive has its own entries beside the files of the package, the headers and the record.  The
names of an accepted manifest are plain and different, and scripts stand in a directory of the
archive, so no two files of a package can get in each other's way.  A binary, though, stands at the
root of the archive as the headers and the record do, and nothing in the checks keeps it from having
the name of one of these.  That shows only in the last step of a run.

The limits that the format of an archive puts on names and sizes are left out, as they are where an
archive is built.

## What is here

* `reservedNames`: the names of the archive's own entries;
* `nodup_archiveNames_iff`: the names of an accepted package are different from each other exactly
  if no binary has one of these;
* `accepted_run_isOk_iff`: so an accepted package whose files are all found is packaged exactly if
  it is not archived or no binary has one of these names;
* `reserved_binary_fails`: a manifest that is accepted and cannot be packaged.
-/

set_option autoImplicit false

namespace ToolPack
namespace Package

open Storage ToolPack.Action

/-- The names of the entries that an archive has of its own. -/
def reservedNames : List String := [PkgInfo.fileName, Record.fileName]

/-- The names of the files of a package in its archive. -/
def fileNames (r : Resolved) : List String :=
  r.plan.binaries ++ r.plan.scripts.map (scriptEntryName r.metadata)

theorem archiveNames_eq (r : Resolved) : r.archiveNames = fileNames r ++ reservedNames := rfl

/-- A script stands in a directory of the archive. -/
theorem separator_mem_scriptEntryName (m : ToolPack.Metadata) (script : String) :
    '/' ∈ (scriptEntryName m script).toList := by
  simp [scriptEntryName]

/-- Scripts of different names have different entries. -/
theorem scriptEntryName_injective (m : ToolPack.Metadata) :
    Function.Injective (scriptEntryName m) := by
  intro script other h
  have htexts := congrArg String.toList h
  simp only [scriptEntryName, String.toList_append] at htexts
  exact String.toList_inj.mp (List.append_cancel_left htexts)

/-- A name without separators is that of a file exactly if it is that of a binary. -/
theorem mem_fileNames_iff {r : Resolved} {name : String} (h : '/' ∉ name.toList) :
    name ∈ fileNames r ↔ name ∈ r.plan.binaries := by
  rw [fileNames, List.mem_append, List.mem_map, or_iff_left]
  rintro ⟨script, -, rfl⟩
  exact h (separator_mem_scriptEntryName r.metadata script)

theorem mem_fileNames_of_reserved {r : Resolved} {name : String} (h : name ∈ reservedNames) :
    name ∈ fileNames r ↔ name ∈ r.plan.binaries := by
  simp only [reservedNames, List.mem_cons, List.not_mem_nil, or_false] at h
  rcases h with rfl | rfl
  · exact mem_fileNames_iff (by decide)
  · exact mem_fileNames_iff (by decide)

/-- Plain names do not get in each other's way. -/
theorem nodup_fileNames {r : Resolved} (hplain : ∀ name ∈ r.plan.binaries, PlainName name)
    (hbinaries : r.plan.binaries.Nodup) (hscripts : r.plan.scripts.Nodup) :
    (fileNames r).Nodup := by
  refine List.nodup_append.mpr
    ⟨hbinaries, List.Nodup.map (scriptEntryName_injective r.metadata) hscripts, ?_⟩
  rintro name hname _ hscript rfl
  obtain ⟨script, -, rfl⟩ := List.mem_map.mp hscript
  exact (hplain _ hname).not_mem (separator_mem_scriptEntryName r.metadata script)

/-- The names in the archive are different exactly if no binary has a reserved one. -/
theorem nodup_archiveNames_iff {r : Resolved} (h : (fileNames r).Nodup) :
    r.archiveNames.Nodup ↔ ∀ name ∈ reservedNames, name ∉ r.plan.binaries := by
  rw [archiveNames_eq, List.nodup_append]
  constructor
  · rintro ⟨-, -, hdisjoint⟩ name hname hbinary
    exact hdisjoint name ((mem_fileNames_of_reserved hname).mpr hbinary) name hname rfl
  · intro hfree
    refine ⟨h, by decide, ?_⟩
    rintro name hfile _ hname rfl
    exact hfree name hname ((mem_fileNames_of_reserved hname).mp hfile)

/-- What keeps an archive of different files from being built is a binary with a reserved name. -/
theorem reserved_of_repeated? {r : Resolved} {name : String} (h : (fileNames r).Nodup)
    (hname : Zip.repeated? [] r.archiveNames = some name) :
    name ∈ reservedNames ∧ name ∈ r.plan.binaries := by
  have hnone : Zip.repeated? [] (fileNames r) = none :=
    Zip.repeated?_eq_none_iff.mpr ⟨h, fun _ _ => List.not_mem_nil⟩
  rw [archiveNames_eq, Zip.repeated?_append, hnone, Option.none_or] at hname
  obtain ⟨hreserved, hfile⟩ := Zip.mem_of_repeated? (by decide) hname
  rw [List.append_nil, List.mem_reverse, mem_fileNames_of_reserved hreserved] at hfile
  exact ⟨hreserved, hfile⟩

/-- The only error of a run that gets through is a name that comes a second time in its archive. -/
theorem ThreePhases.repeated? {r : Resolved} {report : Report} {e : PackError}
    {past : List Exchange} (h : ThreePhases r report (.error e) past) :
    ∃ name, Zip.repeated? [] r.archiveNames = some name ∧ e = .archive (.duplicateName name) := by
  cases h with
  | intro hseen hdone hwritten =>
    cases hwritten with
    | blocked hdir hread =>
      obtain ⟨entries, hnames, hbytes⟩ := hread.entries (hdone.traced hseen)
      obtain ⟨name, hname, rfl⟩ := Zip.build_eq_error_iff.mp hbytes
      exact ⟨name, hnames ▸ hname, rfl⟩

/-- **A package that is accepted and whose first phase ends well is packaged exactly if it is not
archived or no binary has a reserved name.**  Otherwise the name of such a binary is the error, and
by then everything but the archive is in place. -/
theorem accepted_run_isOk_iff {canonical : Canonical} {m : Manifest} {r : Resolved}
    {files : Memory} (haccepted : m.resolve canonical = .ok r)
    (hverified : ((verify r.plan).run Memory.handler files).result.isOk = true) :
    let ran := (run r).run Memory.handler files
    (ran.result.isOk = true
        ↔ r.plan.distDir = none ∨ ∀ name ∈ reservedNames, name ∉ r.plan.binaries)
      ∧ ∀ e, ran.result = .error e →
          (∃ name ∈ reservedNames, name ∈ r.plan.binaries
            ∧ e = .archive (.duplicateName name))
          ∧ (∀ c ∈ r.plan.copies, (ran.state.get? c.2).isSome)
          ∧ (ran.state.get? (r.plan.outputDir.join PkgInfo.fileName)).isSome
          ∧ (ran.state.get? (r.plan.outputDir.join scriptListName)).isSome := by
  intro ran
  obtain ⟨⟨hplain, hbinaries⟩, -, hscripts⟩ := Manifest.names_of_resolve haccepted
  have hnodup := nodup_fileNames hplain hbinaries hscripts
  have hsound : Sound r.plan files := by
    cases hinputs : ((verify r.plan).run Memory.handler files).result with
    | error e =>
      rw [hinputs] at hverified
      cases hverified
    | ok inputs => exact sound_of_verify hinputs
  obtain ⟨report, archive, hphases, hresult⟩ := threePhases_of_sound hsound
  have hresult : ran.result = archive.map (outcome r report) := hresult
  refine ⟨?_, fun e he => ⟨?_, fun c hc => ?_, ?_, ?_⟩⟩
  · rw [hresult, ← nodup_archiveNames_iff hnodup, ← hphases.ok_iff]
    cases archive with
    | error e => exact iff_of_false Bool.false_ne_true fun ⟨path, hpath⟩ => nomatch hpath
    | ok path => exact iff_of_true rfl ⟨path, rfl⟩
  · cases archive with
    | ok path =>
      rw [hresult] at he
      cases he
    | error e' =>
      obtain ⟨name, hname, rfl⟩ := hphases.repeated?
      obtain ⟨hreserved, hbinary⟩ := reserved_of_repeated? hnodup hname
      rw [hresult] at he
      exact ⟨name, hreserved, hbinary, (Except.error.inj he).symm⟩
  · exact hphases.isSome_get? (.inl ⟨c, hc, rfl⟩)
  · exact hphases.isSome_get? (.inr (by simp [Resolved.described]))
  · exact hphases.isSome_get? (.inr (by simp [Resolved.described]))

/-- The small package, archived, is packaged. -/
theorem kit_is_packaged :
    let m := (kit {} {}).withDist
    let r : Resolved := ⟨m.package, m.plan⟩
    m.resolve (fun _ => none) = .ok r
      ∧ ((verify r.plan).run Memory.handler kitFiles).result.isOk = true
      ∧ ((run r).run Memory.handler kitFiles).result.isOk = true := by
  intro m r
  have haccepted : m.resolve (fun _ => none) = .ok r :=
    Manifest.resolve_eq_of_isOk (by decide +kernel)
  have hverified : ((verify r.plan).run Memory.handler kitFiles).result.isOk = true := by
    decide +kernel
  refine ⟨haccepted, hverified, (accepted_run_isOk_iff haccepted hverified).1.mpr (.inr ?_)⟩
  decide +kernel

/-- A manifest that is accepted, with everything that the first phase looks for, and that cannot be
packaged: its binary has the name of the record. -/
theorem reserved_binary_fails :
    let m : Manifest := { (kit {} {}).withDist with build := { binaries := ["RECORD"] } }
    let r : Resolved := ⟨m.package, m.plan⟩
    let files : Memory := ⟨[(⟨"./build/bin/RECORD"⟩, "ELF".toUTF8),
      (⟨"./scripts/RECORD"⟩, "#!/bin/sh\n".toUTF8), (⟨"./README.md"⟩, "Hi".toUTF8)], []⟩
    m.resolve (fun _ => none) = .ok r
      ∧ ((verify r.plan).run Memory.handler files).result.isOk = true
      ∧ ((run r).run Memory.handler files).result.isOk = false :=
  ⟨Manifest.resolve_eq_of_isOk (by decide +kernel), by decide +kernel, by decide +kernel⟩

end Package
end ToolPack
