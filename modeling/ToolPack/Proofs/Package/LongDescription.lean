import Mathlib.Data.List.Nodup
import ToolPack.Proofs.Package.Bundle

/-!
# The long description reaches the package

The long description is read as text in the first phase and written as bytes in the last one.
Nothing is lost on the way: bytes that are text are the bytes of that text, what was read is kept
while files are copied, over the long description too if it comes to that, and nothing that is
written behind the headers has their path.

## What is here

* `toUTF8_of_fromUTF8?`, `toUTF8_render`: text that was read is written as it was;
* `Verified.longDescription`: what the first phase has read;
* `headersEntry`, `ReadBack.built`: the archive has one copy of the headers;
* `ThreePhases.contents`: what a run that gets through leaves under the paths that it writes last;
* `result_of_notText`: how a run ends when the long description is no text;
* `long_description_reaches_package`: both, for every plan and every storage.
-/

set_option autoImplicit false

namespace ToolPack
namespace Package

open Storage ToolPack.Action

/-! ## Texts and bytes -/

/-- Bytes that are read as a text are the bytes of that text. -/
theorem toUTF8_of_fromUTF8? {bytes : ByteArray} {text : String}
    (h : String.fromUTF8? bytes = some text) : text.toUTF8 = bytes := by
  rw [String.fromUTF8?] at h
  split at h
  · obtain rfl := Option.some.inj h
    rfl
  · cases h

/-- The bytes of the headers and of what comes behind them. -/
theorem toUTF8_render {bytes : ByteArray} {text : String} (m : ToolPack.Metadata)
    (h : String.fromUTF8? bytes = some text) :
    (PkgInfo.render m text).toUTF8
      = (Text.joinLines (PkgInfo.headers m)).toUTF8 ++ "\n\n".toUTF8 ++ bytes := by
  rw [PkgInfo.render, ← toUTF8_of_fromUTF8? h]
  simp only [String.toUTF8_eq_toByteArray, String.toByteArray_append]

/-! ## What was read -/

/-- What the first phase has read is the long description at the start. -/
theorem Verified.longDescription {α : Type} {plan : Plan} {inputs : Inputs} {m : Memory}
    {schedule : Schedule} {action : Action α} {seen rest : List Exchange}
    (hx : action.exchanges (failing schedule Memory.handler) ⟨m, []⟩ = seen ++ rest)
    (h : Verified plan inputs seen) :
    ∃ bytes, m.get? plan.readme = some bytes
      ∧ String.fromUTF8? bytes = some inputs.longDescription := by
  have hquiet := h.quiet
  obtain ⟨size, hbinaries, hscripts, htext⟩ := h
  rename_i bytes text
  have hread : (Memory.handler (.read plan.readme) m).1 = .ok bytes :=
    Memory.ok_of_not_changes hx hquiet (by simp)
  exact ⟨bytes, Memory.answer_read_eq_ok_iff.mp hread, htext⟩

/-! ## What is archived -/

/-- The entry of the headers in an archive. -/
def headersEntry (pkgInfo : String) : Zip.Entry :=
  ⟨PkgInfo.fileName, regularMode, pkgInfo.toUTF8⟩

theorem headersEntry_mem (files : List (String × ByteArray)) (pkgInfo : String) :
    headersEntry pkgInfo ∈ archiveEntries files pkgInfo := by
  simp [archiveEntries, headersEntry]

/-- In an archive whose names are different the entry of the headers is the only one of its name. -/
theorem eq_headersEntry {files : List (String × ByteArray)} {pkgInfo : String} {entry : Zip.Entry}
    (hnodup : ((archiveEntries files pkgInfo).map (·.name)).Nodup)
    (hentry : entry ∈ archiveEntries files pkgInfo) (hname : entry.name = PkgInfo.fileName) :
    entry = headersEntry pkgInfo :=
  List.inj_on_of_nodup_map hnodup hentry (headersEntry_mem files pkgInfo) hname

/-- An archive that was built is of such entries. -/
theorem ReadBack.built {r : Resolved} {report : Report} {pkgInfo : String} {bytes : ByteArray}
    {past : List Exchange} (h : ReadBack r report pkgInfo (.ok bytes) past) :
    ∃ files, bytes = Zip.encode (archiveEntries files pkgInfo)
      ∧ ((archiveEntries files pkgInfo).map (·.name)).Nodup := by
  generalize hresult : (Except.ok bytes : Except ArchiveError ByteArray) = result at h
  obtain ⟨hbinaries, hscripts⟩ := h
  obtain ⟨hnodup, hbytes⟩ := Zip.build_eq_ok_iff.mp hresult.symm
  exact ⟨_, hbytes, hnodup⟩

/-- The last thing that is written is the archive, and it has a path of its own. -/
theorem Archived.written?_ne {r : Resolved} {report : Report} {pkgInfo : String} {path : Path}
    {archive : Except PackError (Option Path)} {past : List Exchange}
    (h : Archived r report pkgInfo archive past) (hpath : ∀ dir, archivePath r dir ≠ path) :
    ∀ x ∈ past, x.call.written? ≠ some path := by
  have hreads : ∀ {result : Except ArchiveError ByteArray} {done : List Exchange},
      ReadBack r report pkgInfo result done → ∀ x ∈ done, x.call.written? ≠ some path := by
    intro result done hread x hx
    rw [Call.written?_of_not_changes (hread.quiet x hx)]
    exact (Option.some_ne_none _).symm
  cases h with
  | unwanted hnone => exact fun x hx => absurd hx List.not_mem_nil
  | built hdir hread =>
    refine List.forall_mem_append.mpr ⟨hreads hread, List.forall_mem_singleton.mpr fun h => ?_⟩
    exact hpath _ (Option.some.inj h)
  | blocked hdir hread => exact hreads hread

/-! ## Runs that end well -/

/-- What a run that gets through leaves under the path of the headers, and under that of the
archive. -/
theorem ThreePhases.contents {r : Resolved} {m : Memory} {report : Report} {path : Option Path}
    (h : ThreePhases r report (.ok path) ((run r).exchanges Memory.handler m)) :
    let final := ((run r).run Memory.handler m).state
    let pkgInfo := PkgInfo.render r.metadata report.longDescription
    (∃ bytes, m.get? r.plan.readme = some bytes
        ∧ String.fromUTF8? bytes = some report.longDescription)
      ∧ final.get? (r.plan.outputDir.join PkgInfo.fileName) = some pkgInfo.toUTF8
      ∧ ∀ place, path = some place → ∃ files,
        final.get? place = some (Zip.encode (archiveEntries files pkgInfo))
          ∧ ((archiveEntries files pkgInfo).map (·.name)).Nodup := by
  intro final pkgInfo
  have hcalls := map_call_exchanges Memory.handler (run r) m
  have hfinal : final = after Memory.handler ((run r).run Memory.handler m).calls m :=
    state_run Memory.handler (run r) m
  have hnever := exchanges_never (run r) m
  rw [← hcalls] at hfinal
  rw [hfinal]
  generalize (run r).exchanges Memory.handler m = past at h hnever
  cases h with
  | @intro inputs _ _ seen done written hseen hdone hwritten =>
    rw [List.append_assoc] at hnever
    obtain ⟨bytes, hbytes, htext⟩ := hseen.longDescription hnever
    refine ⟨⟨bytes, hbytes, ?_⟩, ?_, fun place hplace => ?_⟩
    · rw [hdone.longDescription, htext]
    · -- the headers are written behind all copies, and nothing that follows has their path
      have hrest : ∀ c ∈ writeList r :: written.map (·.call),
          c.written? ≠ some (r.plan.outputDir.join PkgInfo.fileName) := by
        refine List.forall_mem_cons.mpr ⟨fun h => ?_, List.forall_mem_map.mpr
          (hwritten.written?_ne fun dir => archivePath_ne_headers r dir _)⟩
        exact listPath_ne_headers _ _ (Option.some.inj h)
      rw [List.map_append]
      exact Memory.get?_after_write _ _ hrest m
    · subst hplace
      cases hwritten with
      | built hdir hread =>
        -- the archive is the last thing that is written
        obtain ⟨files, rfl, hnodup⟩ := hread.built
        refine ⟨files, ?_, hnodup⟩
        rw [← List.append_assoc, ← List.append_assoc, List.map_append]
        exact Memory.get?_after_write _ _ (fun c hc => absurd hc List.not_mem_nil) m

/-- If the long description is there and is no text, then that is what a run ends with that finds
all its binaries and scripts. -/
theorem result_of_notText {r : Resolved} {m : Memory} {bytes : ByteArray}
    (hpresent : ∀ path ∈ r.plan.inputs, (m.get? path).isSome)
    (hreadme : m.get? r.plan.readme = some bytes) (hnone : String.fromUTF8? bytes = none) :
    ((run r).run Memory.handler m).result = .error (notText r.plan.readme bytes) := by
  have hnever := exchanges_never (run r) m
  rcases failed_or_ended r Memory.handler m with ⟨before, c, e, hx, -⟩ | hend
  · obtain ⟨reply, hreply⟩ := answered_of_present hpresent (x := ⟨c, .error e⟩) (by simp [hx])
    cases hreply
  · generalize (run r).exchanges Memory.handler m = past at hend hnever
    generalize ((run r).run Memory.handler m).result = result at hend ⊢
    cases hend with
    | refused hrefused =>
      rw [← List.append_nil past] at hnever
      obtain ⟨found, hfound, -, rfl⟩ := hrefused.notText_of_present hnever hpresent
      rw [Option.some.inj (hreadme.symm.trans hfound)]
    | threePhases hphases =>
      cases hphases with
      | intro hseen hdone hwritten =>
        rw [List.append_assoc] at hnever
        obtain ⟨found, hfound, htext⟩ := hseen.longDescription hnever
        rw [Option.some.inj (hfound.symm.trans hreadme), hnone] at htext
        cases htext

/-- **The long description reaches the package byte for byte.**  If a run ends well, whichever calls
a schedule would have failed, then the long description was text at the start, and the file of the
headers is the headers, two line feeds and the bytes that the long description had at the start,
also if the run has put others in their place.  The archive has one entry of that name, and it holds
the bytes of that file.  If the long description is there and is no text, a run that finds all its
binaries and scripts ends with that. -/
theorem long_description_reaches_package (r : Resolved) (files : Memory) :
    let headersPath := r.plan.outputDir.join PkgInfo.fileName
    (∀ (schedule : Schedule) (o : Outcome),
        let ran := (run r).run (failing schedule Memory.handler) ⟨files, []⟩
        let final := ran.state.storage
        ran.result = .ok o →
          ∃ bytes, files.get? r.plan.readme = some bytes ∧ (String.fromUTF8? bytes).isSome
            ∧ final.get? headersPath
              = some ((Text.joinLines (PkgInfo.headers r.metadata)).toUTF8 ++ "\n\n".toUTF8
                ++ bytes)
            ∧ ∀ path, o.archivePath = some path → ∃ entries : List Zip.Entry,
              final.get? path = some (Zip.encode entries)
                ∧ (Zip.Fits entries → Zip.decode? (Zip.encode entries) = some entries)
                ∧ (∃ entry ∈ entries, entry.name = PkgInfo.fileName)
                ∧ ∀ entry ∈ entries, entry.name = PkgInfo.fileName →
                  final.get? headersPath = some entry.data)
      ∧ ∀ bytes, files.get? r.plan.readme = some bytes → String.fromUTF8? bytes = none →
        (∀ name ∈ r.plan.binaries, (files.get? (r.plan.binDir.join name)).isSome) →
        (∀ name ∈ r.plan.scripts, (files.get? (r.plan.scriptsSourceDir.join name)).isSome) →
        ∃ message, ((run r).run Memory.handler files).result
          = .error (.io ⟨.invalidData, message⟩) := by
  intro headersPath
  constructor
  · intro schedule o ran final hok
    obtain ⟨hresult, -, -, hstate, -⟩ :=
      run_failing_of_spares (w := ⟨files, []⟩) (spares_of_ok (stopsOnFailure_run r) hok)
    have hfinal : final = ((run r).run Memory.handler files).state :=
      congrArg Watched.storage hstate
    obtain ⟨report, path, hphases, rfl⟩ := threePhases_of_ok (hresult.symm.trans hok)
    obtain ⟨⟨bytes, hbytes, htext⟩, hheaders, harchive⟩ := hphases.contents
    rw [hfinal, hheaders]
    refine ⟨bytes, hbytes, htext ▸ rfl, congrArg some (toUTF8_render r.metadata htext),
      fun place hplace => ?_⟩
    obtain ⟨archived, hplace, hnodup⟩ := harchive place hplace
    refine ⟨_, hplace, fun hfits => Zip.decode?_encode hfits mode_archiveEntries,
      ⟨_, headersEntry_mem _ _, rfl⟩, fun entry hentry hname => ?_⟩
    rw [eq_headersEntry hnodup hentry hname]
    rfl
  · intro bytes hreadme hnone hbinaries hscripts
    refine ⟨_, result_of_notText (fun path hpath => ?_) hreadme hnone⟩
    rcases Plan.mem_inputs.mp hpath with ⟨name, hname, rfl⟩ | ⟨name, hname, rfl⟩ | rfl
    · exact hbinaries name hname
    · exact hscripts name hname
    · rw [hreadme]
      rfl

/-- The small package, archived, with a long description that the headers overwrite: it arrives all
the same. -/
theorem overwritten_description_arrives :
    let m : Manifest := { (kit {} {}).withDist with
      package := { kitMetadata with readme := "build/lib/PKG-INFO" } }
    let r : Resolved := ⟨m.package, m.plan⟩
    let files := kitFiles.set ⟨"./build/lib/PKG-INFO"⟩ "Hi".toUTF8
    let ran := (run r).run (failing never Memory.handler) ⟨files, []⟩
    r.plan.readme = r.plan.outputDir.join PkgInfo.fileName
      ∧ ran.result.isOk = true
      ∧ ran.state.storage.get? r.plan.readme
        = some ((Text.joinLines (PkgInfo.headers r.metadata)).toUTF8 ++ "\n\n".toUTF8
          ++ "Hi".toUTF8) := by
  intro m r files ran
  have hreadme : r.plan.readme = r.plan.outputDir.join PkgInfo.fileName := by decide +kernel
  have hok : ran.result.isOk = true := by decide +kernel
  refine ⟨hreadme, hok, ?_⟩
  cases hresult : ran.result with
  | error e =>
    rw [hresult] at hok
    cases hok
  | ok o =>
    obtain ⟨bytes, hbytes, -, hheaders, -⟩ :=
      (long_description_reaches_package r files).1 never o hresult
    have hstart : files.get? r.plan.readme = some "Hi".toUTF8 := by decide +kernel
    obtain rfl := Option.some.inj (hbytes.symm.trans hstart)
    rw [hreadme]
    exact hheaders

end Package
end ToolPack
