import ToolPack.Proofs.Package.Archivable
import ToolPack.Proofs.Version

/-!
# When a run stays inside its directories

The names of binaries and scripts are plain, so what is copied goes directly into the directory that
it is copied to, and so do the headers and the list of scripts.  The archive is called after the
package, and the name of a package only has to be there: it can have slashes in it.  Then the
archive is not in the directory of archives but where the front part of the name leads from there,
and in the archive the scripts are where that part leads from the place it is unpacked at.

## What is here

* `Plan.outputDirs`: the directories that a run is to write to;
* `components_archivePath`, `components_scriptEntryName`: where the name of a package leads;
* `KeepsInside`: calls that write into these directories only, and an archive that leads nowhere
  else when it is unpacked;
* `Contained`: the plans whose archive leads nowhere else;
* `AcceptedNames`: what the checks say about the names in a plan, and what follows for its runs
  (`AcceptedNames.keepsInside`, `AcceptedNames.contained`);
* `accepted_run_stays_inside_iff`: the runs of an accepted package keep inside exactly if its plan
  is contained or its archive is never written;
* `name_leads_outside`: a manifest that is accepted and whose plan is not contained.
-/

set_option autoImplicit false

namespace ToolPack

open Storage ToolPack.Action ToolPack.Path

/-- The directories that a run is to write to. -/
def Plan.outputDirs (plan : Plan) : List Path :=
  [plan.outputDir, plan.scriptsOutputDir] ++ plan.distDir.toList

namespace Package

/-! ## Where the name of a package leads -/

/-- A name that is long enough is neither of the two special ones. -/
theorem fileName_append {last suffix : String} (hlast : '/' ∉ last.toList)
    (hsuffix : '/' ∉ suffix.toList) (hlong : 2 < suffix.length) : FileName (last ++ suffix) := by
  have hne : ∀ text : String, text.length ≤ 2 → last ++ suffix ≠ text := by
    rintro text hshort rfl
    rw [String.length_append] at hshort
    omega
  refine ⟨?_, hne "" (by decide), hne "." (by decide), hne ".." (by decide)⟩
  rw [String.toList_append, List.mem_append]
  exact not_or.mpr ⟨hlast, hsuffix⟩

/-- The archive is where the front part of the name leads from the directory of archives. -/
theorem components_archivePath {r : Resolved} (dist : Path)
    (hversion : '/' ∉ r.metadata.version.toList) :
    (archivePath r dist).components = (dist.join (directoryPart r.metadata.name)).components
      ++ [.named (lastPart r.metadata.name ++ ("-" ++ r.metadata.version ++ ".zip"))] := by
  have hname : archiveName r.metadata = directoryPart r.metadata.name
      ++ (lastPart r.metadata.name ++ ("-" ++ r.metadata.version ++ ".zip")) := by
    rw [← String.append_assoc, directoryPart_append_lastPart, archiveName, String.append_assoc,
      String.append_assoc, String.append_assoc]
  rw [archivePath, hname]
  refine components_join_append (isOpen_directoryPart _)
    (fileName_append (not_mem_lastPart _) ?_ ?_)
  · simpa using hversion
  · have hzip : ".zip".length = 4 := by decide
    rw [String.length_append, String.length_append, hzip]
    omega

/-- A script in the archive is two directories below where the front part of the name leads. -/
theorem components_scriptEntryName (m : ToolPack.Metadata) {script : String}
    (hscript : FileName script) :
    components ⟨scriptEntryName m script⟩ = components ⟨directoryPart m.name⟩
      ++ [.named (lastPart m.name ++ ".data"), .named "scripts", .named script] := by
  have hdata : FileName (lastPart m.name ++ ".data") :=
    fileName_append (not_mem_lastPart _) (by decide) (by decide)
  have hscripts : FileName "scripts" := by decide
  have hsplit : scriptEntryName m script
      = directoryPart m.name ++ (lastPart m.name ++ ".data") ++ "/" ++ "scripts" ++ "/"
        ++ script := by
    rw [← String.append_assoc, directoryPart_append_lastPart, scriptEntryName]
    simp only [String.append_assoc]
    rfl
  rw [hsplit, components_append_name (.inr ⟨_, rfl⟩) hscript,
    components_append_name_slash (.inr ⟨_, rfl⟩) hscripts,
    components_append_name_slash (isOpen_directoryPart _) hdata, List.append_assoc,
    List.append_assoc]
  rfl

/-- A name without slashes leads nowhere. -/
theorem staysBelow_directoryPart {name : String} (h : '/' ∉ name.toList) :
    StaysBelow ⟨directoryPart name⟩ := by
  rw [directoryPart_of_not_mem h]
  decide

/-! ## Outputs and entries -/

theorem fileName_headers : FileName PkgInfo.fileName := by decide

theorem fileName_list : FileName scriptListName := by decide

theorem fileName_record : FileName Record.fileName := by decide

/-- A copy of an accepted plan goes directly into a directory of the run. -/
theorem isChildOf_of_copy {plan : Plan} {c : Path × Path}
    (hbinaries : ∀ name ∈ plan.binaries, FileName name)
    (hscripts : ∀ name ∈ plan.scripts, FileName name) (hc : c ∈ plan.copies) :
    ∃ dir ∈ plan.outputDirs, c.2.IsChildOf dir := by
  rcases List.mem_append.mp hc with hc | hc
  · obtain ⟨name, hname, rfl⟩ := List.mem_map.mp hc
    exact ⟨plan.outputDir, by simp [Plan.outputDirs], isChildOf_join _ (hbinaries name hname)⟩
  · obtain ⟨name, hname, rfl⟩ := List.mem_map.mp hc
    exact ⟨plan.scriptsOutputDir, by simp [Plan.outputDirs], isChildOf_join _ (hscripts name hname)⟩

/-- The entries of an archive stay below the place that it is unpacked at exactly if there are no
scripts or the front part of the name does. -/
theorem staysBelow_archiveNames_iff {r : Resolved}
    (hbinaries : ∀ name ∈ r.plan.binaries, FileName name)
    (hscripts : ∀ name ∈ r.plan.scripts, FileName name) :
    (∀ name ∈ r.archiveNames, StaysBelow ⟨name⟩)
      ↔ r.plan.scripts = [] ∨ StaysBelow ⟨directoryPart r.metadata.name⟩ := by
  have hentry : ∀ script ∈ r.plan.scripts, StaysBelow ⟨scriptEntryName r.metadata script⟩
      ↔ StaysBelow ⟨directoryPart r.metadata.name⟩ := by
    intro script hscript
    simp [StaysBelow, components_scriptEntryName r.metadata (hscripts script hscript)]
  simp only [Resolved.archiveNames, List.forall_mem_append, List.forall_mem_map]
  constructor
  · rintro ⟨⟨-, hbelow⟩, -⟩
    cases hnames : r.plan.scripts with
    | nil => exact .inl rfl
    | cons script scripts =>
      have hmem : script ∈ r.plan.scripts := by simp [hnames]
      exact .inr ((hentry script hmem).mp (hbelow script hmem))
  · intro hbelow
    refine ⟨⟨fun name hname => (hbinaries name hname).staysBelow, fun script hmem => ?_⟩,
      List.forall_mem_cons.mpr ⟨fileName_headers.staysBelow,
        List.forall_mem_singleton.mpr fileName_record.staysBelow⟩⟩
    rcases hbelow with hnil | hbelow
    · rw [hnil] at hmem
      exact absurd hmem List.not_mem_nil
    · exact (hentry script hmem).mpr hbelow

/-- The call that writes an archive carries one whose entries have the foreseen names, which are
different. -/
theorem Allowed.archive {r : Resolved} {past : List Exchange} {dist : Path} {data : ByteArray}
    (h : Allowed r past (.write (archivePath r dist) data)) :
    r.archiveNames.Nodup ∧ ∃ entries : List Zip.Entry, data = Zip.encode entries
      ∧ entries.map (·.name) = r.archiveNames := by
  generalize hc : Call.write (archivePath r dist) data = c at h
  cases h with
  | look hquiet hlook => exact absurd (hc ▸ hlook.not_changes) (by simp [Call.changes])
  | stage hseen hstage =>
    subst hc
    cases hstage
  | describe hseen hdescribe =>
    cases hdescribe with
    | headers => exact absurd (Call.write.inj hc).1 (archivePath_ne_headers r dist _)
    | list => exact absurd (Call.write.inj hc).1 (archivePath_ne_list r dist _)
    | readBack hcopy hcopied => cases hc
    | archive hdir hnames hbytes =>
      obtain ⟨-, rfl⟩ := Call.write.inj hc
      obtain ⟨hnodup, hdata⟩ := Zip.build_eq_ok_iff.mp hbytes
      exact ⟨hnames ▸ hnodup, _, hdata, hnames⟩

/-! ## Calls that keep inside -/

/-- Calls that put bytes directly into the directories of a run only, and no archive but one whose
entries stay below the place that it is unpacked at. -/
structure KeepsInside (r : Resolved) (calls : List Call) : Prop where
  written : ∀ c ∈ calls, ∀ path, c.written? = some path →
    ∃ dir ∈ r.plan.outputDirs, path.IsChildOf dir
  archived : ∀ dist data, r.plan.distDir = some dist → .write (archivePath r dist) data ∈ calls →
    ∃ entries : List Zip.Entry, data = Zip.encode entries
      ∧ entries.map (·.name) = r.archiveNames ∧ ∀ entry ∈ entries, StaysBelow ⟨entry.name⟩

/-- Plans whose archive does not lead outside: the front part of the name leads to a directory of
the run, and scripts in the archive are not led up or to the root. -/
structure Contained (r : Resolved) (dist : Path) : Prop where
  archive : ∃ dir ∈ r.plan.outputDirs,
    (dist.join (directoryPart r.metadata.name)).components = dir.components
  scripts : r.plan.scripts = [] ∨ StaysBelow ⟨directoryPart r.metadata.name⟩

/-- A name without slashes leads nowhere else. -/
theorem contained_of_not_mem {r : Resolved} {dist : Path} (hdist : r.plan.distDir = some dist)
    (h : '/' ∉ r.metadata.name.toList) : Contained r dist := by
  refine ⟨⟨dist, by simp [Plan.outputDirs, hdist], ?_⟩, .inr (staysBelow_directoryPart h)⟩
  rw [directoryPart_of_not_mem h]
  exact components_join_empty dist

/-- What the checks of a manifest say about the names in its plan. -/
structure AcceptedNames (r : Resolved) : Prop where
  binaries : ∀ name ∈ r.plan.binaries, FileName name
  scripts : ∀ name ∈ r.plan.scripts, FileName name
  version : '/' ∉ r.metadata.version.toList
  nodup : r.archiveNames.Nodup ↔ ∀ name ∈ reservedNames, name ∉ r.plan.binaries

theorem acceptedNames_of_resolve {canonical : Canonical} {m : Manifest} {r : Resolved}
    (h : m.resolve canonical = .ok r) : AcceptedNames r := by
  obtain ⟨⟨hbinaries, hbinaryNames⟩, hscripts, hscriptNames⟩ := Manifest.names_of_resolve h
  obtain ⟨hcheck, -, -, rfl⟩ := Manifest.resolve_eq_ok_iff.mp h
  obtain ⟨hpackage, -⟩ := Manifest.check_eq_ok_iff.mp hcheck
  obtain ⟨-, hversion, -⟩ := Metadata.check_eq_ok_iff.mp hpackage
  exact ⟨fun name hname => (hbinaries name hname).fileName,
    fun name hname => (hscripts name hname).fileName,
    not_mem_of_isVersion hversion (by decide) (by decide),
    nodup_archiveNames_iff (nodup_fileNames hbinaries hbinaryNames hscriptNames)⟩

/-- A contained plan keeps its runs inside, whatever the storage is and however it answers. -/
theorem AcceptedNames.keepsInside {σ : Type} {r : Resolved} (hnamed : AcceptedNames r)
    (h : ∀ dist, r.plan.distDir = some dist →
      (∃ name ∈ reservedNames, name ∈ r.plan.binaries) ∨ Contained r dist)
    (handler : Handler σ) (state : σ) : KeepsInside r ((run r).run handler state).calls := by
  -- an archive that is written has different names, so no binary has a reserved one
  have hcontained : ∀ dist, r.plan.distDir = some dist → r.archiveNames.Nodup →
      Contained r dist := by
    intro dist hdist hnodup
    refine (h dist hdist).resolve_left ?_
    rintro ⟨name, hreserved, hbinary⟩
    exact hnamed.nodup.mp hnodup name hreserved hbinary
  refine ⟨fun c hc path hpath => ?_, fun dist data hdist hmem => ?_⟩
  · obtain ⟨past, hallowed⟩ := allowed_of_mem_calls hc
    rcases hallowed.target_or_described hpath with ⟨copy, hcopy, rfl⟩ | hdescribed
    · exact isChildOf_of_copy hnamed.binaries hnamed.scripts hcopy
    rcases List.mem_append.mp hdescribed with hfixed | harchive
    · simp only [List.mem_cons, List.not_mem_nil, or_false] at hfixed
      refine ⟨r.plan.outputDir, by simp [Plan.outputDirs], ?_⟩
      rcases hfixed with rfl | rfl
      · exact isChildOf_join _ fileName_headers
      · exact isChildOf_join _ fileName_list
    · split at harchive
      · rename_i hnodup
        obtain ⟨dist, hdist, rfl⟩ := Option.map_eq_some_iff.mp (Option.mem_toList.mp harchive)
        obtain ⟨dir, hdir, hsame⟩ := (hcontained dist hdist hnodup).archive
        exact ⟨dir, hdir, (isChildOf_iff (components_archivePath dist hnamed.version)).mpr hsame⟩
      · exact absurd harchive List.not_mem_nil
  · obtain ⟨past, hallowed⟩ := allowed_of_mem_calls hmem
    obtain ⟨hnodup, entries, rfl, hnames⟩ := hallowed.archive
    have hbelow := (staysBelow_archiveNames_iff hnamed.binaries hnamed.scripts).mpr
      (hcontained dist hdist hnodup).scripts
    rw [← hnames, List.forall_mem_map] at hbelow
    exact ⟨entries, rfl, hnames, hbelow⟩

/-- A run that writes its archive and keeps inside is that of a contained plan. -/
theorem AcceptedNames.contained {r : Resolved} (hnamed : AcceptedNames r) {calls : List Call}
    {dist : Path} {data : ByteArray} (h : KeepsInside r calls) (hdist : r.plan.distDir = some dist)
    (hwritten : .write (archivePath r dist) data ∈ calls) : Contained r dist := by
  obtain ⟨dir, hdir, hchild⟩ := h.written _ hwritten _ rfl
  obtain ⟨entries, -, hnames, hbelow⟩ := h.archived dist data hdist hwritten
  refine ⟨⟨dir, hdir, (isChildOf_iff (components_archivePath dist hnamed.version)).mp hchild⟩, ?_⟩
  refine (staysBelow_archiveNames_iff hnamed.binaries hnamed.scripts).mp ?_
  rw [← hnames, List.forall_mem_map]
  exact hbelow

/-- On the sample the archive is written, if it can be. -/
theorem archive_mem_calls_sample {r : Resolved} {dist : Path} (hdist : r.plan.distDir = some dist)
    (hnodup : r.archiveNames.Nodup) :
    ∃ data, .write (archivePath r dist) data
      ∈ ((run r).run Memory.handler (sample r.plan)).calls := by
  obtain ⟨report, archive, hphases, -⟩ := threePhases_of_sound (sound_sample r.plan)
  obtain ⟨front, back, hx, -, hdescribing⟩ := hphases.halves
  obtain ⟨x, hmem, hpath⟩ :=
    hdescribing.written _ (archivePath_mem_described hdist hnodup)
  rcases hdescribing.writes x hmem with hquiet | ⟨other, data, hcall, -, -⟩
  · rw [Call.written?_of_not_changes hquiet] at hpath
    cases hpath
  · rw [hcall] at hpath
    obtain rfl := Option.some.inj hpath
    refine ⟨data, ?_⟩
    rw [← map_call_exchanges, hx, ← hcall]
    exact List.mem_map_of_mem (List.mem_append_right _ hmem)

/-- **The runs of an accepted package keep inside its directories, whatever the storage is and
whichever calls fail, exactly if its archive is contained**, that is if no archive is wanted, if a
binary with a reserved name keeps it from being built, or if the front part of the package's name
leads to a directory of the run and does not lead scripts outside.  A name without slashes always
does. -/
theorem accepted_run_stays_inside_iff {canonical : Canonical} {m : Manifest} {r : Resolved}
    (h : m.resolve canonical = .ok r) :
    (∀ (files : Memory) (schedule : Schedule),
        KeepsInside r ((run r).run (failing schedule Memory.handler) ⟨files, []⟩).calls)
      ↔ ∀ dist, r.plan.distDir = some dist →
          (∃ name ∈ reservedNames, name ∈ r.plan.binaries) ∨ Contained r dist := by
  have hnamed := acceptedNames_of_resolve h
  constructor
  · intro hinside dist hdist
    by_cases hnodup : r.archiveNames.Nodup
    · right
      obtain ⟨data, hwritten⟩ := archive_mem_calls_sample hdist hnodup
      rw [← map_call_exchanges, ← exchanges_never, map_call_exchanges] at hwritten
      exact hnamed.contained (hinside (sample r.plan) never) hdist hwritten
    · left
      rw [hnamed.nodup] at hnodup
      push Not at hnodup
      exact hnodup
  · intro hcontained files schedule
    exact hnamed.keepsInside hcontained _ _

/-- The small package, archived, keeps inside. -/
theorem kit_stays_inside :
    let m := (kit {} {}).withDist
    let r : Resolved := ⟨m.package, m.plan⟩
    m.resolve (fun _ => none) = .ok r
      ∧ ∀ (files : Memory) (schedule : Schedule),
        KeepsInside r ((run r).run (failing schedule Memory.handler) ⟨files, []⟩).calls := by
  intro m r
  have haccepted : m.resolve (fun _ => none) = .ok r :=
    Manifest.resolve_eq_of_isOk (by decide +kernel)
  refine ⟨haccepted, (accepted_run_stays_inside_iff haccepted).mpr fun dist hdist => .inr ?_⟩
  exact contained_of_not_mem hdist (by decide)

/-- A manifest that is accepted and whose name leads up: the archive is written beside the directory
of archives, and its script leads outside when it is unpacked. -/
theorem name_leads_outside :
    let m : Manifest := { (kit {} {}).withDist with
      package := { kitMetadata with name := "../kit" } }
    let r : Resolved := ⟨m.package, m.plan⟩
    let path : Path := ⟨"./dist/../kit-1.0.zip"⟩
    let calls := ((run r).run (failing never Memory.handler) ⟨kitFiles, []⟩).calls
    m.resolve (fun _ => none) = .ok r
      ∧ (∀ dir ∈ r.plan.outputDirs, ¬ path.IsChildOf dir)
      ∧ ∃ entries : List Zip.Entry, .write path (Zip.encode entries) ∈ calls
        ∧ ∃ entry ∈ entries, entry.name = "../kit.data/scripts/tool"
          ∧ ¬ StaysBelow ⟨entry.name⟩ := by
  intro m r path calls
  have hwritten : ∃ c ∈ calls, ∃ data, c = .write path data := by
    have hany : calls.any (fun c => match c with
      | .write other _ => decide (other = path)
      | _ => false) = true := by decide +kernel
    obtain ⟨c, hc, hpath⟩ := List.any_eq_true.mp hany
    cases c with
    | write other data => exact ⟨_, hc, data, by rw [of_decide_eq_true hpath]⟩
    | _ => cases hpath
  obtain ⟨c, hc, data, rfl⟩ := hwritten
  obtain ⟨past, hallowed⟩ := allowed_of_mem_calls hc
  have hpath : path = archivePath r ⟨"./dist"⟩ := by decide +kernel
  rw [hpath] at hallowed
  obtain ⟨-, entries, rfl, hnames⟩ := hallowed.archive
  have hscript : "../kit.data/scripts/tool" ∈ entries.map (·.name) := by
    rw [hnames]
    decide +kernel
  obtain ⟨entry, hentry, hname⟩ := List.mem_map.mp hscript
  refine ⟨Manifest.resolve_eq_of_isOk (by decide +kernel), fun dir hdir hchild => ?_, entries, hc,
    entry, hentry, hname, ?_⟩
  · have hcomponents : path.components = [.here, .named "dist", .up] ++ [.named "kit-1.0.zip"] := by
      decide +kernel
    have hother : ∀ dir ∈ r.plan.outputDirs,
        [.here, .named "dist", .up] ≠ dir.components := by decide +kernel
    exact hother dir hdir ((isChildOf_iff hcomponents).mp hchild)
  · rw [hname]
    decide +kernel

end Package
end ToolPack
