import ToolPack.Proofs.Manifest.Moved
import ToolPack.Proofs.Package.Apart
import ToolPack.Proofs.Package.Frame
import ToolPack.Proofs.Package.Inside
import ToolPack.Proofs.Storage.NulFree

/-!
# Whether a run asks for a path with a NUL

No system takes a path with a NUL in it.  Every directory that a manifest gives is checked for one,
and so is the path of the long description; names are not.  A plain name stays in its directory, but
a NUL gets past that check, and the name of a package only has to be there.  So the paths of an
accepted plan are free of NUL, and what a run makes of them is so exactly if the names are that end
up in paths: those of all binaries and scripts, and that of the package if its archive is written.

## What is here

* `nulFree_paths_of_resolve`: the paths of an accepted plan;
* `NulFreeNames`: the names that end up in paths;
* `NulFreeNames.calls`, `NulFreeNames.of_calls`: what these names say about the calls of all runs;
* `accepted_paths_nul_free_iff`: the accepted packages whose runs ask for no path with a NUL, and
  which are refused none by any tree of files;
* `nul_stops_run_midway`: an accepted package that is refused the path of its archive, when all else
  has been written.
-/

set_option autoImplicit false

namespace ToolPack

open Storage ToolPack.Action

/-! ## The paths of a plan -/

theorem checkGiven_eq_ok_iff {field : String} {given : Option String} :
    checkGiven field given = .ok () ↔ ∀ path ∈ given, path ≠ "" ∧ '\x00' ∉ path.toList := by
  cases given with
  | none => simp [checkGiven]
  | some path => simp [checkGiven, Check.path_eq_ok_iff]

/-- The directories of an accepted plan have been checked, and so has the long description. -/
theorem nulFree_paths_of_resolve {canonical : Canonical} {m : Manifest} {r : Resolved}
    (hbase : m.baseDir.NulFree) (h : m.resolve canonical = .ok r) :
    ∀ path ∈ r.plan.paths, path.NulFree := by
  obtain ⟨hcheck, -, -, rfl⟩ := Manifest.resolve_eq_ok_iff.mp h
  obtain ⟨hpackage, hbuild, hscriptsDir, hscriptsOutput, -, hdist⟩ :=
    Manifest.check_eq_ok_iff.mp hcheck
  obtain ⟨-, -, -, -, -, -, hreadme, -, -⟩ := Metadata.check_eq_ok_iff.mp hpackage
  obtain ⟨hrootDir, hbinDir, houtputDir, -⟩ := BuildSection.check_eq_ok_iff.mp hbuild
  rw [Check.path_eq_ok_iff] at hreadme hrootDir hbinDir houtputDir
  rw [checkGiven_eq_ok_iff] at hscriptsDir hscriptsOutput hdist
  have hroot : m.root.NulFree := hbase.join hrootDir.2
  have houtput : m.outputDir.NulFree := hroot.join houtputDir.2
  have hscriptsSource : '\x00' ∉ (m.scripts.dir.getD "scripts").toList := by
    cases hdir : m.scripts.dir with
    | none => decide
    | some dir => exact (hscriptsDir dir hdir).2
  have hscripts : m.scriptsOutputDir.NulFree := by
    rw [Manifest.scriptsOutputDir]
    cases hdir : m.scripts.outputDir with
    | none => exact houtput.join (by decide)
    | some dir => exact hroot.join (hscriptsOutput dir hdir).2
  have harchive : ∀ path ∈ m.plan.distDir, path.NulFree := by
    intro path hpath
    obtain ⟨dist, hsome, rfl⟩ := Option.map_eq_some_iff.mp hpath
    obtain ⟨hgiven, -⟩ := Option.filter_eq_some_iff.mp hsome
    exact hroot.join (hdist dist.outputDir (Option.mem_map_of_mem _ hgiven)).2
  simp only [Plan.paths, List.forall_mem_append, List.forall_mem_cons, List.not_mem_nil,
    false_implies, implies_true, and_true, Option.mem_toList]
  exact ⟨⟨hroot.join hbinDir.2, houtput, hroot.join hscriptsSource, hscripts,
    hroot.join hreadme.2⟩, harchive⟩

namespace Package

/-! ## The calls of a run -/

/-- The names that end up in paths are free of NUL: those of the files, and that of the package if
its archive is wanted and no binary with a reserved name keeps it from being built. -/
structure NulFreeNames (r : Resolved) : Prop where
  files : ∀ name ∈ r.plan.binaries ++ r.plan.scripts, '\x00' ∉ name.toList
  package : ∀ dist, r.plan.distDir = some dist →
    (∃ name ∈ reservedNames, name ∈ r.plan.binaries) ∨ '\x00' ∉ r.metadata.name.toList

variable {r : Resolved}

theorem nulFree_inputs (hpaths : ∀ path ∈ r.plan.paths, path.NulFree) (hnames : NulFreeNames r) :
    ∀ path ∈ r.plan.inputs, path.NulFree := by
  intro path hpath
  rcases Plan.mem_inputs.mp hpath with ⟨name, hname, rfl⟩ | ⟨name, hname, rfl⟩ | rfl
  · exact (hpaths _ (by simp [Plan.paths])).join (hnames.files name (by simp [hname]))
  · exact (hpaths _ (by simp [Plan.paths])).join (hnames.files name (by simp [hname]))
  · exact hpaths _ (by simp [Plan.paths])

theorem nulFree_targets (hpaths : ∀ path ∈ r.plan.paths, path.NulFree) (hnames : NulFreeNames r) :
    ∀ c ∈ r.plan.copies, c.2.NulFree := by
  intro c hc
  rcases List.mem_append.mp hc with hc | hc
  · obtain ⟨name, hname, rfl⟩ := List.mem_map.mp hc
    exact (hpaths _ (by simp [Plan.paths])).join (hnames.files name (by simp [hname]))
  · obtain ⟨name, hname, rfl⟩ := List.mem_map.mp hc
    exact (hpaths _ (by simp [Plan.paths])).join (hnames.files name (by simp [hname]))

/-- The name of an archive has the name of the package in it, and a version that has no NUL. -/
theorem mem_archiveName_iff {m : ToolPack.Metadata} (hversion : isVersion m.version = true) :
    '\x00' ∈ (archiveName m).toList ↔ '\x00' ∈ m.name.toList := by
  have hfree : '\x00' ∉ m.version.toList :=
    not_mem_of_isVersion hversion (by decide) (by decide)
  have hdash : '\x00' ∉ "-".toList := by decide
  have hzip : '\x00' ∉ ".zip".toList := by decide
  simp only [archiveName, String.toList_append, List.mem_append, hfree, hdash, hzip, or_false]

/-- A call of a run names directories of the plan, files in them, and the archive if it could be
built. -/
theorem Allowed.nulFree {past : List Exchange} {c : Call}
    (hpaths : ∀ path ∈ r.plan.paths, path.NulFree) (hversion : isVersion r.metadata.version = true)
    (hreserved : r.archiveNames.Nodup ↔ ∀ name ∈ reservedNames, name ∉ r.plan.binaries)
    (hnames : NulFreeNames r) (h : Allowed r past c) : ∀ path ∈ c.paths, path.NulFree := by
  have hinputs := nulFree_inputs hpaths hnames
  have htargets := nulFree_targets hpaths hnames
  have houtput : r.plan.outputDir.NulFree := hpaths _ (by simp [Plan.paths])
  have hscripts : r.plan.scriptsOutputDir.NulFree := hpaths _ (by simp [Plan.paths])
  cases h with
  | look hquiet hlook =>
    cases hlook with
    | size hpath => exact List.forall_mem_singleton.mpr (hinputs _ hpath)
    | read => exact List.forall_mem_singleton.mpr (hinputs _ r.plan.readme_mem_inputs)
  | stage hseen hstage =>
    cases hstage with
    | makeDirs hdir =>
      rcases hdir with rfl | rfl
      · exact List.forall_mem_singleton.mpr houtput
      · exact List.forall_mem_singleton.mpr hscripts
    | copy hcopy =>
      exact List.forall_mem_cons.mpr ⟨hinputs _ (Plan.source_mem_inputs hcopy),
        List.forall_mem_singleton.mpr (htargets _ hcopy)⟩
    | mark hname =>
      exact List.forall_mem_singleton.mpr (hscripts.join (hnames.files _ (by simp [hname])))
  | describe hseen hdescribe =>
    cases hdescribe with
    | headers => exact List.forall_mem_singleton.mpr (houtput.join (by decide))
    | list => exact List.forall_mem_singleton.mpr (houtput.join (by decide))
    | readBack hcopy hcopied => exact List.forall_mem_singleton.mpr (htargets _ hcopy)
    | @archive dir entries bytes hdir hentries hbytes =>
      have hnodup : r.archiveNames.Nodup := hentries ▸ (Zip.build_eq_ok_iff.mp hbytes).1
      have hname : '\x00' ∉ r.metadata.name.toList := by
        refine (hnames.package dir hdir).resolve_left ?_
        rintro ⟨name, hmem, hbinary⟩
        exact hreserved.mp hnodup name hmem hbinary
      have hdist := hpaths dir (by simp [Plan.paths, hdir])
      exact List.forall_mem_singleton.mpr
        (hdist.join ((mem_archiveName_iff hversion).not.mpr hname))

/-- On the sample every copy is made and the archive is written, if it can be.  So if no path there
has a NUL, the names have none. -/
theorem NulFreeNames.of_calls (hversion : isVersion r.metadata.version = true)
    (hreserved : r.archiveNames.Nodup ↔ ∀ name ∈ reservedNames, name ∉ r.plan.binaries)
    (h : ∀ c ∈ ((run r).run Memory.handler (sample r.plan)).calls, ∀ path ∈ c.paths,
      path.NulFree) : NulFreeNames r := by
  obtain ⟨report, archive, hphases, -⟩ := threePhases_of_sound (sound_sample r.plan)
  obtain ⟨front, back, hcalls, -, -, hcopies⟩ := hphases.marks
  rw [map_call_exchanges] at hcalls
  have htarget : ∀ c ∈ r.plan.copies, c.2.NulFree := fun c hc =>
    h (.copy c.1 c.2) (by simp [hcalls, hcopies c hc]) c.2 (by simp [Call.paths])
  refine ⟨fun name hname => ?_, fun dist hdist => ?_⟩
  · rcases List.mem_append.mp hname with hbinary | hscript
    · exact (htarget _ (Plan.binaryCopy_mem hbinary)).of_join
    · exact (htarget _ (Plan.scriptCopy_mem hscript)).of_join
  · by_cases hnodup : r.archiveNames.Nodup
    · obtain ⟨data, hwritten⟩ := archive_mem_calls_sample hdist hnodup
      have hpath := h _ hwritten (archivePath r dist) (by simp [Call.paths, Call.target])
      exact .inr ((mem_archiveName_iff hversion).not.mp hpath.of_join)
    · rw [hreserved] at hnodup
      push Not at hnodup
      exact .inl hnodup

/-! ## Accepted packages -/

/-- **The runs of an accepted package ask for no path with a NUL, on any storage, exactly if the
names that end up in paths have none.**  The paths of its plan never have one.  And where the names
have none, no call of a run is refused for a NUL by a tree of files, whatever is in it. -/
theorem accepted_paths_nul_free_iff {canonical : Canonical} {m : Manifest}
    (hbase : m.baseDir.NulFree) (h : m.resolve canonical = .ok r) :
    (∀ path ∈ r.plan.paths, path.NulFree)
      ∧ ((∀ {σ : Type} (handler : Handler σ) (state : σ),
          ∀ c ∈ ((run r).run handler state).calls, ∀ path ∈ c.paths, path.NulFree)
        ↔ NulFreeNames r)
      ∧ (NulFreeNames r → ∀ t : FileTree, ∀ x ∈ (run r).exchanges FileTree.handler t,
          x.answer ≠ .error FileTree.nulError) := by
  have hpaths := nulFree_paths_of_resolve hbase h
  have hreserved := (acceptedNames_of_resolve h).nodup
  have hversion : isVersion r.metadata.version = true := by
    obtain ⟨hcheck, -, -, rfl⟩ := Manifest.resolve_eq_ok_iff.mp h
    exact (Metadata.check_eq_ok_iff.mp (Manifest.check_eq_ok_iff.mp hcheck).1).2.1
  have hcalls : NulFreeNames r → ∀ {σ : Type} (handler : Handler σ) (state : σ),
      ∀ c ∈ ((run r).run handler state).calls, ∀ path ∈ c.paths, path.NulFree := by
    intro hnames σ handler state c hc
    obtain ⟨past, hallowed⟩ := allowed_of_mem_calls hc
    exact hallowed.nulFree hpaths hversion hreserved hnames
  refine ⟨hpaths, ⟨fun hfree => .of_calls hversion hreserved (hfree Memory.handler _), hcalls⟩,
    fun hnames t x hx => ?_⟩
  have hmem : x.call ∈ ((run r).run FileTree.handler t).calls := by
    rw [← map_call_exchanges]
    exact List.mem_map_of_mem hx
  obtain ⟨before, rest, hsplit⟩ := List.append_of_mem hx
  rw [answer_of_exchanges hsplit]
  exact FileTree.handler_ne_nulError (hcalls hnames FileTree.handler t x.call hmem)

/-- The small package, archived, is refused no path. -/
theorem kit_paths_are_nul_free :
    let m := (kit {} {}).withDist
    let r : Resolved := ⟨m.package, m.plan⟩
    m.baseDir.NulFree ∧ m.resolve (fun _ => none) = .ok r
      ∧ (∀ files : Memory, ∀ c ∈ ((run r).run Memory.handler files).calls, ∀ path ∈ c.paths,
          path.NulFree)
      ∧ ∀ t : FileTree, ∀ x ∈ (run r).exchanges FileTree.handler t,
          x.answer ≠ .error FileTree.nulError := by
  intro m r
  have hbase : m.baseDir.NulFree := by decide
  have haccepted : m.resolve (fun _ => none) = .ok r :=
    Manifest.resolve_eq_of_isOk (by decide +kernel)
  have hnames : NulFreeNames r := by
    refine ⟨by decide +kernel, fun _ _ => .inr (by decide +kernel)⟩
  obtain ⟨-, hcalls, hrefused⟩ := accepted_paths_nul_free_iff hbase haccepted
  exact ⟨hbase, haccepted, hcalls.mpr hnames Memory.handler, hrefused hnames⟩

/-- A manifest that is accepted, with a NUL in the name of the package: the run copies, marks and
describes, and only then is refused the path of its archive. -/
theorem nul_stops_run_midway :
    let m : Manifest := { (kit {} {}).withDist with
      package := { kitMetadata with name := "k\x00it" } }
    let r : Resolved := ⟨m.package, m.plan⟩
    let ran := (run r).run FileTree.handler kitTree
    m.baseDir.NulFree ∧ m.resolve kitTree.canonical = .ok r
      ∧ (∃ c ∈ ran.calls, ∃ path ∈ c.paths, ¬ path.NulFree)
      ∧ ran.result = .error (.io FileTree.nulError)
      ∧ (kitTree.find ⟨"./build/lib"⟩).isOk = false
      ∧ (ran.state.find ⟨"./build/lib/tool"⟩).isOk = true
      ∧ (ran.state.find ⟨"./build/lib/PKG-INFO"⟩).isOk = true := by
  intro m r ran
  have hran : (∃ c ∈ ran.calls, ∃ path ∈ c.paths, ¬ path.NulFree)
      ∧ ran.result.map (fun _ => ()) = .error (.io FileTree.nulError)
      ∧ (ran.state.find ⟨"./build/lib/tool"⟩).isOk = true
      ∧ (ran.state.find ⟨"./build/lib/PKG-INFO"⟩).isOk = true := by decide +kernel
  obtain ⟨hnul, hresult, htool, hheaders⟩ := hran
  exact ⟨by decide, Manifest.resolve_eq_of_isOk (by decide +kernel), hnul,
    eq_error_of_map hresult, by decide +kernel, htool, hheaders⟩

end Package
end ToolPack
