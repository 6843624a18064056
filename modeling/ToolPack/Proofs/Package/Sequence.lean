import ToolPack.Proofs.Package.Success
import ToolPack.Proofs.Path
import ToolPack.Proofs.Storage.Copies

/-!
# The order in which a run writes

A run that gets through has two halves.  In the first one it makes the copies of its plan, in the
order of the plan, and writes nothing else; in the second it copies nothing, and writes the
headers, the list of scripts and the archive.

## What is here

* `copiesOf`: the copies among exchanges;
* `Copying`: the first half, and what the report says about it;
* `Resolved.described`, `Describing`: the paths that the second half writes, and the second half;
* `ThreePhases.halves`: a run that gets through is one half and then the other.
-/

set_option autoImplicit false

namespace ToolPack

open Storage ToolPack.Action

/-- The paths of the files that describe a package: the headers, the list of scripts, and the
archive if one is wanted and can be built. -/
def Resolved.described (r : Resolved) : List Path :=
  [r.plan.outputDir.join PkgInfo.fileName, r.plan.outputDir.join Package.scriptListName]
    ++ if r.archiveNames.Nodup then (r.plan.distDir.map (Package.archivePath r)).toList else []

namespace Package

/-- An archive has its own ending, so it never has the path of a file with another one. -/
theorem archivePath_ne_join (r : Resolved) (dir other : Path) {name : String} (hname : name ≠ "")
    (hlast : name.toList.getLast? ≠ some 'p') : archivePath r dir ≠ other.join name := by
  have hends : (archiveName r.metadata).toList.getLast? = some 'p' := by
    rw [archiveName, String.toList_append, List.getLast?_append_of_ne_nil _ (by decide)]
    decide
  refine Path.join_ne_join dir other (fun hempty => ?_) hname (hends ▸ hlast.symm)
  rw [hempty] at hends
  cases hends

theorem archivePath_ne_headers (r : Resolved) (dir other : Path) :
    archivePath r dir ≠ other.join PkgInfo.fileName :=
  archivePath_ne_join r dir other (by decide) (by decide)

theorem archivePath_ne_list (r : Resolved) (dir other : Path) :
    archivePath r dir ≠ other.join scriptListName :=
  archivePath_ne_join r dir other (by decide) (by decide)

theorem listPath_ne_headers (dir other : Path) :
    dir.join scriptListName ≠ other.join PkgInfo.fileName :=
  Path.join_ne_join dir other (by decide) (by decide) (by decide)

/-- The copies among exchanges, in order. -/
def copiesOf (past : List Exchange) : List (Path × Path) :=
  past.filterMap (·.call.copied?)

theorem copiesOf_append (first second : List Exchange) :
    copiesOf (first ++ second) = copiesOf first ++ copiesOf second :=
  List.filterMap_append

theorem Quiet.copiesOf {past : List Exchange} (h : Quiet past) : copiesOf past = [] := by
  refine List.filterMap_eq_nil_iff.mpr fun x hx => ?_
  have hx := h x hx
  cases hcall : x.call <;> simp_all [Call.copied?, Call.changes]

theorem Copied.copiesOf {dest : Path} {artifacts : List Artifact} {files : List StagedFile}
    {past : List Exchange} (h : Copied dest artifacts files past) :
    copiesOf past = artifacts.map fun artifact => (artifact.source, dest.join artifact.name) := by
  induction h with
  | nil => rfl
  | cons artifact size _ ih => exact congrArg ((artifact.source, dest.join artifact.name) :: ·) ih

/-- Every copy is of a file that the report tells of. -/
theorem Copied.entry {dest : Path} {artifacts : List Artifact} {files : List StagedFile}
    {past : List Exchange} (h : Copied dest artifacts files past) :
    ∀ x ∈ past, ∃ artifact ∈ artifacts, ∃ file ∈ files, file.name = artifact.name
      ∧ x = ⟨.copy artifact.source file.destination, .ok file.size⟩ := by
  induction h with
  | nil => exact fun x hx => absurd hx List.not_mem_nil
  | cons artifact size _ ih =>
    refine List.forall_mem_cons.mpr ⟨⟨artifact, List.mem_cons_self, ⟨artifact.name, _, size⟩,
      List.mem_cons_self, rfl, rfl⟩, fun x hx => ?_⟩
    obtain ⟨a, ha, file, hfile, hname, hx⟩ := ih x hx
    exact ⟨a, List.mem_cons_of_mem _ ha, file, List.mem_cons_of_mem _ hfile, hname, hx⟩

theorem Found.map_copy {dir dest : Path} {names : List String} {found : List Artifact}
    {past : List Exchange} (h : Found dir names found past) :
    found.map (fun artifact => (artifact.source, dest.join artifact.name))
      = names.map fun name => (dir.join name, dest.join name) := by
  induction h with
  | nil => rfl
  | cons name size _ ih => exact congrArg ((dir.join name, dest.join name) :: ·) ih

theorem copiesOf_marking (files : List StagedFile) : copiesOf (marking files) = [] := by
  refine List.filterMap_eq_nil_iff.mpr fun x hx => ?_
  obtain ⟨file, hfile, rfl⟩ := List.mem_map.mp hx
  rfl

/-- The second phase makes the copies of the plan, in order. -/
theorem Staged.copiesOf {plan : Plan} {inputs : Inputs} {report : Report}
    {seen done : List Exchange} (hseen : Verified plan inputs seen)
    (h : Staged plan inputs report done) : copiesOf done = plan.copies := by
  obtain ⟨size, hbin, hscr, -⟩ := hseen
  obtain ⟨hbinaries, hscripts⟩ := h
  have hdirs : ∀ (dir : Path) (past : List Exchange),
      Package.copiesOf (⟨.makeDirs dir, .ok ()⟩ :: past) = Package.copiesOf past :=
    fun dir past => List.filterMap_cons_none rfl
  rw [copiesOf_append, copiesOf_append, hdirs, hdirs, hbinaries.copiesOf, hscripts.copiesOf,
    copiesOf_marking, List.append_nil, hbin.map_copy, hscr.map_copy]
  rfl

/-! ## The two halves -/

/-- A file that a report tells of, and where it was copied from. -/
inductive Reported (plan : Plan) (report : Report) : Path → StagedFile → Prop
  | binary {file : StagedFile} (h : file ∈ report.binaries) :
      Reported plan report (plan.binDir.join file.name) file
  | script {file : StagedFile} (h : file ∈ report.scripts) :
      Reported plan report (plan.scriptsSourceDir.join file.name) file

/-- The first half of a run that gets through: it makes the copies of the plan, and every file of
the report goes with one of them. -/
structure Copying (plan : Plan) (report : Report) (past : List Exchange) : Prop where
  copies : copiesOf past = plan.copies
  reported : ∀ x ∈ past, x.call.written? = none ∨ ∃ source file, Reported plan report source file
    ∧ x = ⟨.copy source file.destination, .ok file.size⟩
  copied : ∀ source file, Reported plan report source file →
    ⟨.copy source file.destination, .ok file.size⟩ ∈ past

theorem Copying.of_phases {plan : Plan} {inputs : Inputs} {report : Report}
    {seen done : List Exchange} (hseen : Verified plan inputs seen)
    (hdone : Staged plan inputs report done) : Copying plan report (seen ++ done) := by
  have htraced := hdone.traced hseen
  have hcopies := hdone.copiesOf hseen
  have hquiet := hseen.quiet
  refine ⟨?_, fun x hx => ?_, ?_⟩
  · rw [copiesOf_append, hquiet.copiesOf, hcopies, List.nil_append]
  · rcases List.mem_append.mp hx with hearly | hlate
    · exact .inl (Call.written?_of_not_changes (hquiet x hearly))
    obtain ⟨size, hbin, hscr, -⟩ := hseen
    obtain ⟨hbinaries, hscripts⟩ := hdone
    simp only [List.mem_append, List.mem_cons] at hlate
    rcases hlate with ((rfl | hx) | rfl | hx) | hx
    · exact .inl rfl
    · obtain ⟨artifact, ha, file, hfile, hname, rfl⟩ := hbinaries.entry x hx
      rw [(hbin.source artifact ha).2, ← hname]
      exact .inr ⟨_, file, .binary hfile, rfl⟩
    · exact .inl rfl
    · obtain ⟨artifact, ha, file, hfile, hname, rfl⟩ := hscripts.entry x hx
      rw [(hscr.source artifact ha).2, ← hname]
      exact .inr ⟨_, file, .script hfile, rfl⟩
    · obtain ⟨file, hfile, rfl⟩ := List.mem_map.mp hx
      exact .inl rfl
  · rintro source file (hfile | hfile)
    · exact List.mem_append_right _ (htraced.binary _ hfile).2.2
    · exact List.mem_append_right _ (htraced.script _ hfile).2.2

/-- A copy of the plan at its turn: the exchange that makes it, behind those of the copies before
it, and the file that the report tells of. -/
theorem Copying.split {plan : Plan} {report : Report} {past : List Exchange}
    (h : Copying plan report past) {before after : List (Path × Path)} {c : Path × Path}
    (hcopies : plan.copies = before ++ c :: after) :
    ∃ front file rest, past = front ++ ⟨.copy c.1 c.2, .ok file.size⟩ :: rest
      ∧ copiesOf front = before ∧ Reported plan report c.1 file ∧ c.2 = file.destination := by
  rw [← h.copies] at hcopies
  obtain ⟨first, later, rfl, hfirst, hlater⟩ := List.filterMap_eq_append_iff.mp hcopies
  obtain ⟨quiet, x, rest, rfl, hquiet, hx, -⟩ := List.filterMap_eq_cons_iff.mp hlater
  rcases h.reported x (by simp) with hnone | ⟨source, file, hfile, rfl⟩
  · rw [Call.copied?_eq_some_iff.mp hx] at hnone
    cases hnone
  · obtain rfl := Option.some.inj hx
    refine ⟨first ++ quiet, file, rest, (List.append_assoc _ _ _).symm, ?_, hfile, rfl⟩
    rw [copiesOf_append, copiesOf, hfirst, copiesOf, List.filterMap_eq_nil_iff.mpr hquiet,
      List.append_nil]

/-- What describes a package. -/
inductive Description (r : Resolved) : ByteArray → Prop
  | headers (text : String) : Description r (PkgInfo.render r.metadata text).toUTF8
  | list : Description r (scriptList r.plan.scripts).toUTF8
  | archive (entries : List Zip.Entry) : Description r (Zip.encode entries)

/-- A call that puts a description in its place. -/
def IsDescribing (r : Resolved) (c : Call) : Prop :=
  ∃ path data, c = .write path data ∧ path ∈ r.described ∧ Description r data

theorem isDescribing_writeHeaders (r : Resolved) (text : String) :
    IsDescribing r (writeHeaders r text) :=
  ⟨_, _, rfl, by simp [Resolved.described], .headers text⟩

theorem isDescribing_writeList (r : Resolved) : IsDescribing r (writeList r) :=
  ⟨_, _, rfl, by simp [Resolved.described], .list⟩

theorem archivePath_mem_described {r : Resolved} {dir : Path} (hdir : r.plan.distDir = some dir)
    (hnames : r.archiveNames.Nodup) : archivePath r dir ∈ r.described := by
  simp [Resolved.described, hdir, hnames]

/-- An archive that could be built is of entries with the foreseen names, which are different. -/
theorem isDescribing_writeArchive {r : Resolved} {dir : Path} {entries : List Zip.Entry}
    {bytes : ByteArray} (hdir : r.plan.distDir = some dir)
    (hnames : entries.map (·.name) = r.archiveNames) (hbytes : Zip.build entries = .ok bytes) :
    IsDescribing r (.write (archivePath r dir) bytes) := by
  obtain ⟨hnodup, rfl⟩ := Zip.build_eq_ok_iff.mp hbytes
  rw [hnames] at hnodup
  exact ⟨_, _, rfl, archivePath_mem_described hdir hnodup, .archive entries⟩

theorem Describes.isDescribing {r : Resolved} {text : String} {done : List Exchange} {c : Call}
    (h : Describes r text done c) : c.changes = false ∨ IsDescribing r c := by
  cases h with
  | headers => exact .inr (isDescribing_writeHeaders r text)
  | list => exact .inr (isDescribing_writeList r)
  | readBack hcopy hcopied => exact .inl rfl
  | archive hdir hnames hbytes => exact .inr (isDescribing_writeArchive hdir hnames hbytes)

/-- The second half of a run that gets through: it puts every description in its place, and
changes nothing else. -/
structure Describing (r : Resolved) (past : List Exchange) : Prop where
  written : ∀ path ∈ r.described, ∃ x ∈ past, x.call.written? = some path
  writes : ∀ x ∈ past, x.call.changes = false ∨ IsDescribing r x.call

theorem ReadBack.quiet {r : Resolved} {report : Report} {pkgInfo : String}
    {result : Except ArchiveError ByteArray} {past : List Exchange}
    (h : ReadBack r report pkgInfo result past) : Quiet past := by
  obtain ⟨hbinaries, hscripts⟩ := h
  exact hbinaries.quiet.append hscripts.quiet

/-- The archive is written exactly if it is wanted and its entries have different names. -/
theorem Archived.describing {r : Resolved} {report : Report} {pkgInfo : String}
    {archive : Except PackError (Option Path)} {done past : List Exchange}
    (htraced : Traced r.plan report done) (h : Archived r report pkgInfo archive past) :
    (∀ dir, r.plan.distDir = some dir → r.archiveNames.Nodup →
        ∃ x ∈ past, x.call.written? = some (archivePath r dir))
      ∧ ∀ x ∈ past, x.call.changes = false ∨ IsDescribing r x.call := by
  cases h with
  | unwanted hnone =>
    refine ⟨fun dir hdir => ?_, fun x hx => absurd hx List.not_mem_nil⟩
    rw [hnone] at hdir
    cases hdir
  | @built dir bytes done' hdir hread =>
    obtain ⟨entries, hnames, hbytes⟩ := hread.entries htraced
    refine ⟨fun other hother _ => ?_, fun x hx => ?_⟩
    · obtain rfl := Option.some.inj (hdir.symm.trans hother)
      exact ⟨_, List.mem_append_right _ List.mem_cons_self, rfl⟩
    · rcases List.mem_append.mp hx with hx | hx
      · exact .inl (hread.quiet x hx)
      · obtain rfl := List.mem_singleton.mp hx
        exact .inr (isDescribing_writeArchive hdir hnames hbytes)
  | @blocked dir e done' hdir hread =>
    obtain ⟨entries, hnames, hbytes⟩ := hread.entries htraced
    refine ⟨fun other _ hnodup => ?_, fun x hx => .inl (hread.quiet x hx)⟩
    exact absurd (hnames.symm ▸ hnodup) (Zip.not_nodup_of_build_eq_error hbytes)

/-- **The two halves of a run that gets through.** -/
theorem ThreePhases.halves {r : Resolved} {report : Report}
    {archive : Except PackError (Option Path)} {past : List Exchange}
    (h : ThreePhases r report archive past) :
    ∃ front back, past = front ++ back ∧ Copying r.plan report front ∧ Describing r back := by
  obtain ⟨hseen, hdone, hwritten⟩ := h
  obtain ⟨harchive, hwrites⟩ := hwritten.describing (hdone.traced hseen)
  refine ⟨_, _, rfl, .of_phases hseen hdone, fun path hpath => ?_, fun x hx => ?_⟩
  · rcases List.mem_append.mp hpath with hpath | hpath
    · simp only [List.mem_cons, List.not_mem_nil, or_false] at hpath
      rcases hpath with rfl | rfl
      · exact ⟨⟨writeHeaders r report.longDescription, .ok ()⟩, by simp [describing], rfl⟩
      · exact ⟨⟨writeList r, .ok ()⟩, by simp [describing], rfl⟩
    · split at hpath
      · rename_i hnodup
        obtain ⟨dir, hdir, rfl⟩ := Option.map_eq_some_iff.mp (Option.mem_toList.mp hpath)
        obtain ⟨x, hx, hxpath⟩ := harchive dir hdir hnodup
        exact ⟨x, List.mem_append_right _ hx, hxpath⟩
      · exact absurd hpath List.not_mem_nil
  · rcases List.mem_append.mp hx with hx | hx
    · simp only [describing, List.mem_cons, List.not_mem_nil, or_false] at hx
      rcases hx with rfl | rfl
      · exact .inr (isDescribing_writeHeaders r _)
      · exact .inr (isDescribing_writeList r)
    · exact hwrites x hx

/-- Whether the archive can be built is a matter of the names of its entries, if it is wanted. -/
theorem ThreePhases.ok_iff {r : Resolved} {report : Report}
    {archive : Except PackError (Option Path)} {past : List Exchange}
    (h : ThreePhases r report archive past) :
    (∃ path, archive = .ok path) ↔ (r.plan.distDir = none ∨ r.archiveNames.Nodup) := by
  obtain ⟨hseen, hdone, hwritten⟩ := h
  cases hwritten with
  | unwanted hnone => exact iff_of_true ⟨_, rfl⟩ (.inl hnone)
  | built hdir hread =>
    obtain ⟨entries, hnames, hbytes⟩ := hread.entries (hdone.traced hseen)
    refine iff_of_true ⟨_, rfl⟩ (.inr ?_)
    rw [← hnames]
    exact (Zip.build_eq_ok_iff.mp hbytes).1
  | blocked hdir hread =>
    obtain ⟨entries, hnames, hbytes⟩ := hread.entries (hdone.traced hseen)
    refine iff_of_false (fun ⟨path, hok⟩ => nomatch hok) ?_
    rintro (hnone | hnodup)
    · rw [hdir] at hnone
      cases hnone
    · exact Zip.not_nodup_of_build_eq_error hbytes (hnames.symm ▸ hnodup)

end Package
end ToolPack
