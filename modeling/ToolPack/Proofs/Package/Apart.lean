import ToolPack.Proofs.Manifest.Accepted
import ToolPack.Proofs.Package.FailFast
import ToolPack.Proofs.Package.Sample
import ToolPack.Proofs.Storage.Obstacles
import ToolPack.Proofs.Storage.Retreat

/-!
# Directories that are kept apart

A manifest is refused if it would have files copied into the directory that they come from.  If
that directory is not there yet when it is asked for, nothing but its spelling can be compared.
Then it is made, together with everything that was lacking on its way.

## What is here

* `Meet`: paths that lead to one directory, `MeetUnresolved`: of which one cannot be resolved, and
  `WillMeet`: paths that are going to meet;
* `MadeApart`: what is known of a directory once it has been made; `madeApart_of_grows`: why;
* `isFile_of_changes`, `exists_dir_of_makeDirs`: what a run has found before it changes anything,
  and what is there once it has made a directory;
* `made_directories_are_apart`: the directories that a run makes are apart from those that it
  copies from, unless they were to meet;
* `directories_meet`: paths that do meet.
-/

set_option autoImplicit false

namespace ToolPack
namespace Package

open Storage FileTree ToolPack.Action ToolPack.Path

variable {start now : FileTree} {dir source : Path} {names : List String} {place : Location}

/-! ## Paths that meet -/

/-- Two paths lead to one directory. -/
def Meet (t : FileTree) (dir source : Path) : Prop :=
  ∃ place, t.find dir = .ok (place, .dir) ∧ t.find source = .ok (place, .dir)

/-- Two paths lead to one directory, but one of them has no canonical path, as the path to resolve
it with is too long.  The check before a run compares canonical paths where it has both of them and
spellings otherwise, so it does not see that these two are one directory. -/
def MeetUnresolved (t : FileTree) (dir source : Path) : Prop :=
  Meet t dir source ∧ (t.canonical dir = none ∨ t.canonical source = none)

/-- Two paths, one of which leads to no directory, are to meet: both lead to one place if a
directory is made for every name that is lacking on their ways. -/
def WillMeet (t : FileTree) (dir source : Path) : Prop :=
  (t.leadsToDir dir = false ∨ t.leadsToDir source = false)
    ∧ ∃ place, t.PathForeseen dir place ∧ t.PathForeseen source place

theorem meet_of_walk {t : FileTree} (place : Location) (hdir : t.walk .find dir = .ok place)
    (hsource : t.walk .find source = .ok place) (h : t.isDir place = true) : Meet t dir source :=
  ⟨place, find_eq_ok_iff.mpr ⟨hdir, node?_of_isDir h⟩,
    find_eq_ok_iff.mpr ⟨hsource, node?_of_isDir h⟩⟩

theorem Meet.grow (h : Meet start dir source) (hgrows : Grows start now) : Meet now dir source := by
  obtain ⟨place, hdir, hsource⟩ := h
  exact ⟨place, find_dir_grow hdir hgrows, find_dir_grow hsource hgrows⟩

/-- Where two paths to one directory pass for different ones, one of them is not resolved. -/
theorem Meet.unresolved (h : Meet start dir source)
    (hdistinct : Check.sameDir start.canonical dir source = false) :
    MeetUnresolved start dir source := by
  refine ⟨h, ?_⟩
  obtain ⟨place, hdir, hsource⟩ := h
  cases hd : start.canonical dir with
  | none => exact .inl rfl
  | some told =>
    cases hs : start.canonical source with
    | none => exact .inr rfl
    | some told' =>
      obtain rfl := eq_of_canonical hd hdir
      obtain rfl := eq_of_canonical hs hsource
      simp [Check.sameDir, hd, hs] at hdistinct

/-- Paths that meet have met before, or were to. -/
theorem Meet.before (h : Meet now dir source) (hgrows : Grows start now) :
    Meet start dir source ∨ WillMeet start dir source := by
  obtain ⟨place, hdir, hsource⟩ := h
  cases hd : start.leadsToDir dir with
  | false =>
    exact .inr ⟨.inl hd, place, find_foreseen hdir hgrows, find_foreseen hsource hgrows⟩
  | true =>
    cases hs : start.leadsToDir source with
    | false =>
      exact .inr ⟨.inr hs, place, find_foreseen hdir hgrows, find_foreseen hsource hgrows⟩
    | true =>
      obtain ⟨there, hbefore⟩ := leadsToDir_iff.mp hd
      obtain ⟨there', hbefore'⟩ := leadsToDir_iff.mp hs
      cases (find_dir_grow hbefore hgrows).symm.trans hdir
      cases (find_dir_grow hbefore' hgrows).symm.trans hsource
      exact .inl ⟨_, hbefore, hbefore'⟩

/-- A path that meets one that has led to a directory has met it before, or goes up behind a name
that was lacking. -/
theorem Meet.retreats (h : Meet now dir source) (hclosed : Closed start)
    (hgrows : Grows start now) (hsource : start.find source = .ok (place, .dir)) :
    Meet start dir source ∨ start.PathRetreats dir := by
  obtain ⟨there, hdir, hthere⟩ := h
  cases (find_dir_grow hsource hgrows).symm.trans hthere
  by_cases hretreats : start.PathRetreats dir
  · exact .inr hretreats
  rcases find_before hdir hclosed hgrows hretreats with hbefore | hnew
  · exact .inl ⟨_, hbefore, hsource⟩
  · rw [(find_eq_ok_iff.mp hsource).2] at hnew
    cases hnew

/-- A path that was to meet one that has led to a directory meets it once its directory is there. -/
theorem WillMeet.meet {there : Location} (h : WillMeet start dir source) (hclosed : Closed start)
    (hgrows : Grows start now) (hdir : now.find dir = .ok (there, .dir))
    (hsource : start.find source = .ok (place, .dir)) : Meet now dir source := by
  obtain ⟨-, goal, hforeseen, hforeseen'⟩ := h
  obtain rfl := (find_foreseen hdir hgrows).unique hforeseen
  obtain rfl := (find_foreseen hsource (.refl hclosed)).unique hforeseen'
  exact ⟨_, hdir, find_dir_grow hsource hgrows⟩

/-! ## Directories that have been made -/

/-- What is known of a directory that has been made and of the one that files of the given names
are copied from, as far as it could be known at the start. -/
structure MadeApart (start now : FileTree) (dir source : Path) (names : List String) : Prop where
  /-- The directory is there; the root is none that is made. -/
  exists_dir : dir.parent?.isSome → ∃ place, now.find dir = .ok (place, .dir)
  /-- It is not the source, unless the paths were to meet; for that, the path goes up behind a name
  that was lacking, or the source was lacking itself. -/
  meets : Meet now dir source → MeetUnresolved start dir source
    ∨ WillMeet start dir source ∧ (start.leadsToDir source = true → start.PathRetreats dir)
  /-- Paths that were to meet do so, as there is no other place for the directory. -/
  met : names ≠ [] → dir.parent?.isSome → WillMeet start dir source → Meet now dir source
  /-- In a directory that was not there, no copy is taken for one of a file onto itself. -/
  unrefused : ∀ place, now.find dir = .ok (place, .dir) → start.node? place = none →
    ∀ name ∈ names, now.samePlace (source.join name) (dir.join name) = false

theorem madeApart_of_grows (hclosed : Closed start) (hgrows : Grows start now)
    (hmade : dir.parent?.isSome → ∃ place, now.find dir = .ok (place, .dir))
    (hsource : source.text ≠ "")
    (hnames : ∀ name ∈ names, PlainName name ∧ start.IsFile (source.join name))
    (hdistinct : Check.sameDir start.canonical dir source = false) :
    MadeApart start now dir source names where
  exists_dir := hmade
  meets := by
    intro hmeet
    rcases hmeet.before hgrows with hbefore | hwill
    · exact .inl (hbefore.unresolved hdistinct)
    cases hthere : start.leadsToDir source with
    | false => exact .inr ⟨hwill, nofun⟩
    | true =>
      obtain ⟨place, hfind⟩ := leadsToDir_iff.mp hthere
      rcases hmeet.retreats hclosed hgrows hfind with hbefore | hretreats
      · exact .inl (hbefore.unresolved hdistinct)
      · exact .inr ⟨hwill, fun _ => hretreats⟩
  met := by
    intro hnames' hparent hwill
    obtain ⟨name, hname⟩ := List.exists_mem_of_ne_nil _ hnames'
    obtain ⟨hplain, spot, data, mode, hfile⟩ := hnames name hname
    obtain ⟨place, hfind⟩ := find_dir_of_find_join hplain.fileName hsource hfile
    obtain ⟨there, hdir⟩ := hmade hparent
    exact hwill.meet hclosed hgrows hdir hfind
  unrefused := by
    intro there hdir hnew name hname
    obtain ⟨hplain, spot, data, mode, hfile⟩ := hnames name hname
    exact samePlace_of_new hclosed hgrows hfile hdir hnew hplain.fileName

/-! ## Runs -/

variable {m : Manifest} {r : Resolved} {t : FileTree} {done rest : List Exchange}

/-- A run that gets to a call that changes something started with everything that it needs. -/
theorem isFile_of_changes {x : Exchange}
    (hx : (run r).exchanges FileTree.handler t = done ++ x :: rest)
    (hc : x.call.changes = true) : ∀ path ∈ r.plan.inputs, t.IsFile path := by
  obtain ⟨inputs, seen, more, hseen, rfl⟩ := (allowed_of_exchanges hx).verified hc
  rw [List.append_assoc] at hx
  intro path hpath
  obtain ⟨size, hsize⟩ := hseen.confirmed.sighted path hpath
  exact isFile_of_size (looksOnly_tree.answer_eq hx hseen.quiet hsize).symm

/-- A directory that has been made is there from then on. -/
theorem exists_dir_of_makeDirs (hclosed : Closed t)
    (hx : (run r).exchanges FileTree.handler t = done ++ rest)
    (hmade : ⟨.makeDirs dir, .ok ()⟩ ∈ done) (hparent : dir.parent?.isSome) :
    ∃ place, (after FileTree.handler (done.map (·.call)) t).find dir = .ok (place, .dir) := by
  obtain ⟨before, behind, rfl⟩ := List.append_of_mem hmade
  rw [List.append_assoc, List.cons_append] at hx
  have hthere := grows_after hclosed (before.map (·.call))
  have hanswer := (answer_of_exchanges hx).symm
  have hmade : (after FileTree.handler (before.map (·.call)) t).makeDirs dir
      = (.ok (), (FileTree.handler (.makeDirs dir)
        (after FileTree.handler (before.map (·.call)) t)).2) := Prod.ext hanswer rfl
  obtain ⟨place, hfind⟩ := find_of_makeDirs hthere.closed hparent hmade
  refine ⟨place, ?_⟩
  rw [List.map_append, List.map_cons, after_append, after_cons]
  exact find_dir_grow hfind (grows_after (grows_handler hthere.closed _).closed _)

/-- A directory that a run has made is apart from one that is told from it and holds inputs. -/
theorem madeApart_of_makeDirs (hclosed : Closed t)
    (hx : (run r).exchanges FileTree.handler t = done ++ rest)
    (hmade : ⟨.makeDirs dir, .ok ()⟩ ∈ done) (hsource : source.text ≠ "")
    (hnames : ∀ name ∈ names, PlainName name ∧ source.join name ∈ r.plan.inputs)
    (hdistinct : Check.sameDir t.canonical dir source = false) :
    MadeApart t (after FileTree.handler (done.map (·.call)) t) dir source names := by
  have hthere := exists_dir_of_makeDirs hclosed hx hmade
  refine madeApart_of_grows hclosed (grows_after hclosed _) hthere hsource ?_ hdistinct
  intro name hname
  obtain ⟨hplain, hinput⟩ := hnames name hname
  obtain ⟨before, behind, rfl⟩ := List.append_of_mem hmade
  rw [List.append_assoc, List.cons_append] at hx
  exact ⟨hplain, isFile_of_changes hx rfl _ hinput⟩

/-- The directories that an accepted manifest has things copied from are written out. -/
theorem sources_ne_empty (h : m.resolve t.canonical = .ok r) :
    r.plan.binDir.text ≠ "" ∧ r.plan.scriptsSourceDir.text ≠ "" := by
  obtain ⟨hcheck, -, -, rfl⟩ := Manifest.resolve_eq_ok_iff.mp h
  obtain ⟨-, hbuild, hscripts, -⟩ := Manifest.check_eq_ok_iff.mp hcheck
  obtain ⟨-, hbin, -⟩ := BuildSection.check_eq_ok_iff.mp hbuild
  refine ⟨join_ne_empty _ (Check.path_eq_ok_iff.mp hbin).1, join_ne_empty _ ?_⟩
  cases hdir : m.scripts.dir with
  | none => decide
  | some dir =>
    rw [hdir] at hscripts
    exact (Check.path_eq_ok_iff.mp hscripts).1

/-- **The directories that a run makes are not those that it copies from, unless they were to
meet.**  At every moment of a run of an accepted manifest, a directory that has been made is there,
and it is another one than its source, unless its path was to come back to the source, or led there
from the start and was not told to do so.  If it was not there at the start, no copy into it is
taken for one of a file onto itself. -/
theorem made_directories_are_apart (hclosed : Closed t) (h : m.resolve t.canonical = .ok r)
    (hx : (run r).exchanges FileTree.handler t = done ++ rest) :
    let now := after FileTree.handler (done.map (·.call)) t
    (⟨.makeDirs r.plan.outputDir, .ok ()⟩ ∈ done →
        r.plan.binaries ≠ [] ∧ MadeApart t now r.plan.outputDir r.plan.binDir r.plan.binaries)
      ∧ (⟨.makeDirs r.plan.scriptsOutputDir, .ok ()⟩ ∈ done →
        MadeApart t now r.plan.scriptsOutputDir r.plan.scriptsSourceDir r.plan.scripts) := by
  obtain ⟨⟨hbinaries, -⟩, hscripts, -⟩ := Manifest.names_of_resolve h
  obtain ⟨hbinDir, hscriptsDir⟩ := sources_ne_empty h
  obtain ⟨hcheck, hdirs, hscriptDirs, rfl⟩ := Manifest.resolve_eq_ok_iff.mp h
  obtain ⟨-, hbuild, -⟩ := Manifest.check_eq_ok_iff.mp hcheck
  obtain ⟨-, -, -, hsome, -⟩ := BuildSection.check_eq_ok_iff.mp hbuild
  rw [Check.distinctDirs, Check.require_eq_ok_iff, Bool.not_eq_true'] at hdirs hscriptDirs
  constructor
  · intro hmade
    refine ⟨hsome, madeApart_of_makeDirs hclosed hx hmade hbinDir (fun name hname => ?_) hdirs⟩
    exact ⟨hbinaries name hname, Plan.binary_mem_inputs hname⟩
  · intro hmade
    refine madeApart_of_makeDirs hclosed hx hmade hscriptsDir (fun name hname => ?_) hscriptDirs
    exact ⟨hscripts name hname, Plan.script_mem_inputs hname⟩

/-- A run that ends well has made its directories. -/
theorem makes_of_isOk (h : ((run r).run FileTree.handler t).result.isOk = true) :
    ⟨.makeDirs r.plan.outputDir, .ok ()⟩ ∈ (run r).exchanges FileTree.handler t
      ∧ ⟨.makeDirs r.plan.scriptsOutputDir, .ok ()⟩ ∈ (run r).exchanges FileTree.handler t := by
  cases hresult : ((run r).run FileTree.handler t).result with
  | error e =>
    rw [hresult] at h
    cases h
  | ok o =>
    obtain ⟨report, archive, hphases, -⟩ := threePhases_of_ok hresult
    generalize (run r).exchanges FileTree.handler t = past at hphases
    obtain ⟨-, hdone, -⟩ := hphases
    obtain ⟨-, -⟩ := hdone
    constructor <;> simp

/-- A result that is known to be an error but for its value. -/
theorem eq_error_of_map {result : Except PackError Outcome} {e : PackError}
    (h : result.map (fun _ => ()) = .error e) : result = .error e := by
  cases result with
  | error e' => exact congrArg Except.error (Except.error.inj h)
  | ok o => cases h

/-! ## The small package -/

/-- The files of the small package in a directory of their own. -/
def kitTree : FileTree :=
  { here := ["w"]
    nodes := [(["w"], .dir), (["build", "w"], .dir), (["bin", "build", "w"], .dir),
      (["tool", "bin", "build", "w"], .file "ELF".toUTF8 true), (["scripts", "w"], .dir),
      (["tool", "scripts", "w"], .file "#!/bin/sh\n".toUTF8 true),
      (["README.md", "w"], .file "Hi".toUTF8 false)] }

theorem closed_kitTree : Closed kitTree := closed_of_entries (by decide) (by decide)

theorem no_link_kitTree (place : Location) (target : String) :
    kitTree.node? place ≠ some (.link target) := by
  intro hnode
  cases place with
  | nil => cases hnode
  | cons name place =>
    have hmem := mem_nodes_of_node? hnode
    simp [kitTree] at hmem

/-- A directory that is lacking is made, and is not the one that the binary comes from. -/
theorem output_is_new :
    let m := kit {} {}
    let r : Resolved := ⟨m.package, m.plan⟩
    let done := (run r).exchanges FileTree.handler kitTree
    let now := after FileTree.handler (done.map (·.call)) kitTree
    Closed kitTree ∧ m.resolve kitTree.canonical = .ok r
      ∧ ⟨.makeDirs r.plan.outputDir, .ok ()⟩ ∈ done
      ∧ MadeApart kitTree now r.plan.outputDir r.plan.binDir r.plan.binaries
      ∧ ¬ Meet now r.plan.outputDir r.plan.binDir := by
  intro m r done now
  have hresolve : m.resolve kitTree.canonical = .ok r :=
    Manifest.resolve_eq_of_isOk (by decide +kernel)
  have hok : ((run r).run FileTree.handler kitTree).result.isOk = true := by decide +kernel
  have hmade : ⟨.makeDirs r.plan.outputDir, .ok ()⟩ ∈ done := (makes_of_isOk hok).1
  have hapart := ((made_directories_are_apart closed_kitTree hresolve
    (List.append_nil done).symm).1 hmade).2
  refine ⟨closed_kitTree, hresolve, hmade, hapart, fun hmeet => ?_⟩
  rcases hapart.meets hmeet with ⟨⟨place, hdir, -⟩, -⟩ | ⟨-, hretreats⟩
  · have hlacking : kitTree.leadsToDir r.plan.outputDir = false := by decide +kernel
    rw [leadsToDir_iff.mpr ⟨place, hdir⟩] at hlacking
    cases hlacking
  · rcases (hretreats (by decide +kernel)).exists_up with hup | ⟨place, target, hlink, -⟩
    · exact absurd hup (by decide +kernel)
    · exact no_link_kitTree place target hlink

/-- Accepted manifests whose directories meet once they are made.  In the first one, the path of the
output directory goes up again behind a name that is lacking, and the binary is to be copied onto
itself.  The second one has no scripts, and spells a directory that is lacking in two ways. -/
theorem directories_meet :
    (let m := kit { outputDir := "build/new/../bin" } {}
      let r : Resolved := ⟨m.package, m.plan⟩
      let ran := (run r).run FileTree.handler kitTree
      m.resolve kitTree.canonical = .ok r
        ∧ .makeDirs r.plan.outputDir ∈ ran.calls
        ∧ Meet ran.state r.plan.outputDir r.plan.binDir
        ∧ ran.result = .error (.io (sameFile ⟨"./build/bin/tool"⟩ ⟨"./build/new/../bin/tool"⟩)))
      ∧ (let m := kit {} { dir := some "out", names := some [], outputDir := some "/w/out" }
        let r : Resolved := ⟨m.package, m.plan⟩
        let ran := (run r).run FileTree.handler kitTree
        m.resolve kitTree.canonical = .ok r
          ∧ ran.result.isOk = true
          ∧ .makeDirs r.plan.scriptsOutputDir ∈ ran.calls
          ∧ Meet ran.state r.plan.scriptsOutputDir r.plan.scriptsSourceDir) := by
  refine ⟨⟨Manifest.resolve_eq_of_isOk (by decide +kernel), by decide +kernel, ?_, ?_⟩,
    Manifest.resolve_eq_of_isOk (by decide +kernel), by decide +kernel, by decide +kernel, ?_⟩
  · exact meet_of_walk ["bin", "build", "w"] (by decide +kernel) (by decide +kernel)
      (by decide +kernel)
  · exact eq_error_of_map (by decide +kernel)
  · exact meet_of_walk ["out", "w"] (by decide +kernel) (by decide +kernel)
      (by decide +kernel)

end Package
end ToolPack
