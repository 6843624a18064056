import Mathlib.Data.List.Nodup
import ToolPack.Proofs.Package.Sample
import ToolPack.Proofs.Path

/-!
# The names of a plan are files of their own

The names of an accepted manifest are single segments that name something, and no two of a list are
equal.  So whatever directory they are joined to, and however it is spelled, each of them leads to a
file of its own that lies directly in the directory.

## What is here

* `SeparateFiles`: names that are separate files directly in a directory;
* `separateFiles_of_plain`: names that pass their check are;
* `names_are_separate_files`: the names of a plan, in the directories that they are joined to.
-/

set_option autoImplicit false

namespace ToolPack

open ToolPack.Path

/-- Names that are separate files directly in a directory. -/
structure SeparateFiles (dir : Path) (names : List String) : Prop where
  /-- No two of their paths are equal. -/
  distinct : (names.map dir.join).Nodup
  /-- A path ends in its name. -/
  last : ∀ name ∈ names, (dir.join name).components.getLast? = some (.named name)
  /-- What a path has for its parent is the directory. -/
  parent : ∀ name ∈ names, ∃ parent, (dir.join name).parent? = some parent
    ∧ parent.components = dir.components
  /-- None of them is the directory itself. -/
  ne_dir : ∀ name ∈ names, dir.join name ≠ dir

/-- Plain names are separate files in every directory, if no two are equal. -/
theorem separateFiles_of_plain (dir : Path) {names : List String}
    (hplain : ∀ name ∈ names, PlainName name) (hnodup : names.Nodup) : SeparateFiles dir names where
  distinct := by
    refine List.Nodup.map_on (fun name hname other hother hjoin => ?_) hnodup
    exact (eq_of_join_eq_join (hplain name hname).fileName (hplain other hother).fileName hjoin).2
  last name hname := by
    rw [components_join dir (hplain name hname).fileName, List.getLast?_concat]
  parent name hname := parent?_join dir (hplain name hname).fileName
  ne_dir name hname hjoin := by
    have hcomponents := components_join dir (hplain name hname).fileName
    rw [hjoin, List.self_eq_append_right] at hcomponents
    cases hcomponents

/-- **The names of a plan are separate files directly in its directories.**  The plan of an accepted
manifest has a binary; and the binaries, in the directory that they are taken from and in the one
that they go to, and the scripts, in theirs, have paths of which no two are equal, which end in the
name and have the directory for their parent, and none of which is the directory. -/
theorem names_are_separate_files {canonical : Canonical} {m : Manifest} {r : Resolved}
    (h : m.resolve canonical = .ok r) :
    r.plan.binaries ≠ []
      ∧ SeparateFiles r.plan.outputDir r.plan.binaries
      ∧ SeparateFiles r.plan.binDir r.plan.binaries
      ∧ SeparateFiles r.plan.scriptsOutputDir r.plan.scripts
      ∧ SeparateFiles r.plan.scriptsSourceDir r.plan.scripts := by
  obtain ⟨⟨hbinaries, hbinaries'⟩, hscripts, hscripts'⟩ := Manifest.names_of_resolve h
  refine ⟨?_, separateFiles_of_plain _ hbinaries hbinaries',
    separateFiles_of_plain _ hbinaries hbinaries', separateFiles_of_plain _ hscripts hscripts',
    separateFiles_of_plain _ hscripts hscripts'⟩
  obtain ⟨hcheck, -, -, rfl⟩ := Manifest.resolve_eq_ok_iff.mp h
  obtain ⟨-, hbuild, -⟩ := Manifest.check_eq_ok_iff.mp hcheck
  exact (BuildSection.check_eq_ok_iff.mp hbuild).2.2.2.1

/-- Names that look like directories, below the root and below a directory that is spelled with
slashes and dots. -/
theorem dotted_names_are_separate_files :
    let build : BuildSection :=
      { rootDir := "/", binDir := ".", outputDir := "..//lib/./", binaries := ["...", ".a"] }
    let m : Manifest := { Package.kit {} {} with build := build }
    let plan := m.plan
    m.resolve (fun _ => none) = .ok ⟨m.package, plan⟩
      ∧ plan.binDir = ⟨"/."⟩ ∧ plan.outputDir = ⟨"/..//lib/./"⟩
      ∧ plan.binaries.map plan.outputDir.join = [⟨"/..//lib/./..."⟩, ⟨"/..//lib/./.a"⟩]
      ∧ (plan.outputDir.join "...").parent?.map components = some [.root, .up, .named "lib"]
      ∧ SeparateFiles plan.outputDir plan.binaries := by
  intro build m plan
  have haccepted : m.resolve (fun _ => none) = .ok ⟨m.package, plan⟩ :=
    Manifest.resolve_eq_of_isOk (by decide +kernel)
  exact ⟨haccepted, by decide +kernel, by decide +kernel, by decide +kernel, by decide +kernel,
    (names_are_separate_files haccepted).2.1⟩

end ToolPack
