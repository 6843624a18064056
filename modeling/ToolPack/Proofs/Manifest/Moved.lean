import Mathlib.Data.List.Forall2
import ToolPack.Proofs.Package.Sample
import ToolPack.Proofs.Path

/-!
# Moving a project moves its plan

The paths of a plan are joined together from up to four texts, and joining is associative.  So the
directory that a project lies in can as well be put in front at the end: the plan of a project in a
directory is the plan that it has in no directory at all, with every path seen from there.  Paths
that are absolute stay as they are.

## What is here

* `Plan.below`: a plan with its paths seen from a directory;
* `Manifest.plan_eq_below`: the plan of a project in a directory, from the one in none;
* `moved_project_moves_plan`: the same for manifests that are accepted.
-/

set_option autoImplicit false

namespace ToolPack

open ToolPack.Path

namespace Plan

/-- The plan with its paths seen from a directory. -/
def below (dir : Path) (p : Plan) : Plan :=
  { p with
    binDir := dir.append p.binDir
    outputDir := dir.append p.outputDir
    scriptsSourceDir := dir.append p.scriptsSourceDir
    scriptsOutputDir := dir.append p.scriptsOutputDir
    readme := dir.append p.readme
    distDir := p.distDir.map dir.append }

theorem paths_below (dir : Path) (p : Plan) : (p.below dir).paths = p.paths.map dir.append := by
  cases hdist : p.distDir with
  | none => simp [paths, below, hdist]
  | some path => simp [paths, below, hdist]

end Plan

namespace Manifest

/-- The manifest, read from a directory. -/
def readFrom (m : Manifest) (base : Path) : Manifest := { m with baseDir := base }

variable (m : Manifest) (base : Path)

theorem root_eq_append : (m.readFrom base).root = base.append (m.readFrom ⟨""⟩).root :=
  (congrArg base.append (empty_join m.build.rootDir)).symm

/-- What is joined to the root is joined to the root in no directory, and that is seen from the
directory. -/
theorem root_join_eq_append (path : String) :
    (m.readFrom base).root.join path = base.append ((m.readFrom ⟨""⟩).root.join path) := by
  rw [root_eq_append, append_join]

theorem scriptsOutputDir_eq_append :
    (m.readFrom base).scriptsOutputDir = base.append (m.readFrom ⟨""⟩).scriptsOutputDir := by
  cases hdir : m.scripts.outputDir with
  | some dir => simpa only [scriptsOutputDir, readFrom, hdir] using root_join_eq_append m base dir
  | none =>
    have houtput := root_join_eq_append m base m.build.outputDir
    simp only [scriptsOutputDir, readFrom, hdir]
    rw [← append_join]
    exact congrArg (Path.join · "scripts") houtput

/-- The plan of a project in a directory is the one in no directory, seen from there. -/
theorem plan_eq_below : (m.readFrom base).plan = (m.readFrom ⟨""⟩).plan.below base := by
  have hjoin := root_join_eq_append m base
  have hdist : (m.dist.filter (·.enabled)).map (fun d => (m.readFrom base).root.join d.outputDir)
      = ((m.dist.filter (·.enabled)).map fun d =>
          (m.readFrom ⟨""⟩).root.join d.outputDir).map base.append := by
    rw [Option.map_map]
    exact congrArg (Option.map · _) (funext fun d => hjoin d.outputDir)
  rw [plan, plan, Plan.below, Plan.mk.injEq]
  exact ⟨rfl, rfl, hjoin _, rfl, hjoin _, hjoin _, rfl, m.scriptsOutputDir_eq_append base, hjoin _,
    hdist⟩

end Manifest

/-- **Moving a project moves its plan.**  Let a manifest be accepted both where it is read from a
directory and where it is read from none.  Then the first plan is the second one with every path
joined to the directory, as texts; paths that are absolute are the same in both; and the names, the
version and the description of the package are the same. -/
theorem moved_project_moves_plan {m : Manifest} {base : Path} {canonical canonical' : Canonical}
    {r r' : Resolved} (h : (m.readFrom ⟨""⟩).resolve canonical = .ok r)
    (h' : (m.readFrom base).resolve canonical' = .ok r') :
    r'.plan = r.plan.below base
      ∧ List.Forall₂ (fun path path' => path' = base.append path
          ∧ (path.isAbsolute = true → path' = path)) r.plan.paths r'.plan.paths
      ∧ r'.metadata = r.metadata := by
  obtain ⟨-, -, -, rfl⟩ := Manifest.resolve_eq_ok_iff.mp h
  obtain ⟨-, -, -, rfl⟩ := Manifest.resolve_eq_ok_iff.mp h'
  have hplan := m.plan_eq_below base
  refine ⟨hplan, ?_, rfl⟩
  rw [hplan, Plan.paths_below, List.forall₂_map_right_iff, List.forall₂_same]
  exact fun path _ => ⟨rfl, append_of_isAbsolute base⟩

/-- A project whose binaries are in an absolute directory and whose root ends in a slash, read from
a directory with a slash at its end. -/
theorem scattered_project_is_moved :
    let m := (Package.kit { rootDir := "src/", binDir := "/opt/bin", outputDir := "./lib//" }
      {}).withDist
    let plan := (m.readFrom ⟨""⟩).plan
    let plan' := (m.readFrom ⟨"../kit/"⟩).plan
    (m.readFrom ⟨""⟩).resolve (fun _ => none) = .ok ⟨m.package, plan⟩
      ∧ (m.readFrom ⟨"../kit/"⟩).resolve (fun _ => none) = .ok ⟨m.package, plan'⟩
      ∧ plan.scriptsOutputDir = ⟨"src/./lib//scripts"⟩
      ∧ plan'.scriptsOutputDir = ⟨"../kit/src/./lib//scripts"⟩
      ∧ plan.binDir = ⟨"/opt/bin"⟩ ∧ plan'.binDir = ⟨"/opt/bin"⟩
      ∧ plan' = plan.below ⟨"../kit/"⟩ := by
  intro m plan plan'
  have h : (m.readFrom ⟨""⟩).resolve (fun _ => none) = .ok ⟨m.package, plan⟩ :=
    Manifest.resolve_eq_of_isOk (by decide +kernel)
  have h' : (m.readFrom ⟨"../kit/"⟩).resolve (fun _ => none) = .ok ⟨m.package, plan'⟩ :=
    Manifest.resolve_eq_of_isOk (by decide +kernel)
  exact ⟨h, h', by decide +kernel, by decide +kernel, by decide +kernel, by decide +kernel,
    (moved_project_moves_plan h h').1⟩

end ToolPack
