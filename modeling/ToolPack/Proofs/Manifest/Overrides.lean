import ToolPack.Program
import ToolPack.Proofs.OsPath
import ToolPack.Proofs.Package.Sample
import ToolPack.Proofs.Path
import ToolPack.Proofs.Steps

/-!
# What the command line changes

A manifest can be given another output directory and can have its archive enabled, any number of
times and in any order.  The two do not touch the same values, an output directory takes the place
of the one before, and what is enabled stays so.  So a row of overrides amounts to two facts: the
directory that was put in last, and whether the archive was enabled at all.

A directory that is given is absolute once it is put in place, and so it comes through the joins of
the plan as it is, whatever it is joined to.  Two things can come between the directory that is
given and the one in the plan.  A relative one is not put in place when it cannot be told where the
program runs: that override fails, and leaves the manifest as it is.  And one that is no text is put
in place as it would be shown, which is another directory.

## What is here

* `Override`, `Manifest.overridden`: overrides, and a manifest after a row of them;
* `lastDir?`, `lastPlace?`: the directory that is given last, and the place that is put in last;
* `Manifest.settled`: what a row of overrides amounts to (`overridden_eq_settled`);
* `overrides_compose`: the plan after a row of overrides;
* `given_directory_is_not_planned`: directories that do not come into the plan.
-/

set_option autoImplicit false

namespace ToolPack

open ToolPack.Path Manifest

/-- What the command line may change in a manifest. -/
inductive Override where
  /-- Another output directory. -/
  | outputDir (dir : OsPath)
  /-- The archive is built. -/
  | dist
  deriving DecidableEq, Repr

/-- The output directory that an override gives. -/
def Override.dir? : Override → Option OsPath
  | .outputDir dir => some dir
  | .dist => none

/-- The output directory that is given last. -/
def lastDir? (overrides : List Override) : Option OsPath :=
  (overrides.filterMap Override.dir?).getLast?

/-- The place of the output directory that an override puts in, if it puts in one. -/
def Override.place? (here : Except IoError OsPath) (o : Override) : Option OsPath :=
  o.dir?.bind fun dir => (givenDir here dir).toOption

/-- The place of the output directory that is put in last. -/
def lastPlace? (here : Except IoError OsPath) (overrides : List Override) : Option OsPath :=
  (overrides.filterMap (Override.place? here)).getLast?

namespace Manifest

/-- The manifest after one override.  One that fails leaves it as it is. -/
def override (m : Manifest) (here : Except IoError OsPath) : Override → Manifest
  | .outputDir dir => (m.withOutputDir here dir).toOption.getD m
  | .dist => m.withDist

/-- The manifest after a row of overrides. -/
def overridden (m : Manifest) (here : Except IoError OsPath) (overrides : List Override) :
    Manifest :=
  overrides.foldl (fun m o => m.override here o) m

/-- The manifest with the place of an output directory, if there is one, and with the archive, if it
is enabled. -/
def settled (m : Manifest) (place? : Option OsPath) (dist : Bool) : Manifest :=
  let m := match place? with
    | some place => { m with build := { m.build with outputDir := place.lossy } }
    | none => m
  if dist then m.withDist else m

/-! ## A row of overrides -/

/-- An output directory is put in exactly if its place can be told. -/
theorem withOutputDir_eq_error_iff {m : Manifest} {here : Except IoError OsPath} {dir : OsPath}
    {e : PackError} :
    m.withOutputDir here dir = .error e
      ↔ dir.isAbsolute = false ∧ ∃ cause, here = .error cause ∧ e = .io cause := by
  rw [withOutputDir, givenDir]
  cases dir.isAbsolute with
  | true => simp
  | false =>
    cases here with
    | error cause => simp [Except.map, eq_comm]
    | ok place => simp [Except.map]

theorem withDist_withDist (m : Manifest) : m.withDist.withDist = m.withDist := by
  cases hdist : m.dist with
  | none => simp only [withDist, hdist]
  | some d => simp only [withDist, hdist]

theorem override_outputDir_settled (m : Manifest) (here : Except IoError OsPath) (dir : OsPath)
    (place? : Option OsPath) (dist : Bool) :
    (m.settled place? dist).override here (.outputDir dir)
      = m.settled ((Override.place? here (.outputDir dir)).or place?) dist := by
  rw [override, withOutputDir, Override.place?, Override.dir?, Option.bind_some]
  cases givenDir here dir with
  | error cause => rfl
  | ok place => cases place? <;> cases dist <;> rfl

theorem withDist_settled (m : Manifest) (place? : Option OsPath) (dist : Bool) :
    (m.settled place? dist).withDist = m.settled place? true := by
  cases dist with
  | false => rfl
  | true => exact withDist_withDist _

/-- What was put in last, when there is one more override. -/
theorem lastPlace?_concat (here : Except IoError OsPath) (overrides : List Override)
    (o : Override) :
    lastPlace? here (overrides ++ [o]) = (o.place? here).or (lastPlace? here overrides) := by
  rw [lastPlace?, lastPlace?, List.filterMap_append]
  cases h : o.place? here with
  | none => simp [h]
  | some place => simp [h]

/-- A row of overrides amounts to the last place and to whether the archive is enabled. -/
theorem overridden_eq_settled (m : Manifest) (here : Except IoError OsPath)
    (overrides : List Override) :
    m.overridden here overrides
      = m.settled (lastPlace? here overrides) (decide (.dist ∈ overrides)) := by
  induction overrides using List.reverseRecOn with
  | nil => rfl
  | append_singleton overrides o ih =>
    have hlast : m.overridden here (overrides ++ [o])
        = (m.overridden here overrides).override here o := List.foldl_concat ..
    rw [hlast, ih, lastPlace?_concat]
    cases o with
    | outputDir dir =>
      rw [override_outputDir_settled]
      simp
    | dist =>
      rw [override, withDist_settled, Override.place?, Override.dir?]
      simp

/-! ## The plan of a settled manifest -/

theorem isAbsolute_of_givenDir {here : Except IoError OsPath} {dir place : OsPath}
    (hhere : ∀ h, here = .ok h → h.isAbsolute = true) (h : givenDir here dir = .ok place) :
    place.isAbsolute = true := by
  rw [givenDir] at h
  split at h
  · obtain rfl := Except.ok.inj h
    assumption
  · obtain ⟨dir', hdir', rfl⟩ := exists_of_map_eq_ok h
    exact OsPath.isAbsolute_append (hhere dir' hdir') dir

/-- What is put in place is absolute. -/
theorem isAbsolute_of_lastPlace? {here : Except IoError OsPath} {overrides : List Override}
    {place : OsPath} (hhere : ∀ h, here = .ok h → h.isAbsolute = true)
    (h : lastPlace? here overrides = some place) : place.isAbsolute = true := by
  obtain ⟨o, -, ho⟩ := List.mem_filterMap.mp (List.mem_of_getLast? h)
  obtain ⟨dir, -, hdir⟩ := Option.bind_eq_some_iff.mp ho
  cases hgiven : givenDir here dir with
  | error cause => simp [hgiven, Except.toOption] at hdir
  | ok other =>
    obtain rfl : other = place := by simpa [hgiven, Except.toOption] using hdir
    exact isAbsolute_of_givenDir hhere hgiven

/-- Where the program's directory can be told, the last directory that is given is put in place. -/
theorem lastPlace?_ok (dir : OsPath) (overrides : List Override) :
    lastPlace? (.ok dir) overrides
      = (lastDir? overrides).map fun d => if d.isAbsolute then d else dir.append d := by
  have hplace : Override.place? (.ok dir)
      = fun o => o.dir?.map fun d => if d.isAbsolute then d else dir.append d := by
    funext o
    rw [Override.place?]
    cases o.dir? with
    | none => rfl
    | some d =>
      rw [Option.bind_some, Option.map_some, givenDir]
      cases d.isAbsolute <;> rfl
  rw [lastPlace?, lastDir?, hplace, ← List.getLast?_map, List.map_filterMap]

variable (m : Manifest) (place? : Option OsPath) (dist : Bool)

theorem root_settled : (m.settled place? dist).root = m.root := by
  cases place? <;> cases dist <;> rfl

theorem package_settled : (m.settled place? dist).package = m.package := by
  cases place? <;> cases dist <;> rfl

/-- A place that is put in is the output directory, whatever the root is. -/
theorem outputDir_settled_some {place : OsPath} (h : place.isAbsolute = true) :
    (m.settled (some place) dist).outputDir = ⟨place.lossy⟩ := by
  have hbuild : (m.settled (some place) dist).build.outputDir = place.lossy := by
    cases dist <;> rfl
  rw [outputDir, hbuild]
  exact join_rooted (OsPath.isRooted_lossy h)

theorem outputDir_settled_none :
    (m.settled none dist).outputDir = m.root.join m.build.outputDir := by
  cases dist <;> rfl

/-- The directory that an archive goes to, where it is built. -/
def archiveDir (m : Manifest) : Path := m.root.join ((m.dist.map (·.outputDir)).getD "dist")

theorem distDir_plan : m.plan.distDir = if m.distEnabled then some m.archiveDir else none := by
  rw [plan, archiveDir, distEnabled]
  cases m.dist with
  | none => rfl
  | some d => cases henabled : d.enabled <;> simp [Option.filter, henabled]

theorem distEnabled_settled :
    (m.settled place? dist).distEnabled = (dist || m.distEnabled) := by
  cases hdist : m.dist <;> cases place? <;> cases dist <;>
    simp [settled, withDist, distEnabled, hdist]

theorem archiveDir_settled : (m.settled place? dist).archiveDir = m.archiveDir := by
  rw [archiveDir, archiveDir, root_settled]
  cases hdist : m.dist <;> cases place? <;> cases dist <;>
    simp [settled, withDist, hdist]

/-- What a settled manifest plans: its output directory, what follows from that, and the archive
differ from the plan of the manifest, and nothing else. -/
theorem plan_settled :
    (m.settled place? dist).plan =
      { m.plan with
        outputDir := (m.settled place? dist).outputDir
        scriptsOutputDir := match m.scripts.outputDir with
          | some dir => m.root.join dir
          | none => (m.settled place? dist).outputDir.join "scripts"
        distDir := if dist || m.distEnabled then some m.archiveDir else none } := by
  rw [← m.archiveDir_settled place? dist, ← m.distEnabled_settled place? dist,
    ← distDir_plan]
  cases place? <;> cases dist <;> rfl

end Manifest

/-- **Overrides compose in any order.**  Let a manifest be accepted after a row of overrides, made
by a program whose directory, if it can be told, is absolute.  Then its plan has the output
directory that was put in last, wherever the project is, or the one of the manifest if none was; the
scripts go below the output directory unless a directory is configured for them; an archive is built
exactly if it was enabled by an override or by the manifest, in the directory that the manifest
says; and everything else is what the manifest says, as it was before.  Rows that agree in the last
directory and in whether the archive is enabled give one manifest.

If the program's directory can be told, the one that is put in last is the one that is given last,
below the program's directory if it is relative.  An output directory is not put in exactly if it is
relative and the program's directory cannot be told.  The one that is put in is in the plan as it
would be shown: that is the same directory exactly if it is a text. -/
theorem overrides_compose (m : Manifest) (here : Except IoError OsPath)
    (overrides : List Override) :
    (∀ dir, here = .ok dir → lastPlace? here overrides
        = (lastDir? overrides).map fun d => if d.isAbsolute then d else dir.append d)
      ∧ (∀ dir e, m.withOutputDir here dir = .error e
        ↔ dir.isAbsolute = false ∧ ∃ cause, here = .error cause ∧ e = .io cause)
      ∧ (∀ (canonical : Canonical) (r : Resolved),
        (∀ dir, here = .ok dir → dir.isAbsolute = true) →
        (m.overridden here overrides).resolve canonical = .ok r →
        let root := m.baseDir.join m.build.rootDir
        (∀ place, lastPlace? here overrides = some place → r.plan.outputDir = ⟨place.lossy⟩
            ∧ (OsPath.ofPath r.plan.outputDir = place ↔ place.IsText))
          ∧ (lastPlace? here overrides = none → r.plan.outputDir = root.join m.build.outputDir)
          ∧ r.plan.scriptsOutputDir = (match m.scripts.outputDir with
            | some dir => root.join dir
            | none => r.plan.outputDir.join "scripts")
          ∧ r.plan.distDir = (if .dist ∈ overrides ∨ m.distEnabled = true then
              some (root.join ((m.dist.map (·.outputDir)).getD "dist")) else none)
          ∧ r.plan.binDir = root.join m.build.binDir
          ∧ r.plan.scriptsSourceDir = root.join (m.scripts.dir.getD "scripts")
          ∧ r.plan.readme = root.join m.package.readme
          ∧ r.plan.binaries = m.build.binaries ∧ r.plan.scripts = m.scriptNames
          ∧ r.plan.package = m.package.name ∧ r.plan.version = m.package.version
          ∧ r.metadata = m.package)
      ∧ ∀ others : List Override, lastPlace? here others = lastPlace? here overrides →
          (.dist ∈ others ↔ .dist ∈ overrides) →
          m.overridden here others = m.overridden here overrides := by
  refine ⟨?_, fun dir e => withOutputDir_eq_error_iff, fun canonical r hhere h => ?_,
    fun others hplace hdist => ?_⟩
  · rintro dir rfl
    exact lastPlace?_ok dir overrides
  · obtain ⟨-, -, -, rfl⟩ := resolve_eq_ok_iff.mp h
    rw [overridden_eq_settled, plan_settled, package_settled]
    refine ⟨fun place hplace => ?_, fun hnone => ?_, rfl, ?_, rfl, rfl, rfl, rfl, rfl, rfl, rfl,
      rfl⟩
    · rw [hplace, outputDir_settled_some m _ (isAbsolute_of_lastPlace? hhere hplace)]
      exact ⟨rfl, OsPath.ofPath_lossy_iff⟩
    · rw [hnone]
      exact outputDir_settled_none m _
    · simp only [Bool.or_eq_true, decide_eq_true_eq]
      rfl
  · rw [overridden_eq_settled, overridden_eq_settled, hplace, decide_eq_decide.mpr hdist]

/-- A directory that is given twice, the second time from where the program runs, and an archive
that is enabled in between. -/
theorem later_directory_is_taken :
    let m := Package.kit { rootDir := "src" } {}
    let here : Except IoError OsPath := .ok (.ofPath ⟨"/home/kit"⟩)
    let overrides : List Override :=
      [.outputDir (.ofPath ⟨"/tmp"⟩), .dist, .outputDir (.ofPath ⟨"out"⟩)]
    let others : List Override := [.dist, .outputDir (.ofPath ⟨"out"⟩), .dist]
    let m' := m.overridden here overrides
    (∀ dir, here = .ok dir → dir.isAbsolute = true)
      ∧ m'.resolve (fun _ => none) = .ok ⟨m'.package, m'.plan⟩
      ∧ lastPlace? here overrides = some (.ofPath ⟨"/home/kit/out"⟩)
      ∧ lastPlace? here others = lastPlace? here overrides
      ∧ (.dist ∈ others ↔ .dist ∈ overrides)
      ∧ m'.plan.outputDir = ⟨"/home/kit/out"⟩ ∧ m'.plan.distDir = some ⟨"src/dist"⟩
      ∧ m.overridden here others = m' := by
  intro m here overrides others m'
  have hhere : ∀ dir, here = .ok dir → dir.isAbsolute = true := by
    intro dir hdir
    obtain rfl := Except.ok.inj hdir
    decide
  have haccepted : m'.resolve (fun _ => none) = .ok ⟨m'.package, m'.plan⟩ :=
    resolve_eq_of_isOk (by decide +kernel)
  have hlast : lastPlace? here overrides = some (.ofPath ⟨"/home/kit/out"⟩) := by decide +kernel
  have hsame : lastPlace? here others = lastPlace? here overrides := by decide +kernel
  have hdist : .dist ∈ others ↔ .dist ∈ overrides := by decide
  obtain ⟨-, -, hplan, hequal⟩ := overrides_compose m here overrides
  obtain ⟨houtput, -, -, harchive, -⟩ := hplan _ _ hhere haccepted
  refine ⟨hhere, haccepted, hlast, hsame, hdist, (houtput _ hlast).1.trans ?_, harchive.trans ?_,
    hequal _ hsame hdist⟩
  · rw [OsPath.lossy_ofPath]
  · decide

/-- A directory that is given does not come into the plan.  What is no text is another directory
there; and in a directory that has been removed, a relative one is not put in place at all. -/
theorem given_directory_is_not_planned :
    let m := Package.kit {} {}
    let given : OsPath := ⟨"/tmp/o".toUTF8.data.toList ++ [0xFF]⟩
    let here : Except IoError OsPath := .ok (.ofPath ⟨"/home/kit"⟩)
    let removed : Except IoError OsPath := .error OsError.noEntry.toIoError
    (∃ r, (m.overridden here [.outputDir given]).resolve (fun _ => none) = .ok r
        ∧ r.plan.outputDir = ⟨"/tmp/o\uFFFD"⟩ ∧ .ofPath r.plan.outputDir ≠ given)
      ∧ m.withOutputDir removed (.ofPath ⟨"out"⟩) = .error (.io OsError.noEntry.toIoError)
      ∧ ∃ r, (m.overridden removed [.outputDir (.ofPath ⟨"out"⟩)]).resolve (fun _ => none) = .ok r
        ∧ r.plan.outputDir = ⟨"./build/lib"⟩ := by
  refine ⟨⟨_, resolve_eq_of_isOk (by decide +kernel), ?_, ?_⟩, by rfl,
    _, resolve_eq_of_isOk (by decide +kernel), by decide +kernel⟩
  · decide +kernel
  · decide +kernel

end ToolPack
