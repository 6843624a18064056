import ToolPack.Check
import ToolPack.Manifest.Basic

/-!
# The plan of a run

A manifest that passes its checks becomes a plan: every path that a run reads or writes, joined to
the root of the package, and the names in order.  Making a plan touches nothing; it only asks
where two pairs of directories lead.

## What is here

* `Manifest.check`: the checks of all values, in the order in which their faults are reported;
* `Plan`: what a run will do; `Plan.paths`: the paths in it;
* `Manifest.plan`: the plan that the sections lay out;
* `Manifest.resolve`: the plan of a manifest that passes its checks, and whose output directories
  are not the ones that are copied from.
-/

set_option autoImplicit false

namespace ToolPack

/-! ## Checks -/

/-- Checks the extras: their names and their requirements have something in them. -/
def Extras.check (extras : Extras) : Except PackError Unit :=
  extras.entries.forM fun e => do
    Check.nonBlank "package.extras" e.1
    e.2.forM (Check.nonBlank ("package.extras." ++ e.1))

/-- Checks the description of the package. -/
def Metadata.check (m : Metadata) : Except PackError Unit := do
  Check.nonBlank "package.name" m.name
  Check.version "package.version" m.version
  Check.nonBlank "package.author" m.author
  Check.email "package.author_email" m.authorEmail
  Check.url "package.url" m.url
  Check.nonBlank "package.description" m.description
  Check.path "package.readme" m.readme
  Check.nonBlank "package.python_requires" m.pythonRequires
  m.extras.check

/-- Checks the section on binaries; there must be some. -/
def BuildSection.check (b : BuildSection) : Except PackError Unit := do
  Check.path "build.root_dir" b.rootDir
  Check.path "build.bin_dir" b.binDir
  Check.path "build.output_dir" b.outputDir
  if b.binaries.isEmpty then throw (.missingConfig "build.binaries")
  Check.plainNames "build.binaries" b.binaries

/-- Checks a path that may be left out. -/
def checkGiven (field : String) : Option String → Except PackError Unit
  | none => .ok ()
  | some path => Check.path field path

namespace Manifest

/-- Checks every value of a manifest. -/
def check (m : Manifest) : Except PackError Unit := do
  m.package.check
  m.build.check
  checkGiven "scripts.dir" m.scripts.dir
  checkGiven "scripts.output_dir" m.scripts.outputDir
  Check.plainNames "scripts.names" m.scriptNames
  checkGiven "dist.output_dir" (m.dist.map (·.outputDir))

end Manifest

/-! ## Plans -/

/-- Everything that a run touches. -/
structure Plan where
  package : String
  version : String
  binDir : Path
  binaries : List String
  outputDir : Path
  scriptsSourceDir : Path
  scripts : List String
  scriptsOutputDir : Path
  readme : Path
  /-- Where the archive goes, none when there is none. -/
  distDir : Option Path
  deriving DecidableEq, Repr

/-- The paths of a plan. -/
def Plan.paths (p : Plan) : List Path :=
  [p.binDir, p.outputDir, p.scriptsSourceDir, p.scriptsOutputDir, p.readme] ++ p.distDir.toList

/-- What a run works on: the description of the package and the plan. -/
structure Resolved where
  metadata : Metadata
  plan : Plan

namespace Manifest

/-- The directory that the other paths start from. -/
def root (m : Manifest) : Path := m.baseDir.join m.build.rootDir

/-- Where the binaries go. -/
def outputDir (m : Manifest) : Path := m.root.join m.build.outputDir

/-- Where the scripts go: a directory in the output directory, unless one is given. -/
def scriptsOutputDir (m : Manifest) : Path :=
  match m.scripts.outputDir with
  | some dir => m.root.join dir
  | none => m.outputDir.join "scripts"

/-- The plan that the sections lay out. -/
def plan (m : Manifest) : Plan where
  package := m.package.name
  version := m.package.version
  binDir := m.root.join m.build.binDir
  binaries := m.build.binaries
  outputDir := m.outputDir
  scriptsSourceDir := m.root.join (m.scripts.dir.getD "scripts")
  scripts := m.scriptNames
  scriptsOutputDir := m.scriptsOutputDir
  readme := m.root.join m.package.readme
  distDir := (m.dist.filter (·.enabled)).map fun d => m.root.join d.outputDir

/-- The plan of a manifest that passes its checks. -/
def resolve (canonical : Canonical) (m : Manifest) : Except PackError Resolved := do
  m.check
  Check.distinctDirs canonical "build.output_dir" m.plan.outputDir m.plan.binDir
  Check.distinctDirs canonical "scripts.output_dir" m.plan.scriptsOutputDir
    m.plan.scriptsSourceDir
  return ⟨m.package, m.plan⟩

/-- A manifest that is accepted is accepted for its own plan. -/
theorem resolve_eq_of_isOk {canonical : Canonical} {m : Manifest}
    (h : (m.resolve canonical).isOk = true) : m.resolve canonical = .ok ⟨m.package, m.plan⟩ := by
  simp only [resolve, bind, Except.bind] at h ⊢
  split at h
  · cases h
  · split at h
    · cases h
    · split at h
      · cases h
      · rfl

end Manifest
end ToolPack
