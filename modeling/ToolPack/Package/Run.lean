import ToolPack.Manifest.Plan
import ToolPack.Package.Archive

/-!
# A run

A run has three phases.  The first one looks for everything that is needed and changes nothing;
the second copies binaries and scripts; the third writes the files that describe the package and,
if it is wanted, the archive.

## What is here

* `Inputs`, `Report`, `Outcome`: what the phases hand on;
* `verify`, `stage`, `finalize`: the phases;
* `run`: all of them, with what they report.
-/

set_option autoImplicit false

namespace ToolPack
namespace Package

open Storage

/-- What was found before anything was copied. -/
structure Inputs where
  binaries : List Artifact
  scripts : List Artifact
  longDescription : String

/-- What was copied. -/
structure Report where
  binaries : List StagedFile
  scripts : List StagedFile
  longDescription : String

/-- What a run has made. -/
structure Outcome where
  outputDir : Path
  metadataPath : Path
  report : Report
  archivePath : Option Path

/-- The error for a long description that is not there. -/
def noLongDescription (path : Path) : PackError :=
  .io ⟨.notFound, "long description file " ++ path.text ++ " not found"⟩

/-- Looks for all binaries, all scripts and the long description. -/
def verify (plan : Plan) : Action Inputs := do
  Action.report .debug .pipeline
    s!"Checking {plan.binaries.length} binaries in {plan.binDir.text}"
  let binaries ← verifyBinaries plan.binDir plan.binaries
  let scripts ← verifyScripts plan.scriptsSourceDir plan.scripts
  match ← Action.call (.size plan.readme) with
  | none => Action.fail (noLongDescription plan.readme)
  | some _ =>
    let longDescription ← readLongDescription plan.readme
    return ⟨binaries, scripts, longDescription⟩

/-- Copies the binaries and the scripts. -/
def stage (plan : Plan) (inputs : Inputs) : Action Report := do
  let binaries ← copyArtifacts plan.outputDir inputs.binaries
  let scripts ← registerScripts plan.scriptsOutputDir inputs.scripts
  return ⟨binaries, scripts, inputs.longDescription⟩

/-- Builds the archive if there is a directory for it. -/
def finalizeArchive (r : Resolved) (report : Report) (pkgInfo : String) :
    Action (Option Path) := do
  match r.plan.distDir with
  | some dir => return some (← buildArchive dir r.metadata report.binaries report.scripts pkgInfo)
  | none => return none

/-- Writes the headers, the list of scripts and the archive. -/
def finalize (r : Resolved) (report : Report) : Action Outcome := do
  let pkgInfo ← writePkgInfo r.plan.outputDir r.metadata report.longDescription
  writeScriptList r.plan.outputDir report.scripts
  let archivePath ← finalizeArchive r report pkgInfo
  return ⟨r.plan.outputDir, r.plan.outputDir.join PkgInfo.fileName, report, archivePath⟩

/-- Reports files that were copied. -/
def reportStaged : List StagedFile → Action Unit
  | [] => return ()
  | file :: files => do
    Action.report .debug .engine s!"Staged {file.destination.text} ({file.size} bytes)"
    reportStaged files

/-- Reports an archive. -/
def reportArchive : Option Path → Action Unit
  | none => return ()
  | some path => Action.report .info .engine s!"Archive written to: {path.text}"

/-- The three phases, one after the other. -/
def run (r : Resolved) : Action Outcome := do
  Action.report .info .engine "Verifying pre-built artifacts..."
  let inputs ← verify r.plan
  Action.report .info .engine
    s!"Found {inputs.binaries.length} binaries and {inputs.scripts.length} scripts"
  Action.report .info .engine "Staging artifacts..."
  let report ← stage r.plan inputs
  reportStaged (report.binaries ++ report.scripts)
  Action.report .info .engine "Writing package metadata..."
  let outcome ← finalize r report
  reportArchive outcome.archivePath
  return outcome

end Package
end ToolPack
