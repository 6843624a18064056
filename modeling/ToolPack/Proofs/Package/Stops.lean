import ToolPack.Package.Run
import ToolPack.Proofs.Storage.Failure

/-!
# The phases of a run stop when a call fails

The loops of a run ask for one file after the other and make something of every reply.  Some replies
are errors of their own: a size that is not there is a missing binary, and bytes that are no text
are no long description.  A failure is not a reply, and no loop and no phase makes anything of one:
it does not stand for a file that is not there, it is not put into other words, and nothing is tried
a second time.

## What is here

* the loops: `stopsOnFailure_verifyArtifacts`, `stopsOnFailure_copyEach`, `stopsOnFailure_markEach`,
  `stopsOnFailure_readEach`;
* the phases: `stopsOnFailure_verify`, `stopsOnFailure_stage`, `stopsOnFailure_finalize`;
* `stopsOnFailure_run`: the run as a whole.
-/

set_option autoImplicit false

namespace ToolPack
namespace Package

open Storage ToolPack.Action

/-! ## Looking for files -/

theorem stopsOnFailure_verifyArtifact (missing : Path → PackError) (dir : Path) (name : String) :
    (verifyArtifact missing dir name).StopsOnFailure := by
  refine (stopsOnFailure_call _).bind fun size => ?_
  cases size with
  | none => exact (stopsOnFailure_report ..).bind fun _ => stopsOnFailure_fail _
  | some size => exact (stopsOnFailure_report ..).bind fun _ => stopsOnFailure_pure _

theorem stopsOnFailure_verifyArtifacts (missing : Path → PackError) (dir : Path)
    (names : List String) : (verifyArtifacts missing dir names).StopsOnFailure := by
  induction names with
  | nil => exact stopsOnFailure_pure _
  | cons name names ih =>
    refine (stopsOnFailure_verifyArtifact missing dir name).bind fun artifact => ?_
    exact ih.bind fun artifacts => stopsOnFailure_pure _

theorem stopsOnFailure_readLongDescription (path : Path) :
    (readLongDescription path).StopsOnFailure := by
  refine (stopsOnFailure_call _).bind fun bytes => ?_
  split
  · exact stopsOnFailure_pure _
  · exact stopsOnFailure_fail _

theorem stopsOnFailure_verify (plan : Plan) : (verify plan).StopsOnFailure := by
  refine (stopsOnFailure_report ..).bind fun _ => ?_
  refine (stopsOnFailure_verifyArtifacts ..).bind fun binaries => ?_
  refine (stopsOnFailure_verifyArtifacts ..).bind fun scripts => ?_
  refine (stopsOnFailure_call _).bind fun size => ?_
  cases size with
  | none => exact stopsOnFailure_fail _
  | some _ =>
    refine (stopsOnFailure_readLongDescription plan.readme).bind fun longDescription => ?_
    exact stopsOnFailure_pure _

/-! ## Copying -/

theorem stopsOnFailure_copyArtifact (dest : Path) (artifact : Artifact) :
    (copyArtifact dest artifact).StopsOnFailure := by
  refine (stopsOnFailure_call _).bind fun size => ?_
  exact (stopsOnFailure_report ..).bind fun _ => stopsOnFailure_pure _

theorem stopsOnFailure_copyEach (dest : Path) (artifacts : List Artifact) :
    (copyEach dest artifacts).StopsOnFailure := by
  induction artifacts with
  | nil => exact stopsOnFailure_pure _
  | cons artifact artifacts ih =>
    refine (stopsOnFailure_copyArtifact dest artifact).bind fun file => ?_
    exact ih.bind fun files => stopsOnFailure_pure _

theorem stopsOnFailure_copyArtifacts (dest : Path) (artifacts : List Artifact) :
    (copyArtifacts dest artifacts).StopsOnFailure :=
  (stopsOnFailure_call _).bind fun _ => stopsOnFailure_copyEach dest artifacts

theorem stopsOnFailure_markEach (files : List StagedFile) : (markEach files).StopsOnFailure := by
  induction files with
  | nil => exact stopsOnFailure_pure _
  | cons file files ih =>
    refine (stopsOnFailure_call _).bind fun _ => ?_
    exact (stopsOnFailure_report ..).bind fun _ => ih

theorem stopsOnFailure_registerScripts (dest : Path) (scripts : List Artifact) :
    (registerScripts dest scripts).StopsOnFailure := by
  refine (stopsOnFailure_copyArtifacts dest scripts).bind fun staged => ?_
  exact (stopsOnFailure_markEach staged).bind fun _ => stopsOnFailure_pure _

theorem stopsOnFailure_stage (plan : Plan) (inputs : Inputs) :
    (stage plan inputs).StopsOnFailure := by
  refine (stopsOnFailure_copyArtifacts ..).bind fun binaries => ?_
  exact (stopsOnFailure_registerScripts ..).bind fun scripts => stopsOnFailure_pure _

/-! ## Writing -/

theorem stopsOnFailure_writePkgInfo (dir : Path) (m : ToolPack.Metadata)
    (longDescription : String) : (writePkgInfo dir m longDescription).StopsOnFailure :=
  (stopsOnFailure_call _).bind fun _ => stopsOnFailure_pure _

theorem stopsOnFailure_writeScriptList (dir : Path) (scripts : List StagedFile) :
    (writeScriptList dir scripts).StopsOnFailure := stopsOnFailure_call _

theorem stopsOnFailure_readEach (entryName : String → String) (files : List StagedFile) :
    (readEach entryName files).StopsOnFailure := by
  induction files with
  | nil => exact stopsOnFailure_pure _
  | cons file files ih =>
    refine (stopsOnFailure_call _).bind fun data => ?_
    exact ih.bind fun rest => stopsOnFailure_pure _

theorem stopsOnFailure_buildArchive (dir : Path) (m : ToolPack.Metadata)
    (binaries scripts : List StagedFile) (pkgInfo : String) :
    (buildArchive dir m binaries scripts pkgInfo).StopsOnFailure := by
  refine (stopsOnFailure_readEach ..).bind fun binaries => ?_
  refine (stopsOnFailure_readEach ..).bind fun scripts => ?_
  -- The archive is built in memory, so what is in its way is no failed call.
  dsimp only
  split
  · exact stopsOnFailure_fail _
  · refine (stopsOnFailure_report ..).bind fun _ => ?_
    exact (stopsOnFailure_call _).bind fun _ => stopsOnFailure_pure _

theorem stopsOnFailure_finalizeArchive (r : Resolved) (report : Report) (pkgInfo : String) :
    (finalizeArchive r report pkgInfo).StopsOnFailure := by
  rw [finalizeArchive]
  split
  · exact (stopsOnFailure_buildArchive ..).bind fun path => stopsOnFailure_pure _
  · exact stopsOnFailure_pure _

theorem stopsOnFailure_finalize (r : Resolved) (report : Report) :
    (finalize r report).StopsOnFailure := by
  refine (stopsOnFailure_writePkgInfo ..).bind fun pkgInfo => ?_
  refine (stopsOnFailure_writeScriptList ..).bind fun _ => ?_
  exact (stopsOnFailure_finalizeArchive ..).bind fun archive => stopsOnFailure_pure _

/-! ## The run -/

theorem stopsOnFailure_reportStaged (files : List StagedFile) :
    (reportStaged files).StopsOnFailure := by
  induction files with
  | nil => exact stopsOnFailure_pure _
  | cons file files ih => exact (stopsOnFailure_report ..).bind fun _ => ih

theorem stopsOnFailure_reportArchive (path? : Option Path) :
    (reportArchive path?).StopsOnFailure := by
  cases path? with
  | none => exact stopsOnFailure_pure _
  | some path => exact stopsOnFailure_report ..

/-- **A run stops at a call that fails, in whichever phase and loop it is asked for.** -/
theorem stopsOnFailure_run (r : Resolved) : (run r).StopsOnFailure := by
  refine (stopsOnFailure_report ..).bind fun _ => ?_
  refine (stopsOnFailure_verify r.plan).bind fun inputs => ?_
  refine (stopsOnFailure_report ..).bind fun _ => ?_
  refine (stopsOnFailure_report ..).bind fun _ => ?_
  refine (stopsOnFailure_stage r.plan inputs).bind fun report => ?_
  refine (stopsOnFailure_reportStaged _).bind fun _ => ?_
  refine (stopsOnFailure_report ..).bind fun _ => ?_
  refine (stopsOnFailure_finalize r report).bind fun outcome => ?_
  exact (stopsOnFailure_reportArchive _).bind fun _ => stopsOnFailure_pure _

end Package
end ToolPack
