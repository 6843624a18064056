import ToolPack.Storage.Action

/-!
# Staging files

Files are staged in two steps: first all of them are looked for, then all of them are copied.  A
file that is not there ends the first step, before anything has been copied.

## What is here

* `Artifact`, `StagedFile`: a file that was found, and one that was copied;
* `verifyArtifacts`: looks for files in a directory, in order;
* `copyArtifacts`: copies them to another one;
* `registerScripts`: copies scripts and makes them executable;
* `stageBinaries`: looks for binaries and copies them.
-/

set_option autoImplicit false

namespace ToolPack

open Storage

/-- A file that was found. -/
structure Artifact where
  name : String
  source : Path
  size : Nat
  deriving DecidableEq, Repr

/-- A file that was copied. -/
structure StagedFile where
  name : String
  destination : Path
  size : Nat
  deriving DecidableEq, Repr

namespace Package

/-- Looks for one file in a directory; `missing` is the error when there is none. -/
def verifyArtifact (missing : Path → PackError) (dir : Path) (name : String) :
    Action Artifact := do
  let source := dir.join name
  match ← Action.call (.size source) with
  | some size =>
    Action.report .debug .staging s!"Found {source.text} ({size} bytes)"
    return ⟨name, source, size⟩
  | none =>
    Action.report .error .staging s!"Missing expected file: {source.text}"
    Action.fail (missing source)

/-- Looks for files in a directory, in order; the first one that is not there ends the search. -/
def verifyArtifacts (missing : Path → PackError) (dir : Path) :
    List String → Action (List Artifact)
  | [] => return []
  | name :: names => do
    let artifact ← verifyArtifact missing dir name
    let artifacts ← verifyArtifacts missing dir names
    return artifact :: artifacts

/-- Looks for binaries in a directory. -/
def verifyBinaries (dir : Path) (names : List String) : Action (List Artifact) :=
  verifyArtifacts .missingArtifact dir names

/-- Looks for scripts in a directory. -/
def verifyScripts (dir : Path) (names : List String) : Action (List Artifact) :=
  verifyArtifacts .missingScript dir names

/-- Copies one file to a directory. -/
def copyArtifact (dest : Path) (artifact : Artifact) : Action StagedFile := do
  let destination := dest.join artifact.name
  let size ← Action.call (.copy artifact.source destination)
  Action.report .debug .staging s!"Copied {artifact.source.text} -> {destination.text}"
  return ⟨artifact.name, destination, size⟩

/-- Copies files to a directory that is there, in order. -/
def copyEach (dest : Path) : List Artifact → Action (List StagedFile)
  | [] => return []
  | artifact :: artifacts => do
    let file ← copyArtifact dest artifact
    let files ← copyEach dest artifacts
    return file :: files

/-- Copies files to a directory, which is made if it is not there. -/
def copyArtifacts (dest : Path) (artifacts : List Artifact) : Action (List StagedFile) := do
  Action.call (.makeDirs dest)
  copyEach dest artifacts

/-- Makes copied scripts executable, in order. -/
def markEach : List StagedFile → Action Unit
  | [] => return ()
  | script :: scripts => do
    Action.call (.markExecutable script.destination)
    Action.report .debug .scripts s!"Registered script {script.name}"
    markEach scripts

/-- Copies scripts to a directory and makes them executable. -/
def registerScripts (dest : Path) (scripts : List Artifact) : Action (List StagedFile) := do
  let staged ← copyArtifacts dest scripts
  markEach staged
  return staged

/-- Looks for all binaries, and copies them if they are all there. -/
def stageBinaries (names : List String) (source dest : Path) : Action (List StagedFile) := do
  let artifacts ← verifyBinaries source names
  copyArtifacts dest artifacts

end Package
end ToolPack
