import ToolPack.Package.Run
import ToolPack.Proofs.Package.Lookup
import ToolPack.Storage.Memory

/-!
# The first problem is the one that is reported

The first phase goes through the binaries, then the scripts, then the long description, and stops at
the first thing that is not as it should be.  On a storage in memory that can be said without
following the phase: either everything is there, or there is a first item that is not, and all items
before it are.

## What is here

* `Located`, `yields_verifyArtifacts`, `yields_verifyArtifacts_of_absent`: looking for names in a
  directory in memory, up to the first one that is not there;
* `FoundAll`: what is found when everything is there;
* `FirstProblem`: the first thing that is not as it should be, and the calls that show it;
* `foundAll_or_firstProblem`: it is one or the other;
* `FoundAll.yields`, `FirstProblem.yields`: how the first phase runs in each case, and so how it
  ends (`result_verify_eq_ok_iff`, `result_verify_eq_error_iff`);
* `verify_reports_first_problem`: so the phase ends well exactly if everything is there, and else
  with the first problem and without a call for anything behind it.
-/

set_option autoImplicit false

namespace ToolPack
namespace Package

open Storage ToolPack.Action

/-! ## Looking for files in memory -/

/-- What is found under a name: where it is, and its true length. -/
def Located (files : Memory) (dir : Path) (name : String) (artifact : Artifact) : Prop :=
  ∃ data, files.get? (dir.join name) = some data ∧ artifact = ⟨name, dir.join name, data.size⟩

/-- Names are all found exactly if there is a file under each. -/
theorem exists_located_iff {files : Memory} {dir : Path} {names : List String} :
    (∃ found, List.Forall₂ (Located files dir) names found)
      ↔ ∀ name ∈ names, (files.get? (dir.join name)).isSome := by
  induction names with
  | nil => exact iff_of_true ⟨[], .nil⟩ fun name hname => absurd hname List.not_mem_nil
  | cons name names ih =>
    rw [List.forall_mem_cons, ← ih, Option.isSome_iff_exists]
    constructor
    · rintro ⟨_, hfound⟩
      cases hfound with
      | cons hname hnames =>
        obtain ⟨data, hdata, -⟩ := hname
        exact ⟨⟨data, hdata⟩, _, hnames⟩
    · rintro ⟨⟨data, hdata⟩, found, hnames⟩
      exact ⟨_, .cons ⟨data, hdata, rfl⟩ hnames⟩

/-- Asking for a size is answered by what is there. -/
theorem yields_size_bind {α : Type} {files state : Memory} {path : Path} {found : Option ByteArray}
    {second : Option Nat → Action α} {result : Except PackError α} {calls : List Call}
    (hfound : files.get? path = found)
    (h : Yields Memory.handler (second (found.map (·.size))) files result calls state) :
    Yields Memory.handler (call (.size path) >>= second) files result (.size path :: calls)
      state := by
  subst hfound
  exact yields_call_bind rfl h

/-- A file that is there is told of. -/
theorem Located.told {files : Memory} {dir : Path} {name : String} {artifact : Artifact}
    (h : Located files dir name artifact) : Told Memory.handler files dir name artifact := by
  obtain ⟨data, hdata, rfl⟩ := h
  exact ⟨data.size, by simp only [Memory.handler, hdata, Option.map_some], rfl⟩

/-- Names that are all found, one after the other. -/
theorem yields_verifyArtifacts {files : Memory} {dir : Path} {names : List String}
    {found : List Artifact} (missing : Path → PackError)
    (h : List.Forall₂ (Located files dir) names found) :
    Yields Memory.handler (verifyArtifacts missing dir names) files (.ok found)
      (lookups dir names) files :=
  yields_verifyArtifacts_of_told missing (h.imp fun _ _ hlocated => hlocated.told)

/-- The search ends with the first name that is not there. -/
theorem yields_verifyArtifacts_of_absent {files : Memory} {dir : Path} {front rest : List String}
    {name : String} {found : List Artifact} (missing : Path → PackError)
    (hfront : List.Forall₂ (Located files dir) front found)
    (hname : files.get? (dir.join name) = none) :
    Yields Memory.handler (verifyArtifacts missing dir (front ++ name :: rest)) files
      (.error (missing (dir.join name))) (lookups dir (front ++ [name])) files := by
  have hnone : Memory.handler (.size (dir.join name)) files = (.ok none, files) := by
    simp only [Memory.handler, hname, Option.map_none]
  exact yields_verifyArtifacts_of_stop (hfront.imp fun _ _ hlocated => hlocated.told)
    (yields_verifyArtifact_of_none missing hnone)

/-- Of names that are not all there, there is a first one. -/
theorem present_or_first_absent (files : Memory) (dir : Path) (names : List String) :
    (∀ name ∈ names, (files.get? (dir.join name)).isSome)
      ∨ ∃ front name rest, names = front ++ name :: rest
        ∧ (∀ other ∈ front, (files.get? (dir.join other)).isSome)
        ∧ files.get? (dir.join name) = none := by
  cases hfind : names.find? fun name => (files.get? (dir.join name)).isNone with
  | none =>
    refine .inl fun name hname => ?_
    simpa [Option.isSome_iff_ne_none] using List.find?_eq_none.mp hfind name hname
  | some name =>
    obtain ⟨habsent, front, rest, hsplit, hfront⟩ := List.find?_eq_some_iff_append.mp hfind
    refine .inr ⟨front, name, rest, hsplit, fun other hother => ?_, by simpa using habsent⟩
    simpa [Option.isSome_iff_ne_none] using hfront other hother

/-! ## Everything is there, or there is a first problem -/

/-- What the first phase finds when everything is there: every binary and every script in the order
of the plan, and the long description, which is text. -/
structure FoundAll (plan : Plan) (files : Memory) (inputs : Inputs) : Prop where
  binaries : List.Forall₂ (Located files plan.binDir) plan.binaries inputs.binaries
  scripts : List.Forall₂ (Located files plan.scriptsSourceDir) plan.scripts inputs.scripts
  longDescription : ∃ bytes, files.get? plan.readme = some bytes
    ∧ String.fromUTF8? bytes = some inputs.longDescription

/-- The calls for the binaries and the scripts. -/
def lookupsOf (plan : Plan) : List Call :=
  lookups plan.binDir plan.binaries ++ lookups plan.scriptsSourceDir plan.scripts

/-- Every binary is there, and every script. -/
structure FilesPresent (plan : Plan) (files : Memory) : Prop where
  binaries : ∀ name ∈ plan.binaries, (files.get? (plan.binDir.join name)).isSome
  scripts : ∀ name ∈ plan.scripts, (files.get? (plan.scriptsSourceDir.join name)).isSome

theorem filesPresent_iff {plan : Plan} {files : Memory} :
    FilesPresent plan files
      ↔ (∀ name ∈ plan.binaries, (files.get? (plan.binDir.join name)).isSome)
        ∧ ∀ name ∈ plan.scripts, (files.get? (plan.scriptsSourceDir.join name)).isSome :=
  ⟨fun h => ⟨h.binaries, h.scripts⟩, fun h => ⟨h.1, h.2⟩⟩

/-- What is there is found. -/
theorem FilesPresent.located {plan : Plan} {files : Memory} (h : FilesPresent plan files) :
    ∃ binaries scripts, List.Forall₂ (Located files plan.binDir) plan.binaries binaries
      ∧ List.Forall₂ (Located files plan.scriptsSourceDir) plan.scripts scripts := by
  obtain ⟨binaries, hbinaries⟩ := exists_located_iff.mpr h.binaries
  obtain ⟨scripts, hscripts⟩ := exists_located_iff.mpr h.scripts
  exact ⟨binaries, scripts, hbinaries, hscripts⟩

/-- Everything that is needed is there: there are inputs to be found. -/
theorem exists_foundAll_iff {plan : Plan} {files : Memory} :
    (∃ inputs, FoundAll plan files inputs)
      ↔ FilesPresent plan files ∧ ∃ bytes, files.get? plan.readme = some bytes
        ∧ (String.fromUTF8? bytes).isSome := by
  constructor
  · rintro ⟨inputs, h⟩
    obtain ⟨bytes, hreadme, htext⟩ := h.longDescription
    exact ⟨⟨exists_located_iff.mp ⟨_, h.binaries⟩, exists_located_iff.mp ⟨_, h.scripts⟩⟩,
      bytes, hreadme, Option.isSome_iff_exists.mpr ⟨_, htext⟩⟩
  · rintro ⟨hpresent, bytes, hreadme, htext⟩
    obtain ⟨text, htext⟩ := Option.isSome_iff_exists.mp htext
    obtain ⟨binaries, scripts, hbinaries, hscripts⟩ := hpresent.located
    exact ⟨⟨binaries, scripts, text⟩, hbinaries, hscripts, bytes, hreadme, htext⟩

/-- The first thing that is not as it should be, in the order of binaries, scripts and long
description, and the calls up to it. -/
inductive FirstProblem (plan : Plan) (files : Memory) : PackError → List Call → Prop
  | binary {front rest : List String} {name : String}
      (hsplit : plan.binaries = front ++ name :: rest)
      (hfront : ∀ other ∈ front, (files.get? (plan.binDir.join other)).isSome)
      (hname : files.get? (plan.binDir.join name) = none) :
      FirstProblem plan files (.missingArtifact (plan.binDir.join name))
        (lookups plan.binDir (front ++ [name]))
  | script {front rest : List String} {name : String}
      (hbinaries : ∀ other ∈ plan.binaries, (files.get? (plan.binDir.join other)).isSome)
      (hsplit : plan.scripts = front ++ name :: rest)
      (hfront : ∀ other ∈ front, (files.get? (plan.scriptsSourceDir.join other)).isSome)
      (hname : files.get? (plan.scriptsSourceDir.join name) = none) :
      FirstProblem plan files (.missingScript (plan.scriptsSourceDir.join name))
        (lookups plan.binDir plan.binaries
          ++ lookups plan.scriptsSourceDir (front ++ [name]))
  | noReadme (hpresent : FilesPresent plan files) (hreadme : files.get? plan.readme = none) :
      FirstProblem plan files
        (.io ⟨.notFound, "long description file " ++ plan.readme.text ++ " not found"⟩)
        (lookupsOf plan ++ [.size plan.readme])
  | notText {bytes : ByteArray} {message : String} (hpresent : FilesPresent plan files)
      (hreadme : files.get? plan.readme = some bytes) (htext : String.fromUTF8? bytes = none)
      (hmessage : Package.notText plan.readme bytes = .io ⟨.invalidData, message⟩) :
      FirstProblem plan files (.io ⟨.invalidData, message⟩)
        (lookupsOf plan ++ [.size plan.readme, .read plan.readme])

/-- Everything is there, or there is a first problem. -/
theorem foundAll_or_firstProblem (plan : Plan) (files : Memory) :
    (∃ inputs, FoundAll plan files inputs) ∨ ∃ e calls, FirstProblem plan files e calls := by
  rcases present_or_first_absent files plan.binDir plan.binaries with
    hbinaries | ⟨front, name, rest, hsplit, hfront, hname⟩
  swap
  · exact .inr ⟨_, _, .binary hsplit hfront hname⟩
  rcases present_or_first_absent files plan.scriptsSourceDir plan.scripts with
    hscripts | ⟨front, name, rest, hsplit, hfront, hname⟩
  swap
  · exact .inr ⟨_, _, .script hbinaries hsplit hfront hname⟩
  have hpresent : FilesPresent plan files := ⟨hbinaries, hscripts⟩
  cases hreadme : files.get? plan.readme with
  | none => exact .inr ⟨_, _, .noReadme hpresent hreadme⟩
  | some bytes =>
    cases htext : String.fromUTF8? bytes with
    | none => exact .inr ⟨_, _, .notText hpresent hreadme htext rfl⟩
    | some text =>
      exact .inl (exists_foundAll_iff.mpr ⟨hpresent, bytes, hreadme, htext ▸ rfl⟩)

/-! ## How the phase runs -/

/-- The end of the first phase, when all files have been found: the long description. -/
def verifyDescription (plan : Plan) (binaries scripts : List Artifact) : Action Inputs := do
  match ← Action.call (.size plan.readme) with
  | none => Action.fail (noLongDescription plan.readme)
  | some _ =>
    let longDescription ← readLongDescription plan.readme
    return ⟨binaries, scripts, longDescription⟩

theorem verify_eq (plan : Plan) :
    verify plan = (do
      Action.report .debug .pipeline
        s!"Checking {plan.binaries.length} binaries in {plan.binDir.text}"
      let binaries ← verifyBinaries plan.binDir plan.binaries
      let scripts ← verifyScripts plan.scriptsSourceDir plan.scripts
      verifyDescription plan binaries scripts) := rfl

/-- If all files are found, the phase ends as it ends for the long description. -/
theorem yields_verify_of_found {plan : Plan} {files : Memory} {binaries scripts : List Artifact}
    {result : Except PackError Inputs} {calls : List Call}
    (hbinaries : List.Forall₂ (Located files plan.binDir) plan.binaries binaries)
    (hscripts : List.Forall₂ (Located files plan.scriptsSourceDir) plan.scripts scripts)
    (h : Yields Memory.handler (verifyDescription plan binaries scripts) files result calls files) :
    Yields Memory.handler (verify plan) files result (lookupsOf plan ++ calls) files := by
  rw [verify_eq, lookupsOf, List.append_assoc]
  exact yields_report_bind ((yields_verifyArtifacts _ hbinaries).bind
    ((yields_verifyArtifacts _ hscripts).bind h))

/-- A long description that is there is read, and what is read is text or not. -/
theorem yields_verifyDescription {plan : Plan} {files : Memory} {bytes : ByteArray}
    (binaries scripts : List Artifact) (hreadme : files.get? plan.readme = some bytes) :
    Yields Memory.handler (verifyDescription plan binaries scripts) files
      (match String.fromUTF8? bytes with
        | some text => .ok ⟨binaries, scripts, text⟩
        | none => .error (notText plan.readme bytes))
      [.size plan.readme, .read plan.readme] files := by
  have hread : Memory.handler (.read plan.readme) files = (.ok bytes, files) := by
    simp only [Memory.handler, hreadme]
  refine yields_size_bind hreadme ?_
  cases htext : String.fromUTF8? bytes with
  | none =>
    refine Yields.bind_error (yields_call_bind hread ?_)
    rw [htext]
    exact yields_fail _ _ _
  | some text =>
    refine Yields.map (fun text => (⟨binaries, scripts, text⟩ : Inputs))
      (yields_call_bind hread ?_)
    rw [htext]
    exact yields_done _ _ _

/-- When everything is there, the phase ends with what it finds. -/
theorem FoundAll.yields {plan : Plan} {files : Memory} {inputs : Inputs}
    (h : FoundAll plan files inputs) :
    Yields Memory.handler (verify plan) files (.ok inputs)
      (lookupsOf plan ++ [.size plan.readme, .read plan.readme]) files := by
  obtain ⟨bytes, hreadme, htext⟩ := h.longDescription
  have hdescription := yields_verifyDescription inputs.binaries inputs.scripts hreadme
  rw [htext] at hdescription
  exact yields_verify_of_found h.binaries h.scripts hdescription

/-- When there is a first problem, the phase ends with it. -/
theorem FirstProblem.yields {plan : Plan} {files : Memory} {e : PackError} {calls : List Call}
    (h : FirstProblem plan files e calls) :
    Yields Memory.handler (verify plan) files (.error e) calls files := by
  cases h with
  | binary hsplit hfront hname =>
    obtain ⟨found, hfound⟩ := exists_located_iff.mpr hfront
    rw [verify_eq, hsplit]
    exact yields_report_bind (yields_verifyArtifacts_of_absent _ hfound hname).bind_error
  | script hbinaries hsplit hfront hname =>
    obtain ⟨binaries, hbinaries⟩ := exists_located_iff.mpr hbinaries
    obtain ⟨found, hfound⟩ := exists_located_iff.mpr hfront
    rw [verify_eq, hsplit]
    exact yields_report_bind ((yields_verifyArtifacts _ hbinaries).bind
      (yields_verifyArtifacts_of_absent _ hfound hname).bind_error)
  | noReadme hpresent hreadme =>
    obtain ⟨binaries, scripts, hbinaries, hscripts⟩ := hpresent.located
    exact yields_verify_of_found hbinaries hscripts (yields_size_bind hreadme (yields_fail _ _ _))
  | notText hpresent hreadme htext hmessage =>
    obtain ⟨binaries, scripts, hbinaries, hscripts⟩ := hpresent.located
    have hdescription := yields_verifyDescription binaries scripts hreadme
    rw [htext, hmessage] at hdescription
    exact yields_verify_of_found hbinaries hscripts hdescription

/-! ## What is reported -/

/-- The phase ends well exactly with what is found when everything is there. -/
theorem result_verify_eq_ok_iff {plan : Plan} {files : Memory} {inputs : Inputs} :
    ((verify plan).run Memory.handler files).result = .ok inputs ↔ FoundAll plan files inputs := by
  refine ⟨fun hran => ?_, fun h => h.yields.result⟩
  rcases foundAll_or_firstProblem plan files with ⟨found, h⟩ | ⟨e, calls, h⟩
  · obtain rfl := Except.ok.inj (h.yields.result.symm.trans hran)
    exact h
  · cases h.yields.result.symm.trans hran

/-- It ends with an error exactly if that is the first problem, and its calls go up to there. -/
theorem result_verify_eq_error_iff {plan : Plan} {files : Memory} {e : PackError} :
    ((verify plan).run Memory.handler files).result = .error e
      ↔ FirstProblem plan files e ((verify plan).run Memory.handler files).calls := by
  refine ⟨fun hran => ?_, fun h => h.yields.result⟩
  rcases foundAll_or_firstProblem plan files with ⟨found, h⟩ | ⟨e', calls, h⟩
  · cases h.yields.result.symm.trans hran
  · obtain rfl := Except.error.inj (h.yields.result.symm.trans hran)
    rw [h.yields.calls]
    exact h

/-- It leaves the storage as it is. -/
theorem state_verify (plan : Plan) (files : Memory) :
    ((verify plan).run Memory.handler files).state = files := by
  rcases foundAll_or_firstProblem plan files with ⟨inputs, h⟩ | ⟨e, calls, h⟩
  · exact h.yields.state
  · exact h.yields.state

/-- **The first phase ends well exactly if every binary, every script and the long description are
there and the long description is text, and else with the first problem.**  If it ends well, it has
found every file in the order of the plan, with its true length, and the long description as text;
if it does not, its calls are those up to the problem, so that nothing behind it was asked for. -/
theorem verify_reports_first_problem (plan : Plan) (files : Memory) :
    let ran := (verify plan).run Memory.handler files
    (ran.result.isOk = true
        ↔ (∀ name ∈ plan.binaries, (files.get? (plan.binDir.join name)).isSome)
          ∧ (∀ name ∈ plan.scripts, (files.get? (plan.scriptsSourceDir.join name)).isSome)
          ∧ ∃ bytes, files.get? plan.readme = some bytes ∧ (String.fromUTF8? bytes).isSome)
      ∧ (∀ inputs, ran.result = .ok inputs ↔ FoundAll plan files inputs)
      ∧ (∀ e, ran.result = .error e ↔ FirstProblem plan files e ran.calls)
      ∧ ran.state = files := by
  intro ran
  refine ⟨?_, fun _ => result_verify_eq_ok_iff, fun _ => result_verify_eq_error_iff,
    state_verify plan files⟩
  rw [← and_assoc, ← filesPresent_iff, ← exists_foundAll_iff]
  cases hran : ran.result with
  | ok inputs => exact iff_of_true rfl ⟨inputs, result_verify_eq_ok_iff.mp hran⟩
  | error e =>
    refine iff_of_false Bool.false_ne_true fun ⟨inputs, h⟩ => ?_
    cases h.yields.result.symm.trans hran

end Package
end ToolPack
