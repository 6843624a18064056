import Mathlib.Data.List.Forall2
import ToolPack.Package.Staging
import ToolPack.Proofs.Storage.Evaluation

/-!
# Looking for names in a directory

What looking for names comes to depends on nothing but how the storage answers when it is asked for
their sizes, one after the other: it ends with the first name under which no file is told of.

## What is here

* `lookups`: the calls that look for names;
* `Told`: a name under which a file is told of;
* `Told.yields`, `yields_verifyArtifact_of_none`, `yields_verifyArtifact_of_error`: looking for one
  name;
* `yields_verifyArtifacts_of_told`, `yields_verifyArtifacts_of_stop`: looking for names that are all
  there, and for some of which one is not.
-/

set_option autoImplicit false

namespace ToolPack
namespace Package

open Storage ToolPack.Action

variable {σ : Type} {handler : Handler σ} {state state' : σ} {dir : Path} {name : String}
  {artifact : Artifact} {names front rest : List String} {found : List Artifact}
  {missing : Path → PackError}

/-- The calls that look for files in a directory. -/
def lookups (dir : Path) (names : List String) : List Call :=
  names.map fun name => .size (dir.join name)

/-- A file is told of under a name, with its size, and being asked changes nothing. -/
def Told (handler : Handler σ) (state : σ) (dir : Path) (name : String) (artifact : Artifact) :
    Prop :=
  ∃ size, handler (.size (dir.join name)) state = (.ok (some size), state)
    ∧ artifact = ⟨name, dir.join name, size⟩

/-! ## One name -/

theorem Told.yields (missing : Path → PackError) (h : Told handler state dir name artifact) :
    Yields handler (verifyArtifact missing dir name) state (.ok artifact)
      [.size (dir.join name)] state := by
  obtain ⟨size, hsize, rfl⟩ := h
  exact yields_call_bind hsize (yields_report_bind (yields_done _ _ _))

theorem yields_verifyArtifact_of_none (missing : Path → PackError)
    (h : handler (.size (dir.join name)) state = (.ok none, state')) :
    Yields handler (verifyArtifact missing dir name) state (.error (missing (dir.join name)))
      [.size (dir.join name)] state' :=
  yields_call_bind h (yields_report_bind (yields_fail _ _ _))

/-- The error of a call is none of a file that is lacking. -/
theorem yields_verifyArtifact_of_error {e : IoError} (missing : Path → PackError)
    (h : handler (.size (dir.join name)) state = (.error e, state')) :
    Yields handler (verifyArtifact missing dir name) state (.error (.io e))
      [.size (dir.join name)] state' :=
  yields_call_error h

/-! ## Names in a row -/

/-- Names that are all there. -/
theorem yields_verifyArtifacts_of_told (missing : Path → PackError)
    (h : List.Forall₂ (Told handler state dir) names found) :
    Yields handler (verifyArtifacts missing dir names) state (.ok found) (lookups dir names)
      state := by
  induction h with
  | nil => exact yields_done _ _ _
  | @cons name artifact names found hname hnames ih =>
    exact (hname.yields missing).bind (ih.map (artifact :: ·))

/-- The search ends where looking for a name does not end well, behind names that are there. -/
theorem yields_verifyArtifacts_of_stop {e : PackError}
    (hfront : List.Forall₂ (Told handler state dir) front found)
    (hname : Yields handler (verifyArtifact missing dir name) state (.error e)
      [.size (dir.join name)] state') :
    Yields handler (verifyArtifacts missing dir (front ++ name :: rest)) state (.error e)
      (lookups dir (front ++ [name])) state' := by
  induction hfront with
  | nil => exact hname.bind_error
  | cons hother _ ih => exact (hother.yields missing).bind ih.bind_error

end Package
end ToolPack
