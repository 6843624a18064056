import ToolPack.Proofs.Package.Sample
import ToolPack.Proofs.Package.Stops
import ToolPack.Proofs.Storage.FirstFault

/-!
# The first failing call ends a run

Loops ask for one file after the other, and some answers are errors of their own: a size that is
not there is a missing binary.  None of that gets between a failing call and the end of the run, as
every loop and every phase hands the error of a call on (`stopsOnFailure_run`).
A run is known by what it does when no call fails.  If some calls fail, it makes the same calls up
to the first of these, ends with the error of that call as it is, and leaves the storage as the
calls before it have made it.
-/

set_option autoImplicit false

namespace ToolPack
namespace Package

open Storage ToolPack.Action

/-- **A run stops at the first call that fails, with the error of that call.**  Up to there it is
the run in which no call fails, and if no call of that one is struck it is the whole of it.  The
state has the storage in it, files and executable paths, and the calls that it was asked for. -/
theorem run_stops_at_first_failing_call {σ : Type} (handler : Handler σ) (r : Resolved)
    (state : σ) (schedule : Schedule) :
    let plain := (run r).run handler state
    let ran := (run r).run (failing schedule handler) ⟨state, []⟩
    (∀ before c rest e, plain.calls = before ++ c :: rest → schedule.Spares [] before →
        schedule before c = some e →
          ran.calls = before ++ [c] ∧ ran.result = .error (.io e)
            ∧ ran.state = ⟨after handler before state, before ++ [c]⟩)
    ∧ (schedule.Spares [] plain.calls →
        ran.calls = plain.calls ∧ ran.result = plain.result ∧ ran.events = plain.events
          ∧ ran.state = ⟨plain.state, plain.calls⟩) := by
  intro plain ran
  constructor
  · intro before c rest e hcalls hspares hstrikes
    obtain ⟨hresult, hran, hstate⟩ :=
      run_failing_of_strikes (w := ⟨state, []⟩) (stopsOnFailure_run r) hcalls hspares hstrikes
    exact ⟨hran, hresult, hstate⟩
  · intro hspares
    obtain ⟨hresult, hran, hevents, hstate, -⟩ :=
      run_failing_of_spares (w := ⟨state, []⟩) hspares
    exact ⟨hran, hresult, hevents, hstate⟩

/-- The second copy of the small package finds no room, and it is the last call. -/
example :
    let full : Fault := ⟨"copy_file", none, 2, ⟨.storageFull, "full"⟩⟩
    let r : Resolved := ⟨kitMetadata, (kit {} {}).plan⟩
    ((run r).run (failing (Fault.schedule [full]) Memory.handler) ⟨kitFiles, []⟩).calls.getLast?
      = some (.copy ⟨"./scripts/tool"⟩ ⟨"./build/lib/scripts/tool"⟩) := by
  decide +kernel

end Package
end ToolPack
