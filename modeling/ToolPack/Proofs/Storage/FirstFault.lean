import ToolPack.Proofs.Storage.Failure
import ToolPack.Storage.Fault

/-!
# The first call that fails

A schedule makes calls fail.  In the run of an action that stops on a failure only the first of
them has a say, as it ends the run.  Up to there, and for any action, a run with failing calls is
the run in which none fails, so the schedule is known by what it does to the calls of that one.  It
spares them all, or there is a first one that it strikes.

## What is here

* `Schedule.Spares`: no call of a row is made to fail; `spares_or_strikes` is the alternative;
* `run_failing_of_spares`: a run whose calls are all spared is the run without failing calls;
* `run_failing_of_strikes`: if the action stops on a failure, a run one of whose calls is struck
  makes the calls up to that one and ends with its error, and the call has no effect;
* `exists_storage_eq_after`, `spares_of_ok`: what follows for all schedules, and for runs that end
  well;
* `never`, `cut`: the schedules that strike nothing, and everything from some call on.
-/

set_option autoImplicit false

namespace ToolPack
namespace Storage

open ToolPack.Action

variable {σ α : Type}

/-! ## Rows of calls under a schedule -/

/-- No call of a row fails, when the row comes behind the calls `past`. -/
def Schedule.Spares (schedule : Schedule) (past calls : List Call) : Prop :=
  ∀ before c rest, calls = before ++ c :: rest → schedule (past ++ before) c = none

theorem Schedule.spares_nil (schedule : Schedule) (past : List Call) :
    schedule.Spares past [] := by
  intro before c rest h
  simp at h

theorem Schedule.spares_cons {schedule : Schedule} {past calls : List Call} {c : Call} :
    schedule.Spares past (c :: calls)
      ↔ schedule past c = none ∧ schedule.Spares (past ++ [c]) calls := by
  constructor
  · intro h
    refine ⟨by simpa using h [] c calls rfl, fun before d rest hsplit => ?_⟩
    rw [List.append_assoc, List.singleton_append]
    exact h (c :: before) d rest (by rw [hsplit, List.cons_append])
  · rintro ⟨hc, hcalls⟩ before d rest hsplit
    cases before with
    | nil =>
      obtain ⟨rfl, -⟩ := List.cons.inj hsplit
      rwa [List.append_nil]
    | cons first before =>
      obtain ⟨rfl, hlater⟩ := List.cons.inj hsplit
      rw [List.append_cons]
      exact hcalls before d rest hlater

/-- A schedule spares a row of calls, or there is a first call that it strikes. -/
theorem Schedule.spares_or_strikes (schedule : Schedule) (past calls : List Call) :
    schedule.Spares past calls ∨ ∃ before c rest e, calls = before ++ c :: rest
      ∧ schedule.Spares past before ∧ schedule (past ++ before) c = some e := by
  induction calls generalizing past with
  | nil => exact .inl (schedule.spares_nil past)
  | cons c calls ih =>
    cases hc : schedule past c with
    | some e =>
      exact .inr ⟨[], c, calls, e, rfl, schedule.spares_nil past, by rwa [List.append_nil]⟩
    | none =>
      rcases ih (past ++ [c]) with hspares | ⟨before, d, rest, e, rfl, hspares, hd⟩
      · exact .inl (spares_cons.mpr ⟨hc, hspares⟩)
      · refine .inr ⟨c :: before, d, rest, e, rfl, spares_cons.mpr ⟨hc, hspares⟩, ?_⟩
        rwa [List.append_cons]

/-! ## One call -/

theorem failing_of_none {schedule : Schedule} {c : Call} {w : Watched σ} (handler : Handler σ)
    (h : schedule w.calls c = none) :
    failing schedule handler c w
      = ((handler c w.storage).1, ⟨(handler c w.storage).2, w.calls ++ [c]⟩) := by
  simp only [failing, h]

theorem failing_of_some {schedule : Schedule} {c : Call} {w : Watched σ} {e : IoError}
    (handler : Handler σ) (h : schedule w.calls c = some e) :
    failing schedule handler c w = (.error e, ⟨w.storage, w.calls ++ [c]⟩) := by
  simp only [failing, h]

/-! ## Runs -/

/-- A run whose calls are all spared is the run without failing calls. -/
theorem run_failing_of_spares {handler : Handler σ} {schedule : Schedule} {action : Action α}
    {w : Watched σ} (h : schedule.Spares w.calls (action.run handler w.storage).calls) :
    let ran := action.run (failing schedule handler) w
    let plain := action.run handler w.storage
    ran.result = plain.result ∧ ran.calls = plain.calls ∧ ran.events = plain.events
      ∧ ran.state = ⟨plain.state, w.calls ++ plain.calls⟩
      ∧ action.exchanges (failing schedule handler) w = action.exchanges handler w.storage := by
  induction action generalizing w with
  | done value => exact ⟨rfl, rfl, rfl, by simp [run], rfl⟩
  | fail e => exact ⟨rfl, rfl, rfl, by simp [run], rfl⟩
  | note event next ih =>
    obtain ⟨hresult, hcalls, hevents, hstate, hexchanges⟩ := ih h
    exact ⟨hresult, hcalls, congrArg (event :: ·) hevents, hstate, hexchanges⟩
  | ask c next ih =>
    rcases hc : handler c w.storage with ⟨answer, s⟩
    rw [run_ask hc] at h
    obtain ⟨hspared, hlater⟩ := Schedule.spares_cons.mp h
    have hw := failing_of_none handler hspared
    rw [hc] at hw
    rw [run_ask hw, run_ask hc, exchanges_ask hw, exchanges_ask hc]
    obtain ⟨hresult, hcalls, hevents, hstate, hexchanges⟩ :=
      ih answer (w := ⟨s, w.calls ++ [c]⟩) hlater
    refine ⟨hresult, congrArg (c :: ·) hcalls, hevents, ?_, congrArg (_ :: ·) hexchanges⟩
    exact hstate.trans (congrArg (Watched.mk _) (List.append_assoc w.calls [c] _))

/-- A run one of whose calls is struck makes the calls up to that one, ends with its error, and
leaves what the calls before it lead to. -/
theorem run_failing_of_strikes {handler : Handler σ} {schedule : Schedule} {action : Action α}
    {w : Watched σ} {before rest : List Call} {c : Call} {e : IoError}
    (hstops : action.StopsOnFailure)
    (hcalls : (action.run handler w.storage).calls = before ++ c :: rest)
    (hspares : schedule.Spares w.calls before)
    (hstrikes : schedule (w.calls ++ before) c = some e) :
    let ran := action.run (failing schedule handler) w
    ran.result = .error (.io e) ∧ ran.calls = before ++ [c]
      ∧ ran.state = ⟨after handler before w.storage, w.calls ++ before ++ [c]⟩ := by
  induction action generalizing w before with
  | done value => simp [run] at hcalls
  | fail e => simp [run] at hcalls
  | note event next ih => exact ih hstops hcalls hspares hstrikes
  | ask d next ih =>
    cases before with
    | nil =>
      rw [run_ask rfl] at hcalls
      obtain ⟨rfl, -⟩ := List.cons.inj hcalls
      rw [List.append_nil] at hstrikes ⊢
      rw [hstops.run_of_error (failing_of_some handler hstrikes)]
      exact ⟨rfl, rfl, rfl⟩
    | cons first before =>
      rcases hd : handler d w.storage with ⟨e | reply, s⟩
      · -- a call that fails by itself is the last one, so none is struck behind it
        rw [hstops.run_of_error hd] at hcalls
        simp at hcalls
      · rw [run_ask hd] at hcalls
        obtain ⟨rfl, hnext⟩ := List.cons.inj hcalls
        obtain ⟨hspared, hlater⟩ := Schedule.spares_cons.mp hspares
        have hw := failing_of_none handler hspared
        rw [hd] at hw
        rw [List.append_cons] at hstrikes
        obtain ⟨hresult, hran, hstate⟩ :=
          ih _ (w := ⟨s, w.calls ++ [d]⟩) (hstops.2 reply) hnext hlater hstrikes
        rw [run_ask hw, after_cons, hd, List.append_cons w.calls d before]
        exact ⟨hresult, congrArg (d :: ·) hran, hstate⟩

/-- Wherever a run with failing calls stops, it has got there on the way of the run without. -/
theorem exists_storage_eq_after {action : Action α} (hstops : action.StopsOnFailure)
    (schedule : Schedule) (handler : Handler σ) (state : σ) :
    ∃ before rest, (action.run handler state).calls = before ++ rest
      ∧ (action.run (failing schedule handler) ⟨state, []⟩).state.storage
        = after handler before state := by
  rcases schedule.spares_or_strikes [] (action.run handler state).calls with
    hspares | ⟨before, c, rest, e, hcalls, hspares, hstrikes⟩
  · obtain ⟨-, -, -, hstate, -⟩ := run_failing_of_spares (w := ⟨state, []⟩) hspares
    refine ⟨_, [], (List.append_nil _).symm, ?_⟩
    rw [hstate]
    exact state_run handler action state
  · obtain ⟨-, -, hstate⟩ :=
      run_failing_of_strikes (w := ⟨state, []⟩) hstops hcalls hspares hstrikes
    exact ⟨before, c :: rest, hcalls, by rw [hstate]⟩

/-- A run that ends well had no call struck. -/
theorem spares_of_ok {schedule : Schedule} {handler : Handler σ} {action : Action α} {state : σ}
    {value : α} (hstops : action.StopsOnFailure)
    (h : (action.run (failing schedule handler) ⟨state, []⟩).result = .ok value) :
    schedule.Spares [] (action.run handler state).calls := by
  rcases schedule.spares_or_strikes [] (action.run handler state).calls with
    hspares | ⟨before, c, rest, e, hcalls, hspares, hstrikes⟩
  · exact hspares
  · obtain ⟨hresult, -, -⟩ :=
      run_failing_of_strikes (w := ⟨state, []⟩) hstops hcalls hspares hstrikes
    rw [hresult] at h
    cases h

/-! ## Two schedules -/

/-- The schedule by which no call fails. -/
def never : Schedule := fun _ _ => none

theorem spares_never (past calls : List Call) : never.Spares past calls := fun _ _ _ _ => rfl

/-- The schedule by which the first `n` calls do not fail, and all others do. -/
def cut (n : Nat) : Schedule := fun past _ =>
  if past.length < n then none else some ⟨.other, ""⟩

theorem spares_cut (calls : List Call) : (cut calls.length).Spares [] calls := by
  rintro before c rest rfl
  rw [List.nil_append, cut, if_pos (by simp)]

/-- A run that is cut leaves what its first calls lead to. -/
theorem storage_run_cut {handler : Handler σ} {action : Action α} {state : σ}
    {before rest : List Call} (hstops : action.StopsOnFailure)
    (h : (action.run handler state).calls = before ++ rest) :
    (action.run (failing (cut before.length) handler) ⟨state, []⟩).state.storage
      = after handler before state := by
  have hspares := spares_cut before
  cases rest with
  | nil =>
    rw [List.append_nil] at h
    rw [← h] at hspares
    obtain ⟨-, -, -, hstate, -⟩ := run_failing_of_spares (w := ⟨state, []⟩) hspares
    rw [← h, hstate]
    exact state_run handler action state
  | cons c rest =>
    have hstrikes : cut before.length ([] ++ before) c = some ⟨.other, ""⟩ := by
      rw [List.nil_append, cut, if_neg (Nat.lt_irrefl _)]
    obtain ⟨-, -, hstate⟩ := run_failing_of_strikes (w := ⟨state, []⟩) hstops h hspares hstrikes
    rw [hstate]

end Storage
end ToolPack
