import ToolPack.Proofs.Storage.Exchange

/-!
# Runs that are followed call by call

On a storage whose answers are known, a run can be followed from call to call.  What counts of it is
how it ends, which calls it makes and which state it leaves.  The events that it reports on the way
do not count, and so they are left out here.

## What is here

* `Action.Yields`: how a run ends, its calls, and the state that it leaves;
* `yields_done`, `yields_fail`, `yields_report_bind`, `yields_call_bind`, `yields_call_error`: the
  run of a single step and of what comes behind it;
* `Yields.bind`, `Yields.map`, `Yields.bind_error`: the run of two actions, one after the other.
-/

set_option autoImplicit false

namespace ToolPack

open Storage

namespace Action

variable {α β σ : Type}

/-- How a run ends, the calls that it makes and the state that it leaves, whatever it reports. -/
structure Yields (handler : Handler σ) (action : Action α) (state : σ)
    (result : Except PackError α) (calls : List Call) (state' : σ) : Prop where
  result : (action.run handler state).result = result
  calls : (action.run handler state).calls = calls
  state : (action.run handler state).state = state'

/-- The run as a whole, with the events that it reports. -/
theorem Yields.run_eq {handler : Handler σ} {action : Action α} {state state' : σ}
    {result : Except PackError α} {calls : List Call}
    (h : Yields handler action state result calls state') :
    action.run handler state = ⟨result, calls, (action.run handler state).events, state'⟩ := by
  rw [← h.result, ← h.calls, ← h.state]

/-! ## Single steps -/

theorem yields_done (handler : Handler σ) (value : α) (state : σ) :
    Yields handler (done value) state (.ok value) [] state := ⟨rfl, rfl, rfl⟩

theorem yields_fail (handler : Handler σ) (e : PackError) (state : σ) :
    Yields handler (fail e : Action α) state (.error e) [] state := ⟨rfl, rfl, rfl⟩

/-- Reporting an event does not count. -/
theorem yields_report_bind {handler : Handler σ} {state state' : σ} {level : Log.Level}
    {part : Log.Part} {message : String} {second : Unit → Action β}
    {result : Except PackError β} {calls : List Call}
    (h : Yields handler (second ()) state result calls state') :
    Yields handler (report level part message >>= second) state result calls state' :=
  ⟨h.result, h.calls, h.state⟩

/-- A call that is answered, and what comes behind it. -/
theorem yields_call_bind {handler : Handler σ} {c : Call} {state state' state'' : σ}
    {reply : c.Reply} {second : c.Reply → Action β} {result : Except PackError β}
    {calls : List Call} (hc : handler c state = (.ok reply, state'))
    (h : Yields handler (second reply) state' result calls state'') :
    Yields handler (call c >>= second) state result (c :: calls) state'' := by
  have hrun : (call c >>= second).run handler state = _ := run_call_bind_ok hc second
  rw [h.run_eq] at hrun
  exact ⟨by rw [hrun], by rw [hrun], by rw [hrun]⟩

/-- Nothing comes behind a call that fails. -/
theorem yields_call_error {handler : Handler σ} {c : Call} {state state' : σ} {e : IoError}
    {second : c.Reply → Action β} (hc : handler c state = (.error e, state')) :
    Yields handler (call c >>= second) state (.error (.io e)) [c] state' := by
  have hrun : (call c >>= second).run handler state = _ := run_call_bind_error hc second
  exact ⟨by rw [hrun], by rw [hrun], by rw [hrun]⟩

/-! ## One action after another -/

/-- The second action goes on where the first one ends well. -/
theorem Yields.bind {handler : Handler σ} {first : Action α} {second : α → Action β}
    {state state' state'' : σ} {value : α} {result : Except PackError β} {calls more : List Call}
    (hfirst : Yields handler first state (.ok value) calls state')
    (hsecond : Yields handler (second value) state' result more state'') :
    Yields handler (first >>= second) state result (calls ++ more) state'' := by
  have hrun : (first >>= second).run handler state = _ := run_bind_of_ok hfirst.run_eq
  rw [hsecond.run_eq] at hrun
  exact ⟨by rw [hrun], by rw [hrun], by rw [hrun]⟩

/-- What is made of the value of an action needs no calls. -/
theorem Yields.map {handler : Handler σ} {action : Action α} {state state' : σ} {value : α}
    {calls : List Call} (f : α → β) (h : Yields handler action state (.ok value) calls state') :
    Yields handler (action >>= fun value => pure (f value)) state (.ok (f value)) calls state' := by
  rw [← List.append_nil calls]
  exact h.bind (yields_done handler (f value) state')

/-- Nothing comes behind an action that ends with an error. -/
theorem Yields.bind_error {handler : Handler σ} {first : Action α} {second : α → Action β}
    {state state' : σ} {e : PackError} {calls : List Call}
    (h : Yields handler first state (.error e) calls state') :
    Yields handler (first >>= second) state (.error e) calls state' := by
  have hrun : (first >>= second).run handler state = _ := run_bind_of_error h.run_eq
  exact ⟨by rw [hrun], by rw [hrun], by rw [hrun]⟩

end Action
end ToolPack
