import ToolPack.Proofs.Storage.Exchange

/-!
# Actions that stop when a call fails

What an action does behind a call that failed is up to the action: it could try again, try something
else, or go on as if nothing had happened.  An action that stops does none of that.  It ends at
once, and the error that it ends with is the one that the call failed with, as it is.

Whether an action stops is a question about every call that it may ask for, after any answers.  It
stops if its parts do, so it is enough to look at the single steps and at the loops.

## What is here

* `Action.StopsOnFailure`, and how it is put together: `stopsOnFailure_call`,
  `stopsOnFailure_report`, `StopsOnFailure.bind`;
* `StopsOnFailure.run_of_error`, `StopsOnFailure.exchanges_of_error`: the run of such an action
  whose first call fails;
* `StopsOnFailure.rest_eq_nil_of_error`: in a run of such an action a call that fails is the last
  one, and its error ends the run.
-/

set_option autoImplicit false

namespace ToolPack

open Storage

namespace Action

variable {α β σ : Type}

/-- Behind every call that fails the action ends, with the error of the call. -/
def StopsOnFailure : Action α → Prop
  | done _ => True
  | fail _ => True
  | note _ next => next.StopsOnFailure
  | ask _ next =>
    (∀ e, next (.error e) = fail (.io e)) ∧ ∀ reply, (next (.ok reply)).StopsOnFailure

/-! ## Single steps, and one action after another -/

theorem stopsOnFailure_pure (value : α) : (pure value : Action α).StopsOnFailure := trivial

theorem stopsOnFailure_fail (e : PackError) : (fail e : Action α).StopsOnFailure := trivial

theorem stopsOnFailure_report (level : Log.Level) (part : Log.Part) (message : String) :
    (report level part message).StopsOnFailure := trivial

theorem stopsOnFailure_call (c : Call) : (call c).StopsOnFailure :=
  ⟨fun _ => rfl, fun _ => trivial⟩

/-- An answer that is only handed on, for the action to find the failure in it, is no end. -/
theorem not_stopsOnFailure_attempt (c : Call) : ¬ (attempt c).StopsOnFailure :=
  fun h => nomatch h.1 ⟨.other, ""⟩

theorem StopsOnFailure.bind {first : Action α} {second : α → Action β}
    (hfirst : first.StopsOnFailure) (hsecond : ∀ value, (second value).StopsOnFailure) :
    (first >>= second).StopsOnFailure := by
  induction first with
  | done value => exact hsecond value
  | fail e => trivial
  | note event next ih => exact ih hfirst
  | ask c next ih =>
    refine ⟨fun e => ?_, fun reply => ih _ (hfirst.2 reply)⟩
    change next (.error e) >>= second = fail (.io e)
    rw [hfirst.1 e, fail_bind]

/-! ## Runs -/

section FirstCall

variable {handler : Handler σ} {c : Call} {next : Except IoError c.Reply → Action α}
  {state state' : σ} {e : IoError}

/-- The run of an action that stops, when its first call fails. -/
theorem StopsOnFailure.run_of_error (h : (ask c next).StopsOnFailure)
    (he : handler c state = (.error e, state')) :
    (ask c next).run handler state = ⟨.error (.io e), [c], [], state'⟩ := by
  rw [run_ask he, h.1 e, run_fail]

theorem StopsOnFailure.exchanges_of_error (h : (ask c next).StopsOnFailure)
    (he : handler c state = (.error e, state')) :
    (ask c next).exchanges handler state = [⟨c, .error e⟩] := by
  rw [exchanges_ask he, h.1 e, exchanges]

end FirstCall

/-- **In a run of an action that stops, a call that fails is the last one, and its error ends the
run.** -/
theorem StopsOnFailure.rest_eq_nil_of_error {handler : Handler σ} {action : Action α} {state : σ}
    {before rest : List Exchange} {x : Exchange} {e : IoError} (h : action.StopsOnFailure)
    (hx : action.exchanges handler state = before ++ x :: rest) (he : x.answer = .error e) :
    rest = [] ∧ (action.run handler state).result = .error (.io e) := by
  induction action generalizing state before with
  | done value => simp [exchanges] at hx
  | fail e => simp [exchanges] at hx
  | note event next ih => exact ih h hx
  | ask c next ih =>
    rw [run_ask rfl]
    rcases exchanges_ask_eq_append hx with ⟨rfl, rfl, hrest⟩ | ⟨before', rfl, hnext⟩
    · have hanswer : (handler c state).1 = .error e := he
      rw [hanswer, h.1 e] at hrest ⊢
      exact ⟨hrest.symm, rfl⟩
    · cases hanswer : (handler c state).1 with
      | error e' =>
        rw [hanswer, h.1 e'] at hnext
        simp [exchanges] at hnext
      | ok reply =>
        rw [hanswer] at hnext
        exact ih _ (h.2 reply) hnext

end Action
end ToolPack
