import ToolPack.Proofs.Storage.Failure

/-!
# What holds whatever the storage replies

A statement about all runs of an action, on every storage and with every failure, is a statement
about the tree that the action is: at each call it has to hold for every reply.  Two things are
stated.  `asks past c` is about a call `c` that is made after the exchanges `past`; `ends past r`
is about how the action ends after them, when no call has failed.  What comes behind a call that
failed is left out.  For an action that stops on a failure nothing comes there, so what is stated
is all that can be stated of its runs.

## What is here

* `Action.Ensures asks ends past action`: after the exchanges `past`, and as long as no call fails,
  every call of the action satisfies `asks` and every end satisfies `ends`;
* `ensures_bind`: of two actions in a row the first one has to end where the second one can start;
* what that says about a run of an action that stops on a failure: its calls
  (`Ensures.asks_of_exchanges`), its end (`Ensures.ends_of_run`) and the states that it goes
  through (`Ensures.invariant`).
-/

set_option autoImplicit false

namespace ToolPack

open Storage

namespace Action

variable {α β σ : Type}

/-- Whatever the replies are: every call satisfies `asks` together with the exchanges before it,
and every end satisfies `ends` together with all exchanges. -/
def Ensures (asks : List Exchange → Call → Prop)
    (ends : List Exchange → Except PackError α → Prop) (past : List Exchange)
    (action : Action α) : Prop :=
  match action with
  | done value => ends past (.ok value)
  | fail e => ends past (.error e)
  | note _ next => next.Ensures asks ends past
  | ask c next =>
    asks past c ∧ ∀ reply, (next (.ok reply)).Ensures asks ends (past ++ [⟨c, .ok reply⟩])

variable {asks : List Exchange → Call → Prop} {ends : List Exchange → Except PackError α → Prop}
  {past : List Exchange}

/-! ## Building actions -/

/-- What two actions in a row have to do: when the first one ends well, the second one takes over
with the exchanges so far. -/
theorem ensures_bind {asks : List Exchange → Call → Prop}
    {ends : List Exchange → Except PackError β → Prop} {past : List Exchange} (first : Action α)
    (second : α → Action β) :
    (first >>= second).Ensures asks ends past
      ↔ first.Ensures asks (fun past r => match r with
          | .ok value => (second value).Ensures asks ends past
          | .error e => ends past (.error e)) past := by
  induction first generalizing past with
  | done value => exact Iff.rfl
  | fail e => exact Iff.rfl
  | note event next ih => exact ih
  | ask c next ih => exact and_congr_right fun _ => forall_congr' fun reply => ih (.ok reply)

theorem ensures_call_bind {asks : List Exchange → Call → Prop}
    {ends : List Exchange → Except PackError β → Prop} {past : List Exchange} (c : Call)
    (second : c.Reply → Action β) :
    (call c >>= second).Ensures asks ends past
      ↔ asks past c ∧ ∀ reply, (second reply).Ensures asks ends (past ++ [⟨c, .ok reply⟩]) :=
  Iff.rfl

/-- Reporting an event changes nothing. -/
theorem ensures_report_bind {asks : List Exchange → Call → Prop}
    {ends : List Exchange → Except PackError β → Prop} {past : List Exchange} (level : Log.Level)
    (part : Log.Part) (message : String) (second : Unit → Action β) :
    (report level part message >>= second).Ensures asks ends past
      ↔ (second ()).Ensures asks ends past := Iff.rfl

/-! ## Runs -/

/-- What an action asks for in a run. -/
theorem Ensures.asks_of_exchanges {handler : Handler σ} {action : Action α} {state : σ}
    {before rest : List Exchange} {x : Exchange} (h : action.Ensures asks ends past)
    (hstops : action.StopsOnFailure) (hx : action.exchanges handler state = before ++ x :: rest) :
    asks (past ++ before) x.call := by
  induction action generalizing state past before with
  | done value => simp [exchanges] at hx
  | fail e => simp [exchanges] at hx
  | note event next ih => exact ih h hstops hx
  | ask c next ih =>
    rcases exchanges_ask_eq_append hx with ⟨rfl, rfl, -⟩ | ⟨before', rfl, hnext⟩
    · rw [List.append_nil]
      exact h.1
    · cases hanswer : (handler c state).1 with
      | error e =>
        rw [hanswer, hstops.1 e] at hnext
        simp [exchanges] at hnext
      | ok reply =>
        rw [hanswer] at hnext
        rw [List.append_cons]
        exact ih _ (h.2 reply) (hstops.2 reply) hnext

/-- How a run ends: with the error of the call that failed, or as the action does by itself. -/
theorem Ensures.ends_of_run {action : Action α} (h : action.Ensures asks ends past)
    (hstops : action.StopsOnFailure) (handler : Handler σ) (state : σ) :
    (∃ before c e, action.exchanges handler state = before ++ [⟨c, .error e⟩]
        ∧ (action.run handler state).result = .error (.io e))
      ∨ ends (past ++ action.exchanges handler state) (action.run handler state).result := by
  induction action generalizing state past with
  | done value => exact .inr (by rw [exchanges, List.append_nil]; exact h)
  | fail e => exact .inr (by rw [exchanges, List.append_nil]; exact h)
  | note event next ih => exact ih h hstops state
  | ask c next ih =>
    rcases ha : handler c state with ⟨e | reply, state'⟩
    · rw [hstops.exchanges_of_error ha, hstops.run_of_error ha]
      exact .inl ⟨[], c, e, rfl, rfl⟩
    · rw [exchanges_ask ha, run_ask ha]
      rcases ih _ (h.2 reply) (hstops.2 reply) state' with ⟨before, c', e, hx, hr⟩ | hend
      · exact .inl ⟨⟨c, .ok reply⟩ :: before, c', e, by rw [hx, List.cons_append], hr⟩
      · exact .inr (by rw [List.append_cons]; exact hend)

/-- What every call keeps that the action may ask for holds at the end of a run. -/
theorem Ensures.invariant {P : σ → Prop} {handler : Handler σ} {action : Action α} {state : σ}
    (h : action.Ensures asks ends past) (hstops : action.StopsOnFailure)
    (hstep : ∀ before c state, asks before c → P state → P (handler c state).2)
    (hstart : P state) : P (action.run handler state).state := by
  induction action generalizing state past with
  | done value => exact hstart
  | fail e => exact hstart
  | note event next ih => exact ih h hstops hstart
  | ask c next ih =>
    have hnext := hstep past c state h.1 hstart
    rcases ha : handler c state with ⟨e | reply, state'⟩
    · rw [hstops.run_of_error ha]
      rwa [ha] at hnext
    · rw [run_ask ha]
      rw [ha] at hnext
      exact ih _ (h.2 reply) (hstops.2 reply) hnext

end Action
end ToolPack
