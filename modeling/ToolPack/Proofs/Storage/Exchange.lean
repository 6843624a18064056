import ToolPack.Storage.Action

/-!
# What passes between a run and its storage

`Action.run` tells which calls were made.  To say what a run found out, and in which order, the
answers are wanted too: a run is a row of exchanges, each one a call with its answer.

## What is here

* `Action.exchanges`: the exchanges of a run; its calls are the calls of the run
  (`map_call_exchanges`);
* `exchanges_ask_eq_append`: where an exchange of a run stands;
* `Action.after`: the state that calls lead to; the state that a run leaves is where its calls lead
  (`state_run`), and every answer is the storage's at the state that the calls before it lead to
  (`answer_of_exchanges`);
* how a run of two actions, one after the other, is put together (`exchanges_bind`,
  `run_bind_of_ok`, `run_bind_of_error`).
-/

set_option autoImplicit false

namespace ToolPack

open Storage

namespace Action

variable {α β σ : Type}

/-- A call and what it was answered with. -/
structure Exchange where
  call : Call
  answer : Except IoError call.Reply

/-- The exchanges of a run, in order. -/
def exchanges (handler : Handler σ) (action : Action α) (state : σ) : List Exchange :=
  match action with
  | done _ => []
  | fail _ => []
  | note _ next => next.exchanges handler state
  | ask c next =>
    let (answer, state) := handler c state
    ⟨c, answer⟩ :: (next answer).exchanges handler state

/-- The state that calls lead to, whatever they are answered with. -/
def after (handler : Handler σ) (calls : List Call) (state : σ) : σ :=
  calls.foldl (fun state c => (handler c state).2) state

@[simp] theorem after_nil (handler : Handler σ) (state : σ) : after handler [] state = state := rfl

@[simp] theorem after_cons (handler : Handler σ) (c : Call) (calls : List Call) (state : σ) :
    after handler (c :: calls) state = after handler calls (handler c state).2 := rfl

theorem after_append (handler : Handler σ) (calls more : List Call) (state : σ) :
    after handler (calls ++ more) state = after handler more (after handler calls state) :=
  List.foldl_append

/-! ## The first call of a run -/

@[simp] theorem run_done (handler : Handler σ) (value : α) (state : σ) :
    (done value).run handler state = ⟨.ok value, [], [], state⟩ := rfl

@[simp] theorem run_fail (handler : Handler σ) (e : PackError) (state : σ) :
    (fail e : Action α).run handler state = ⟨.error e, [], [], state⟩ := rfl

theorem exchanges_ask {handler : Handler σ} {c : Call} {state state' : σ}
    {answer : Except IoError c.Reply} (h : handler c state = (answer, state'))
    (next : Except IoError c.Reply → Action α) :
    (ask c next).exchanges handler state
      = ⟨c, answer⟩ :: (next answer).exchanges handler state' := by
  simp only [exchanges, h]

theorem run_ask {handler : Handler σ} {c : Call} {state state' : σ}
    {answer : Except IoError c.Reply} (h : handler c state = (answer, state'))
    (next : Except IoError c.Reply → Action α) :
    (ask c next).run handler state = { (next answer).run handler state' with
      calls := c :: ((next answer).run handler state').calls } := by
  simp only [run, h]

theorem run_call_ok {handler : Handler σ} {c : Call} {state state' : σ} {reply : c.Reply}
    (h : handler c state = (.ok reply, state')) :
    (call c).run handler state = ⟨.ok reply, [c], [], state'⟩ := run_ask h _

theorem run_call_error {handler : Handler σ} {c : Call} {state state' : σ} {e : IoError}
    (h : handler c state = (.error e, state')) :
    (call c).run handler state = ⟨.error (.io e), [c], [], state'⟩ := run_ask h _

theorem run_call_bind_ok {handler : Handler σ} {c : Call} {state state' : σ} {reply : c.Reply}
    (h : handler c state = (.ok reply, state')) (second : c.Reply → Action α) :
    (call c >>= second).run handler state = { (second reply).run handler state' with
      calls := c :: ((second reply).run handler state').calls } := run_ask h _

theorem run_call_bind_error {handler : Handler σ} {c : Call} {state state' : σ} {e : IoError}
    (h : handler c state = (.error e, state')) (second : c.Reply → Action α) :
    (call c >>= second).run handler state = ⟨.error (.io e), [c], [], state'⟩ := run_ask h _

/-- An exchange of a run that starts with a call is that call, or an exchange of what comes after
its answer. -/
theorem exchanges_ask_eq_append {handler : Handler σ} {c : Call}
    {next : Except IoError c.Reply → Action α} {state : σ} {before rest : List Exchange}
    {x : Exchange} (hx : (ask c next).exchanges handler state = before ++ x :: rest) :
    (before = [] ∧ x = ⟨c, (handler c state).1⟩
        ∧ (next (handler c state).1).exchanges handler (handler c state).2 = rest)
      ∨ ∃ before', before = ⟨c, (handler c state).1⟩ :: before'
        ∧ (next (handler c state).1).exchanges handler (handler c state).2
          = before' ++ x :: rest := by
  rw [exchanges_ask rfl, List.cons_eq_append_iff] at hx
  rcases hx with ⟨rfl, hx⟩ | ⟨before', rfl, hx⟩
  · obtain ⟨rfl, hrest⟩ := List.cons.inj hx
    exact .inl ⟨rfl, rfl, hrest.symm⟩
  · exact .inr ⟨before', rfl, hx⟩

/-! ## Calls, answers and states -/

theorem map_call_exchanges (handler : Handler σ) (action : Action α) (state : σ) :
    (action.exchanges handler state).map (·.call) = (action.run handler state).calls := by
  induction action generalizing state with
  | done value => rfl
  | fail e => rfl
  | note event next ih => exact ih state
  | ask c next ih => rw [exchanges_ask rfl, run_ask rfl, List.map_cons, ih]

/-- The state that a run leaves is the one that its calls lead to. -/
theorem state_run (handler : Handler σ) (action : Action α) (state : σ) :
    (action.run handler state).state
      = after handler (action.run handler state).calls state := by
  induction action generalizing state with
  | done value => rfl
  | fail e => rfl
  | note event next ih => exact ih state
  | ask c next ih =>
    rw [run_ask rfl, after_cons]
    exact ih _ _

/-- Every answer is the storage's, at the state that the calls before it lead to. -/
theorem answer_of_exchanges {handler : Handler σ} {action : Action α} {state : σ}
    {before rest : List Exchange} {x : Exchange}
    (hx : action.exchanges handler state = before ++ x :: rest) :
    x.answer = (handler x.call (after handler (before.map (·.call)) state)).1 := by
  induction action generalizing state before with
  | done value => simp [exchanges] at hx
  | fail e => simp [exchanges] at hx
  | note event next ih => exact ih hx
  | ask c next ih =>
    rcases exchanges_ask_eq_append hx with ⟨rfl, rfl, -⟩ | ⟨before', rfl, hnext⟩
    · rfl
    · rw [List.map_cons, after_cons]
      exact ih _ hnext

/-! ## One action after another -/

/-- The second action is run only if the first one ends well, from the state that it leaves. -/
theorem exchanges_bind (handler : Handler σ) (first : Action α) (second : α → Action β)
    (state : σ) :
    (first >>= second).exchanges handler state
      = first.exchanges handler state ++ match (first.run handler state).result with
        | .ok value => (second value).exchanges handler (first.run handler state).state
        | .error _ => [] := by
  induction first generalizing state with
  | done value => rfl
  | fail e => rfl
  | note event next ih => exact ih state
  | ask c next ih =>
    rw [ask_bind, exchanges_ask rfl, exchanges_ask rfl, run_ask rfl, ih]
    rfl

/-- What a run of two actions makes, asks for and reports, when the first one ends well. -/
theorem run_bind_of_ok {handler : Handler σ} {first : Action α} {second : α → Action β}
    {state state' : σ} {value : α} {calls : List Call} {events : List Log.Event}
    (h : first.run handler state = ⟨.ok value, calls, events, state'⟩) :
    (first >>= second).run handler state = { (second value).run handler state' with
      calls := calls ++ ((second value).run handler state').calls
      events := events ++ ((second value).run handler state').events } := by
  induction first generalizing state calls events with
  | done other =>
    cases h
    rfl
  | fail e => cases h
  | note event next ih =>
    simp only [run, Run.mk.injEq] at h
    obtain ⟨hresult, rfl, rfl, rfl⟩ := h
    rw [note_bind, run, ih (by rw [← hresult])]
    rfl
  | ask c next ih =>
    simp only [run, Run.mk.injEq] at h
    obtain ⟨hresult, rfl, rfl, rfl⟩ := h
    rw [ask_bind, run_ask rfl, ih _ (by rw [← hresult])]
    rfl

/-- A run of two actions ends with the first one, when that one ends with an error. -/
theorem run_bind_of_error {handler : Handler σ} {first : Action α} {second : α → Action β}
    {state state' : σ} {e : PackError} {calls : List Call} {events : List Log.Event}
    (h : first.run handler state = ⟨.error e, calls, events, state'⟩) :
    (first >>= second).run handler state = ⟨.error e, calls, events, state'⟩ := by
  induction first generalizing state calls events with
  | done value => cases h
  | fail other =>
    cases h
    rfl
  | note event next ih =>
    simp only [run, Run.mk.injEq] at h
    obtain ⟨hresult, rfl, rfl, rfl⟩ := h
    rw [note_bind, run, ih (by rw [← hresult])]
  | ask c next ih =>
    simp only [run, Run.mk.injEq] at h
    obtain ⟨hresult, rfl, rfl, rfl⟩ := h
    rw [ask_bind, run_ask rfl, ih _ (by rw [← hresult])]

end Action
end ToolPack
