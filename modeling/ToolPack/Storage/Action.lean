import ToolPack.Log.Event
import ToolPack.Storage.Call

/-!
# Actions over a storage

An action is what a run wants to do, without a storage to do it on: it ends with a value, ends
with an error, reports an event and goes on, or asks for a call and goes on with the answer.  The
answer may be that the call failed, and it is up to the action what to do then.
Actions are data, so one action can be run on a tree of files, on a map in memory, with calls that
are made to fail, or on the files of a computer, and statements about runs are statements about
the tree of answers.

## What is here

* `Action` and its monad: the second action starts where the first one ends well;
* `Action.attempt`, `Action.call`, `Action.report`: single steps.  `attempt` gives the answer of a
  call, whatever it is; `call` gives the reply, and ends with the error of a call that failed;
* `Action.run`: an action on a storage that is a state.
-/

set_option autoImplicit false

namespace ToolPack

open Storage

/-- Something to do that ends with an `α` or with an error. -/
inductive Action (α : Type) where
  | done (value : α)
  | fail (e : PackError)
  | note (event : Log.Event) (next : Action α)
  /-- What comes next depends on the answer, which is a reply or the error of the call. -/
  | ask (c : Call) (next : Except IoError c.Reply → Action α)

namespace Action

variable {α β σ : Type}

/-- The second action takes the value that the first one ends with. -/
def andThen (first : Action α) (second : α → Action β) : Action β :=
  match first with
  | done value => second value
  | fail e => fail e
  | note event next => note event (next.andThen second)
  | ask c next => ask c fun answer => (next answer).andThen second

instance : Monad Action where
  pure := done
  bind := andThen

/-- Asks for a call, and gives its answer. -/
def attempt (c : Call) : Action (Except IoError c.Reply) := ask c done

/-- What an answer gives: the reply, or an end with the error. -/
def ofAnswer : Except IoError α → Action α
  | .ok reply => done reply
  | .error e => fail (.io e)

/-- Asks for a call that is to succeed. -/
def call (c : Call) : Action c.Reply := do
  ofAnswer (← attempt c)

/-- Reports an event. -/
def report (level : Log.Level) (part : Log.Part) (message : String) : Action Unit :=
  note ⟨level, part, message⟩ (done ())

/-! ## Running -/

/-- A storage that is a state: every call has an answer and leaves a state. -/
abbrev Handler (σ : Type) := (c : Call) → σ → Except IoError c.Reply × σ

/-- What a run leaves: how it ended, the calls it made and the events it reported, both in order,
and the state of the storage. -/
structure Run (σ α : Type) where
  result : Except PackError α
  calls : List Call
  events : List Log.Event
  state : σ

/-- Runs an action.  The action is told of every answer, also of a call that failed. -/
def run (handler : Handler σ) (action : Action α) (state : σ) : Run σ α :=
  match action with
  | done value => ⟨.ok value, [], [], state⟩
  | fail e => ⟨.error e, [], [], state⟩
  | note event next =>
    let rest := next.run handler state
    { rest with events := event :: rest.events }
  | ask c next =>
    let (answer, state) := handler c state
    let rest := (next answer).run handler state
    { rest with calls := c :: rest.calls }

/-! ## Laws -/

@[simp] theorem done_bind (value : α) (second : α → Action β) :
    (done value >>= second) = second value := rfl

@[simp] theorem fail_bind (e : PackError) (second : α → Action β) :
    (fail e >>= second) = fail e := rfl

@[simp] theorem note_bind (event : Log.Event) (next : Action α) (second : α → Action β) :
    (note event next >>= second) = note event (next >>= second) := rfl

@[simp] theorem ask_bind (c : Call) (next : Except IoError c.Reply → Action α)
    (second : α → Action β) :
    (ask c next >>= second) = ask c fun answer => next answer >>= second := rfl

theorem andThen_done (action : Action α) : action.andThen done = action := by
  induction action with
  | done value => rfl
  | fail e => rfl
  | note event next ih => simp only [andThen, ih]
  | ask c next ih =>
    simp only [andThen]
    congr
    funext answer
    exact ih answer

theorem andThen_assoc {γ : Type} (action : Action α) (f : α → Action β) (g : β → Action γ) :
    (action.andThen f).andThen g = action.andThen fun x => (f x).andThen g := by
  induction action with
  | done value => rfl
  | fail e => rfl
  | note event next ih => simp only [andThen, ih]
  | ask c next ih =>
    simp only [andThen]
    congr
    funext answer
    exact ih answer

instance : LawfulMonad Action :=
  LawfulMonad.mk' Action (fun action => andThen_done action) (fun _ _ => rfl) andThen_assoc

end Action
end ToolPack
