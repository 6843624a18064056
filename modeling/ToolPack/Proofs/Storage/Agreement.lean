import ToolPack.Proofs.Storage.Contents
import ToolPack.Proofs.Storage.Ensures

/-!
# Two storages that agree on what is read

An action that reads only paths whose bytes are known, because they were given at the start or
because the action itself has put them in place, cannot tell two storages apart that agree on the
given ones.  Its runs on both go hand in hand, and the storages keep agreeing on everything known;
what is known grows with every write and with every copy.

## What is here

* `Call.read?`: the path that a call reads;
* `Known`: the paths given, and those written so far;
* `Memory.Agree` and how a call keeps it (`agree_handler`);
* what is known is there (`isSome_get?_of_known`), and a call that reads it does not fail
  (`answer_ok`);
* `Ensures.agree`: the runs of an action that reads known paths only.
-/

set_option autoImplicit false

namespace ToolPack
namespace Storage

open ToolPack.Action

/-- The path whose bytes a call needs for its answer or its effect. -/
def Call.read? : Call → Option Path
  | .size path | .read path | .copy path _ => some path
  | .write .. | .makeDirs _ | .markExecutable _ => none

/-- The paths whose bytes are known: those given, and those written so far. -/
def Known (given : List Path) (past : List Exchange) (path : Path) : Prop :=
  path ∈ given ∨ ∃ x ∈ past, x.written? = some path

theorem known_concat {given : List Path} {past : List Exchange} {x : Exchange} {path : Path} :
    Known given (past ++ [x]) path ↔ Known given past path ∨ x.written? = some path := by
  simp only [Known, List.mem_append, List.mem_singleton, or_and_right, exists_or,
    exists_eq_left, or_assoc]

namespace Memory

/-- Two storages hold the same bytes, or none, under the paths of a kind. -/
def Agree (kind : Path → Prop) (m₁ m₂ : Memory) : Prop :=
  ∀ path, kind path → m₁.get? path = m₂.get? path

/-! ## One call -/

/-- What a call is answered with depends on the bytes that it reads. -/
theorem answer_eq {c : Call} {m₁ m₂ : Memory}
    (h : ∀ path, c.read? = some path → m₁.get? path = m₂.get? path) :
    (handler c m₁).1 = (handler c m₂).1 := by
  cases c with
  | size path => simp only [handler, h path rfl]
  | read path =>
    simp only [handler, h path rfl]
    cases m₂.get? path <;> rfl
  | write path data => rfl
  | makeDirs path => rfl
  | copy source target =>
    simp only [handler, h source rfl]
    cases m₂.get? source <;> rfl
  | markExecutable path => rfl

/-- What a call puts in place depends on the bytes that it reads. -/
theorem get?_handler_eq {c : Call} {m₁ m₂ : Memory} {path : Path}
    (h : ∀ path, c.read? = some path → m₁.get? path = m₂.get? path)
    (hpath : Exchange.written? ⟨c, (handler c m₁).1⟩ = some path) :
    (handler c m₁).2.get? path = (handler c m₂).2.get? path := by
  rcases handler_cases c m₁ with ⟨hnone, -⟩ | ⟨other, data, hwritten, hstate, hc⟩
  · rw [hnone] at hpath
    cases hpath
  · obtain rfl := Option.some.inj (hwritten.symm.trans hpath)
    rw [hstate, get?_set_self]
    rcases hc with rfl | ⟨source, rfl, hdata⟩
    · exact (get?_set_self m₂ other data).symm
    · rw [handler_copy_ok ((h source rfl).symm.trans hdata)]
      exact (get?_set_self m₂ other data).symm

/-- A call that reads only what is there does not fail. -/
theorem answer_ok {c : Call} {m : Memory}
    (h : ∀ path, c.read? = some path → (m.get? path).isSome) :
    ∃ reply, (handler c m).1 = .ok reply := by
  cases c with
  | read path =>
    obtain ⟨data, hdata⟩ := Option.isSome_iff_exists.mp (h path rfl)
    exact ⟨data, by simp only [handler, hdata]⟩
  | copy source target =>
    obtain ⟨data, hdata⟩ := Option.isSome_iff_exists.mp (h source rfl)
    exact ⟨data.size, by rw [handler_copy_ok hdata]⟩
  | _ => exact ⟨_, rfl⟩

/-- A call that reads a known path keeps the agreement on all that is known. -/
theorem agree_handler {given : List Path} {past : List Exchange} {c : Call} {m₁ m₂ : Memory}
    (hread : ∀ path, c.read? = some path → Known given past path)
    (h : Agree (Known given past) m₁ m₂) :
    Agree (Known given (past ++ [⟨c, (handler c m₁).1⟩])) (handler c m₁).2 (handler c m₂).2 := by
  have hreads : ∀ path, c.read? = some path → m₁.get? path = m₂.get? path :=
    fun path hpath => h path (hread path hpath)
  intro path hknown
  by_cases hpath : Exchange.written? ⟨c, (handler c m₁).1⟩ = some path
  · exact get?_handler_eq hreads hpath
  · have hpath₂ := hpath
    rw [answer_eq hreads] at hpath₂
    rw [get?_handler_of_not_written hpath, get?_handler_of_not_written hpath₂]
    rcases known_concat.mp hknown with hold | hnew
    · exact h path hold
    · exact absurd hnew hpath

end Memory
end Storage

/-! ## Runs -/

namespace Action

open Storage Memory

variable {α : Type} {asks : List Exchange → Call → Prop}
  {ends : List Exchange → Except PackError α → Prop}

/-- Under a known path there are bytes, at every moment of a run. -/
theorem isSome_get?_of_known {given : List Path} {action : Action α} {m : Memory}
    {before rest : List Exchange} {path : Path} (h : ∀ path ∈ given, (m.get? path).isSome)
    (hx : action.exchanges handler m = before ++ rest) (hknown : Known given before path) :
    ((after handler (before.map (·.call)) m).get? path).isSome := by
  rcases hknown with hgiven | ⟨x, hmem, hwritten⟩
  · exact isSome_get?_after (h path hgiven) _
  · obtain ⟨front, more, rfl⟩ := List.append_of_mem hmem
    rw [List.append_assoc, List.cons_append] at hx
    obtain ⟨c, answer⟩ := x
    have hanswer : answer = (handler c (after handler (front.map (·.call)) m)).1 :=
      answer_of_exchanges hx
    rw [hanswer] at hwritten
    rw [List.map_append, List.map_cons, after_append, after_cons]
    exact isSome_get?_after (isSome_get?_of_written hwritten) _

/-- Two storages that agree on what is known are answered for alike, call by call, and agree on
what is known at every moment of the run. -/
theorem Ensures.agree {given : List Path} {past : List Exchange} {action : Action α}
    {m₁ m₂ : Memory} (h : action.Ensures asks ends past) (hstops : action.StopsOnFailure)
    (hread : ∀ past c path, asks past c → c.read? = some path → Known given past path)
    (hagree : Agree (Known given past) m₁ m₂) :
    let ran₁ := action.run handler m₁
    let ran₂ := action.run handler m₂
    action.exchanges handler m₁ = action.exchanges handler m₂
      ∧ ran₁.result = ran₂.result ∧ ran₁.events = ran₂.events
      ∧ ∀ before rest, action.exchanges handler m₁ = before ++ rest →
        Agree (Known given (past ++ before)) (after handler (before.map (·.call)) m₁)
          (after handler (before.map (·.call)) m₂) := by
  induction action generalizing past m₁ m₂ with
  | done value =>
    refine ⟨rfl, rfl, rfl, fun before rest hsplit => ?_⟩
    obtain ⟨rfl, -⟩ := List.append_eq_nil_iff.mp hsplit.symm
    rwa [List.append_nil]
  | fail e =>
    refine ⟨rfl, rfl, rfl, fun before rest hsplit => ?_⟩
    obtain ⟨rfl, -⟩ := List.append_eq_nil_iff.mp hsplit.symm
    rwa [List.append_nil]
  | note event next ih =>
    obtain ⟨hexchanges, hresult, hevents, hmoments⟩ := ih h hstops hagree
    exact ⟨hexchanges, hresult, congrArg (event :: ·) hevents, hmoments⟩
  | ask c next ih =>
    have hreads : ∀ path, c.read? = some path → Known given past path :=
      fun path hpath => hread past c path h.1 hpath
    have hstep := agree_handler hreads hagree
    have hanswer : (handler c m₁).1 = (handler c m₂).1 :=
      answer_eq fun path hpath => hagree path (hreads path hpath)
    rcases h₁ : handler c m₁ with ⟨answer, m₁'⟩
    rcases h₂ : handler c m₂ with ⟨answer₂, m₂'⟩
    rw [h₁, h₂] at hstep hanswer
    subst hanswer
    cases answer with
    | error e =>
      rw [hstops.exchanges_of_error h₁, hstops.exchanges_of_error h₂, hstops.run_of_error h₁,
        hstops.run_of_error h₂]
      refine ⟨rfl, rfl, rfl, fun before rest hsplit => ?_⟩
      cases before with
      | nil => rwa [List.append_nil]
      | cons x before =>
        obtain ⟨rfl, hnil⟩ := List.cons.inj hsplit
        obtain ⟨rfl, -⟩ := List.append_eq_nil_iff.mp hnil.symm
        simpa only [List.map_cons, List.map_nil, after_cons, after_nil, h₁, h₂] using hstep
    | ok reply =>
      rw [exchanges_ask h₁, exchanges_ask h₂, run_ask h₁, run_ask h₂]
      obtain ⟨hexchanges, hresult, hevents, hmoments⟩ :=
        ih _ (h.2 reply) (hstops.2 reply) hstep
      refine ⟨congrArg (_ :: ·) hexchanges, hresult, hevents, fun before rest hsplit => ?_⟩
      cases before with
      | nil => rwa [List.append_nil]
      | cons x before =>
        obtain ⟨rfl, hrest⟩ := List.cons.inj hsplit
        have hmoment := hmoments before rest hrest
        rw [List.append_cons]
        simpa only [List.map_cons, after_cons, h₁, h₂] using hmoment

end Action
end ToolPack
