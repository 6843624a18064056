import ToolPack.Proofs.Storage.FirstFault
import ToolPack.Storage.Memory

/-!
# What calls do to the contents of a storage

A storage in memory is known by one observation, the bytes under a path.  A call touches the bytes
under one path at most, no call takes a file away, and a call that fails on purpose touches
nothing at all.

## What is here

* `Call.written?`, `Exchange.written?`: the path that a call is to put bytes under, and the path
  that an exchange has put bytes under;
* `Memory.handler_cases`: what a call does to the files; all else follows from it, that other files
  keep their bytes (`get?_handler_of_ne`) and that no file goes away (`isSome_get?_after`);
* `Call.marked?`, `Memory.mem_executable_after`: the paths that calls make executable;
* calls that fail on purpose: `failing_ok` and `storage_failing`;
* `LooksOnly`: storages on which looking changes nothing, and what calls that only look leave.
-/

set_option autoImplicit false

namespace ToolPack

open Storage

/-- The path whose bytes a call puts in place. -/
def Storage.Call.written? : Call → Option Path
  | .write path _ => some path
  | .copy _ target => some target
  | .size _ | .read _ | .makeDirs _ | .markExecutable _ => none

/-- The path that a call makes executable. -/
def Storage.Call.marked? : Call → Option Path
  | .markExecutable path => some path
  | .size _ | .read _ | .write .. | .makeDirs _ | .copy .. => none

/-- The path that an exchange has put bytes under; a call that failed has put none. -/
def Action.Exchange.written? (x : Action.Exchange) : Option Path :=
  match x.answer with
  | .ok _ => x.call.written?
  | .error _ => none

namespace Storage

open ToolPack.Action

theorem Call.changes_eq_false_iff {c : Call} :
    c.changes = false ↔ ∃ path, c = .size path ∨ c = .read path := by
  cases c <;> simp [changes]

theorem Call.written?_of_not_changes {c : Call} (h : c.changes = false) : c.written? = none := by
  obtain ⟨path, rfl | rfl⟩ := changes_eq_false_iff.mp h
  · rfl
  · rfl

namespace Memory

@[simp] theorem get?_mark (m : Memory) (path other : Path) :
    (m.mark path).get? other = m.get? other := by
  rw [mark]
  split <;> rfl

theorem get?_set_self (m : Memory) (path : Path) (data : ByteArray) :
    (m.set path data).get? path = some data := by
  rw [get?_set, if_pos rfl]

theorem get?_set_of_ne (m : Memory) {path other : Path} (h : other ≠ path) (data : ByteArray) :
    (m.set path data).get? other = m.get? other := by
  rw [get?_set, if_neg h]

/-! ## One call -/

/-- A copy puts the bytes of its source in place, if there are some. -/
theorem handler_copy_ok {m : Memory} {source target : Path} {data : ByteArray}
    (h : m.get? source = some data) :
    handler (.copy source target) m = (.ok data.size, m.set target data) := by
  simp only [handler, h]

theorem handler_copy_error {m : Memory} {source target : Path} (h : m.get? source = none) :
    handler (.copy source target) m = (.error (notFound source), m) := by
  simp only [handler, h]

/-- A copy tells the size of its source. -/
theorem answer_copy_eq_ok_iff {m : Memory} {source target : Path} {size : Nat} :
    (handler (.copy source target) m).1 = .ok size
      ↔ ∃ data, m.get? source = some data ∧ size = data.size := by
  cases hdata : m.get? source with
  | none => simp [handler_copy_error hdata]
  | some data => simp [handler_copy_ok hdata, eq_comm]

/-- Reading gives the bytes under a path. -/
theorem answer_read_eq_ok_iff {m : Memory} {path : Path} {data : ByteArray} :
    (handler (.read path) m).1 = .ok data ↔ m.get? path = some data := by
  cases hdata : m.get? path with
  | none => simp [handler, hdata]
  | some found => simp [handler, hdata]

/-- What a call does to the files: it leaves them all, or it puts bytes under one path, those that
it carries or those of its source. -/
theorem handler_cases (c : Call) (m : Memory) :
    (Exchange.written? ⟨c, (handler c m).1⟩ = none
        ∧ ∀ path, (handler c m).2.get? path = m.get? path)
      ∨ ∃ path data, Exchange.written? ⟨c, (handler c m).1⟩ = some path
        ∧ (handler c m).2 = m.set path data
        ∧ (c = .write path data ∨ ∃ source, c = .copy source path ∧ m.get? source = some data) := by
  cases c with
  | size path => exact .inl ⟨rfl, fun _ => rfl⟩
  | read path =>
    cases hdata : m.get? path with
    | none => exact .inl ⟨by simp [Exchange.written?, handler, hdata], by simp [handler, hdata]⟩
    | some data =>
      exact .inl ⟨by simp [Exchange.written?, Call.written?, handler, hdata],
        by simp [handler, hdata]⟩
  | write path data => exact .inr ⟨path, data, rfl, rfl, .inl rfl⟩
  | makeDirs path => exact .inl ⟨rfl, fun _ => rfl⟩
  | copy source target =>
    cases hdata : m.get? source with
    | none =>
      rw [handler_copy_error hdata]
      exact .inl ⟨rfl, fun _ => rfl⟩
    | some data =>
      rw [handler_copy_ok hdata]
      exact .inr ⟨target, data, rfl, rfl, .inr ⟨source, rfl, hdata⟩⟩
  | markExecutable path => exact .inl ⟨rfl, get?_mark m path⟩

/-- The bytes under a path stay unless an exchange has put others in place. -/
theorem get?_handler_of_not_written {c : Call} {m : Memory} {path : Path}
    (h : Exchange.written? ⟨c, (handler c m).1⟩ ≠ some path) :
    (handler c m).2.get? path = m.get? path := by
  rcases handler_cases c m with ⟨-, hsame⟩ | ⟨other, data, hwritten, hstate, -⟩
  · exact hsame path
  · have hne : path ≠ other := fun he => h (hwritten.trans (congrArg some he.symm))
    rw [hstate]
    exact get?_set_of_ne m hne data

theorem get?_handler_of_ne {c : Call} {path : Path} (h : c.written? ≠ some path) (m : Memory) :
    (handler c m).2.get? path = m.get? path := by
  refine get?_handler_of_not_written fun hwritten => h ?_
  rw [Exchange.written?] at hwritten
  split at hwritten
  · exact hwritten
  · cases hwritten

/-- What an exchange has put bytes under is there. -/
theorem isSome_get?_of_written {c : Call} {m : Memory} {path : Path}
    (h : Exchange.written? ⟨c, (handler c m).1⟩ = some path) :
    ((handler c m).2.get? path).isSome := by
  rcases handler_cases c m with ⟨hnone, -⟩ | ⟨other, data, hwritten, hstate, -⟩
  · rw [hnone] at h
    cases h
  · obtain rfl := Option.some.inj (hwritten.symm.trans h)
    rw [hstate, get?_set_self]
    rfl

/-- No call takes a file away. -/
theorem isSome_get?_handler {m : Memory} {path : Path} (h : (m.get? path).isSome) (c : Call) :
    ((handler c m).2.get? path).isSome := by
  by_cases hwritten : Exchange.written? ⟨c, (handler c m).1⟩ = some path
  · exact isSome_get?_of_written hwritten
  · rw [get?_handler_of_not_written hwritten]
    exact h

/-- Copying a file onto itself leaves every file as it is. -/
theorem get?_handler_copy_self (m : Memory) (path other : Path) :
    (handler (.copy path path) m).2.get? other = m.get? other := by
  cases hdata : m.get? path with
  | none => rw [handler_copy_error hdata]
  | some data =>
    rw [handler_copy_ok hdata, get?_set]
    split
    · rename_i he
      rw [he, hdata]
    · rfl

/-- A path is executable once it has been marked, and stays so. -/
theorem mem_executable_mark {m : Memory} {path other : Path} :
    other ∈ (m.mark path).executable ↔ other ∈ m.executable ∨ other = path := by
  rw [mark]
  split
  · rename_i h
    have hpath : path ∈ m.executable := by simpa using h
    exact ⟨.inl, fun h => h.elim id fun he => he ▸ hpath⟩
  · simp

theorem mem_executable_handler {c : Call} {m : Memory} {path : Path} :
    path ∈ (handler c m).2.executable ↔ path ∈ m.executable ∨ c.marked? = some path := by
  cases c with
  | read other => cases hdata : m.get? other <;> simp [handler, hdata, Call.marked?]
  | copy source target =>
    cases hdata : m.get? source with
    | none => simp [handler_copy_error hdata, Call.marked?]
    | some data => simp [handler_copy_ok hdata, Call.marked?, set]
  | markExecutable other =>
    rw [handler, mem_executable_mark, Call.marked?, Option.some.injEq, eq_comm]
  | _ => simp [handler, Call.marked?, set]

theorem handler_of_not_changes {c : Call} (h : c.changes = false) (m : Memory) :
    (handler c m).2 = m := by
  cases c with
  | size path => rfl
  | read path =>
    simp only [handler]
    split <;> rfl
  | _ => cases h

/-! ## Many calls -/

theorem isSome_get?_after {m : Memory} {path : Path} (h : (m.get? path).isSome)
    (calls : List Call) : ((after handler calls m).get? path).isSome := by
  induction calls generalizing m with
  | nil => exact h
  | cons c calls ih => exact ih (isSome_get?_handler h c)

theorem get?_after_of_not_mem {calls : List Call} {path : Path}
    (h : ∀ c ∈ calls, c.written? ≠ some path) (m : Memory) :
    (after handler calls m).get? path = m.get? path := by
  induction calls generalizing m with
  | nil => rfl
  | cons c calls ih =>
    rw [after_cons, ih fun d hd => h d (List.mem_cons_of_mem c hd),
      get?_handler_of_ne (h c List.mem_cons_self)]

/-- What is written stays, if nothing else is put in its place. -/
theorem get?_after_write {calls : List Call} {path : Path} (before : List Call) (data : ByteArray)
    (h : ∀ c ∈ calls, c.written? ≠ some path) (m : Memory) :
    (after handler (before ++ .write path data :: calls) m).get? path = some data := by
  rw [after_append, after_cons, get?_after_of_not_mem h]
  exact get?_set_self _ path data

theorem mem_executable_after {calls : List Call} {m : Memory} {path : Path} :
    path ∈ (after handler calls m).executable
      ↔ path ∈ m.executable ∨ path ∈ calls.filterMap Call.marked? := by
  induction calls generalizing m with
  | nil => simp
  | cons c calls ih =>
    rw [after_cons, ih, mem_executable_handler]
    cases hc : c.marked? with
    | none => simp [List.filterMap_cons_none hc]
    | some other => simp [List.filterMap_cons_some hc, or_assoc, eq_comm]

/-- What is written last under a path is one of the texts that are written at all. -/
theorem get?_after_of_writes {P : ByteArray → Prop} {calls : List Call}
    (hwrites : ∀ c ∈ calls, c.changes = false ∨ ∃ path data, c = .write path data ∧ P data)
    {path : Path} (hpath : ∃ c ∈ calls, c.written? = some path) (m : Memory) :
    ∃ data, P data ∧ (after handler calls m).get? path = some data := by
  induction calls generalizing m with
  | nil => exact absurd hpath (by simp)
  | cons c calls ih =>
    obtain ⟨hc, hcalls⟩ := List.forall_mem_cons.mp hwrites
    by_cases hlater : ∃ d ∈ calls, d.written? = some path
    · exact ih hcalls hlater _
    · have hlast : ∀ d ∈ calls, d.written? ≠ some path := fun d hd hd' => hlater ⟨d, hd, hd'⟩
      obtain ⟨d, hd, hdpath⟩ := hpath
      rcases List.mem_cons.mp hd with rfl | hd
      · rcases hc with hquiet | ⟨other, data, rfl, hdata⟩
        · rw [Call.written?_of_not_changes hquiet] at hdpath
          cases hdpath
        · obtain rfl := Option.some.inj hdpath
          refine ⟨data, hdata, ?_⟩
          rw [after_cons, get?_after_of_not_mem hlast]
          exact get?_set_self m other data
      · exact absurd hdpath (hlast d hd)

end Memory

/-! ## Calls that fail on purpose -/

variable {σ α : Type}

/-- A call that is answered well was not made to fail: it did what it does. -/
theorem failing_ok {schedule : Schedule} {handler : Handler σ} {c : Call} {w : Watched σ}
    {reply : c.Reply} (h : (failing schedule handler c w).1 = .ok reply) :
    (handler c w.storage).1 = .ok reply
      ∧ (failing schedule handler c w).2.storage = (handler c w.storage).2 := by
  rw [failing] at h ⊢
  split at h
  · cases h
  · exact ⟨h, rfl⟩

/-- A call did what it does, or nothing. -/
theorem storage_failing (schedule : Schedule) (handler : Handler σ) (c : Call) (w : Watched σ) :
    (failing schedule handler c w).2.storage = (handler c w.storage).2
      ∨ (failing schedule handler c w).2.storage = w.storage := by
  rw [failing]
  split
  · exact .inr rfl
  · exact .inl rfl

/-- A storage on which the calls that only look change nothing. -/
def LooksOnly (handler : Handler σ) : Prop :=
  ∀ c state, c.changes = false → (handler c state).2 = state

theorem looksOnly_memory : LooksOnly Memory.handler := fun _ m h =>
  Memory.handler_of_not_changes h m

/-- Calls that only look leave such a storage as it is. -/
theorem LooksOnly.state_after {handler : Handler σ} (h : LooksOnly handler) {calls : List Call}
    (hcalls : ∀ c ∈ calls, c.changes = false) (state : σ) : after handler calls state = state := by
  induction calls with
  | nil => rfl
  | cons c calls ih =>
    obtain ⟨hc, hlater⟩ := List.forall_mem_cons.mp hcalls
    rw [after_cons, h c state hc, ih hlater]

/-- While nothing has changed, every answer is about the storage at the start. -/
theorem LooksOnly.answer_eq {handler : Handler σ} (h : LooksOnly handler) {action : Action α}
    {state : σ} {done rest : List Exchange} (hx : action.exchanges handler state = done ++ rest)
    (hquiet : ∀ x ∈ done, x.call.changes = false) {x : Exchange} (hmem : x ∈ done) :
    x.answer = (handler x.call state).1 := by
  obtain ⟨before, behind, rfl⟩ := List.append_of_mem hmem
  rw [List.append_assoc, List.cons_append] at hx
  rw [answer_of_exchanges hx, h.state_after]
  intro c hc
  obtain ⟨y, hy, rfl⟩ := List.mem_map.mp hc
  exact hquiet y (List.mem_append_left _ hy)

/-- So they do when some of them fail. -/
theorem LooksOnly.storage_after {handler : Handler σ} (h : LooksOnly handler)
    {schedule : Schedule} {calls : List Call} (hcalls : ∀ c ∈ calls, c.changes = false)
    (w : Watched σ) : (after (failing schedule handler) calls w).storage = w.storage := by
  induction calls generalizing w with
  | nil => rfl
  | cons c calls ih =>
    obtain ⟨hc, hlater⟩ := List.forall_mem_cons.mp hcalls
    rw [after_cons, ih hlater]
    rcases storage_failing schedule handler c w with hdone | hnothing
    · rw [hdone, h c w.storage hc]
    · exact hnothing

theorem Memory.storage_after_of_not_changes {schedule : Schedule} {calls : List Call}
    (h : ∀ c ∈ calls, c.changes = false) (w : Watched Memory) :
    (after (failing schedule Memory.handler) calls w).storage = w.storage :=
  looksOnly_memory.storage_after h w

/-- While nothing has changed, what calls are answered with is about the storage at the start. -/
theorem Memory.ok_of_not_changes {schedule : Schedule} {action : Action α} {m : Memory}
    {done rest : List Exchange}
    (hx : action.exchanges (failing schedule Memory.handler) ⟨m, []⟩ = done ++ rest)
    (hquiet : ∀ x ∈ done, x.call.changes = false) {c : Call} {reply : c.Reply}
    (hc : ⟨c, .ok reply⟩ ∈ done) : (Memory.handler c m).1 = .ok reply := by
  obtain ⟨before, after', rfl⟩ := List.append_of_mem hc
  rw [List.append_assoc, List.cons_append] at hx
  have hanswer := answer_of_exchanges hx
  have hbefore : ∀ d ∈ before.map (·.call), d.changes = false := by
    intro d hd
    obtain ⟨x, hxmem, rfl⟩ := List.mem_map.mp hd
    exact hquiet x (List.mem_append_left _ hxmem)
  have hok := (failing_ok hanswer.symm).1
  rwa [storage_after_of_not_changes hbefore] at hok

end Storage
end ToolPack
