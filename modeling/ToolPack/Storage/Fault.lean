import ToolPack.Storage.Action

/-!
# Calls that are made to fail

To see what a run does when its storage fails, some of the calls are made to fail.  Which ones is
a function of the calls so far: a schedule.  A call that fails has no effect.

## What is here

* `Schedule`: which calls fail, and how;
* `Storage.failing`: a storage with a schedule; its state remembers the calls so far;
* `Fault`: the failure of the n-th call of a kind, and the schedule of a list of faults.
-/

set_option autoImplicit false

namespace ToolPack
namespace Storage

/-- The error that a call fails with after the calls so far, if it fails. -/
abbrev Schedule := List Call → Call → Option IoError

/-- A storage and the calls that it has been asked for, failed ones among them. -/
structure Watched (σ : Type) where
  storage : σ
  calls : List Call

/-- A storage some of whose calls fail. -/
def failing {σ : Type} (schedule : Schedule) (handler : Action.Handler σ) :
    Action.Handler (Watched σ) := fun c w =>
  match schedule w.calls c with
  | some e => (.error e, { w with calls := w.calls ++ [c] })
  | none =>
    let (reply, storage) := handler c w.storage
    (reply, ⟨storage, w.calls ++ [c]⟩)

/-- The failure of the `nth` call of a method, about one path or about any. -/
structure Fault where
  method : String
  path : Option Path
  nth : Nat
  error : IoError

namespace Fault

/-- Whether a call counts for a fault. -/
def counts (fault : Fault) (c : Call) : Bool :=
  c.method == fault.method && (fault.path.all fun path => path == c.target)

/-- Whether a fault strikes a call after the calls so far. -/
def strikes (fault : Fault) (before : List Call) (c : Call) : Bool :=
  fault.counts c && before.countP fault.counts + 1 == fault.nth

/-- The schedule of a list of faults; of two that strike one call the first one counts. -/
def schedule (faults : List Fault) : Schedule := fun before c =>
  (faults.find? fun fault => fault.strikes before c).map (·.error)

end Fault
end Storage
end ToolPack
