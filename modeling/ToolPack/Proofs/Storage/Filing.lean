import ToolPack.Proofs.Storage.Contents
import ToolPack.Proofs.Storage.Walk

/-!
# Files and the places that they are in

What counts of a storage are its files: the bytes in each place, and whether they can be executed.
Writing puts bytes in one place, the one that the path leads to, and a write that fails leaves the
files alone; looking leaves everything.  In memory the places are the paths themselves.  On a tree
of files they are locations, and a write may make directories on its way, of which the files do not
know.

## What is here

* `Filing`: the files of a storage, with what its calls do to them;
* `Filing.failing`: the files are the same when calls are made to fail; `Filing.after_looks`: what
  calls that only look leave;
* `Memory.filing`, `FileTree.filing`: the files of a storage in memory, and of a tree.
-/

set_option autoImplicit false

namespace ToolPack
namespace Storage

open ToolPack.Action

variable {σ κ : Type} {handler : Handler σ}

/-- The files of a storage: what is in a place, the bytes and whether they can be executed, and the
place that a path is written to. -/
structure Filing (handler : Handler σ) (κ : Type) where
  file? : σ → κ → Option (ByteArray × Bool)
  place : σ → Path → κ
  /-- Looking leaves the files, and the places that paths lead to. -/
  looks : ∀ {c : Call} (state : σ), c.changes = false →
    file? (handler c state).2 = file? state ∧ place (handler c state).2 = place state
  /-- What was written is where its path leads to. -/
  written : ∀ {state : σ} {path : Path} {data : ByteArray},
    (handler (.write path data) state).1 = .ok () →
      (file? (handler (.write path data) state).2 (place state path)).map (·.1) = some data
  /-- It is nowhere else. -/
  spared : ∀ {state : σ} {path : Path} (data : ByteArray) {other : κ}, other ≠ place state path →
    file? (handler (.write path data) state).2 other = file? state other
  /-- A write that fails leaves the files. -/
  failed : ∀ {state : σ} {path : Path} {data : ByteArray} {e : IoError},
    (handler (.write path data) state).1 = .error e →
      file? (handler (.write path data) state).2 = file? state

namespace Filing

/-- Calls that only look leave the files, however many there are. -/
theorem after_looks (filing : Filing handler κ) {calls : List Call}
    (h : ∀ c ∈ calls, c.changes = false) (state : σ) :
    filing.file? (after handler calls state) = filing.file? state
      ∧ filing.place (after handler calls state) = filing.place state := by
  induction calls generalizing state with
  | nil => exact ⟨rfl, rfl⟩
  | cons c calls ih =>
    obtain ⟨hc, hlater⟩ := List.forall_mem_cons.mp h
    obtain ⟨hfile, hplace⟩ := filing.looks state hc
    obtain ⟨hfiles, hplaces⟩ := ih hlater (handler c state).2
    exact ⟨hfiles.trans hfile, hplaces.trans hplace⟩

/-- A call that is made to fail leaves the files, and the others do what they do. -/
def failing (filing : Filing handler κ) (schedule : Schedule) :
    Filing (Storage.failing schedule handler) κ where
  file? w := filing.file? w.storage
  place w := filing.place w.storage
  looks {c} w hc := by
    rcases storage_failing schedule handler c w with hdone | hnothing
    · rw [hdone]
      exact filing.looks w.storage hc
    · rw [hnothing]
      exact ⟨rfl, rfl⟩
  written {w path data} hok := by
    obtain ⟨hanswer, hstorage⟩ := failing_ok hok
    rw [hstorage]
    exact filing.written hanswer
  spared {w path} data other hother := by
    rcases storage_failing schedule handler (.write path data) w with hdone | hnothing
    · rw [hdone]
      exact filing.spared data hother
    · rw [hnothing]
  failed {w path data e} herror := by
    rw [Storage.failing] at herror ⊢
    split at herror
    · rfl
    · exact filing.failed herror

end Filing

/-! ## Files in memory -/

/-- What is under a path. -/
def Memory.file? (m : Memory) (path : Path) : Option (ByteArray × Bool) :=
  (m.get? path).map fun data => (data, m.executable.contains path)

/-- The files of a storage in memory; a path is a place of its own. -/
def Memory.filing : Filing Memory.handler Path where
  file? := Memory.file?
  place _ path := path
  looks {c} m hc := by
    rw [handler_of_not_changes hc m]
    exact ⟨rfl, rfl⟩
  written {m path data} _ := by
    show (((m.set path data).get? path).map _).map _ = some data
    rw [get?_set_self]
    rfl
  spared {m path} data other hother := by
    show ((m.set path data).get? other).map _ = _
    rw [get?_set_of_ne m hother]
    rfl
  failed {m path data e} herror := by cases herror

/-! ## Files of a tree -/

theorem looksOnly_tree : LooksOnly FileTree.handler := by
  intro c t h
  obtain ⟨path, rfl | rfl⟩ := Call.changes_eq_false_iff.mp h
  · rfl
  · rfl

/-- What is in a node that is a file. -/
def Node.file? : Node → Option (ByteArray × Bool)
  | .file data executable => some (data, executable)
  | .dir | .link _ => none

namespace FileTree

/-- The file at a location. -/
def file? (t : FileTree) (place : Location) : Option (ByteArray × Bool) :=
  (t.node? place).bind Node.file?

/-- What is put below the root is there, and the other files stay. -/
theorem file?_put {t : FileTree} {place : Location} (hplace : place ≠ []) (other : Location)
    (node : Node) :
    (t.put place node).file? other = if other = place then node.file? else t.file? other := by
  rw [file?, node?_put t hplace]
  by_cases h : other = place
  · rw [if_pos h, if_pos h]
    rfl
  · rw [if_neg h, if_neg h]
    rfl

/-- A directory that is made takes the place of nothing. -/
theorem file?_makeDir {t t' : FileTree} {path : Path} (h : t.makeDir path = .ok t') :
    t'.file? = t.file? := by
  rw [makeDir] at h
  cases hwalk : t.walk .makeDir path with
  | error e =>
    rw [hwalk] at h
    cases h
  | ok place =>
    rw [hwalk] at h
    cases hnode : t.node? place with
    | some node =>
      simp only [bind, Except.bind, hnode] at h
      cases h
    | none =>
      simp only [bind, Except.bind, hnode] at h
      obtain rfl := Except.ok.inj h
      have hroot : place ≠ [] := Writable.ne_root (.inl hnode)
      funext other
      rw [file?_put hroot]
      split
      · rename_i hother
        rw [hother, file?, hnode]
        rfl
      · rfl

theorem file?_ensureDir (t : FileTree) (path : Path) : (t.ensureDir path).2.file? = t.file? := by
  rw [ensureDir]
  split
  · rename_i hmade
    exact file?_makeDir hmade
  · rfl

theorem file?_makeRow (t : FileTree) (paths : List Path) : (t.makeRow paths).2.file? = t.file? := by
  induction paths generalizing t with
  | nil => rfl
  | cons path above ih =>
    rw [makeRow]
    split
    · split
      · -- the directory above is lacking, and is made before the directory is tried again
        have habove := ih t
        split
        · rename_i hmade
          rw [hmade] at habove
          exact (file?_ensureDir _ path).trans habove
        · exact habove
      · rfl
    · exact file?_ensureDir t path

/-- Makes the directories above a path. -/
def makeParents (t : FileTree) (path : Path) : Except IoError Unit × FileTree :=
  match path.parent? with
  | some parent => t.makeDirs parent
  | none => (.ok (), t)

theorem file?_makeParents (t : FileTree) (path : Path) :
    (t.makeParents path).2.file? = t.file? := by
  rw [makeParents]
  split
  · exact file?_makeRow t _
  · rfl

/-- Bytes are put where the path leads, in the place of a file or of nothing. -/
theorem overwrite_eq_ok_iff {t t' : FileTree} {path : Path} {data : ByteArray}
    {executable : Option Bool → Bool} :
    t.overwrite path data executable = .ok t'
      ↔ ∃ place, t.walk .write path = .ok place ∧ t.Writable place
        ∧ t' = t.put place (.file data (executable ((t.file? place).map (·.2)))) := by
  rw [overwrite]
  cases t.walk .write path with
  | error e => exact ⟨nofun, fun ⟨_, h, _⟩ => nomatch h⟩
  | ok place =>
    simp only [bind, Except.bind, Except.ok.injEq, exists_eq_left', Writable, file?]
    cases t.node? place with
    | none => simp [eq_comm]
    | some node => cases node <;> simp [Node.file?, eq_comm]

/-- A file is written behind its directories, or there is no more than these. -/
theorem writeFile_cases (t : FileTree) (path : Path) (data : ByteArray) :
    (∃ e, t.writeFile path data = (.error e, (t.makeParents path).2))
      ∨ ∃ place mode, (t.makeParents path).2.walk .write path = .ok place
        ∧ (t.makeParents path).2.Writable place
        ∧ t.writeFile path data
          = (.ok (), (t.makeParents path).2.put place (.file data mode)) := by
  rw [writeFile]
  split
  · rename_i e made hmade
    have hmade : t.makeParents path = (.error e, made) := hmade
    rw [hmade]
    exact .inl ⟨e, rfl⟩
  · rename_i made hmade
    have hmade : t.makeParents path = (.ok (), made) := hmade
    rw [hmade]
    cases hput : made.overwrite path data (fun old => old.getD false) with
    | error e => exact .inl ⟨e, rfl⟩
    | ok t' =>
      obtain ⟨place, hwalk, hplace, rfl⟩ := overwrite_eq_ok_iff.mp hput
      exact .inr ⟨place, _, hwalk, hplace, rfl⟩

/-- Where a path is written to, once its directories are there; the root, where nothing is ever
written, if it leads nowhere. -/
def place (t : FileTree) (path : Path) : Location :=
  match (t.makeParents path).2.walk .write path with
  | .ok place => place
  | .error _ => []

/-- The files of a tree; the places are locations. -/
def filing : Filing FileTree.handler Location where
  file? := file?
  place := place
  looks {c} t hc := by
    rw [looksOnly_tree c t hc]
    exact ⟨rfl, rfl⟩
  written {t path data} hok := by
    rcases writeFile_cases t path data with ⟨e, hfailed⟩ | ⟨goal, mode, hwalk, hgoal, hwritten⟩
    · rw [FileTree.handler, hfailed] at hok
      cases hok
    · rw [FileTree.handler, hwritten, place, hwalk, file?_put hgoal.ne_root, if_pos rfl]
      rfl
  spared {t path} data other hother := by
    rcases writeFile_cases t path data with ⟨e, hfailed⟩ | ⟨goal, mode, hwalk, hgoal, hwritten⟩
    · rw [FileTree.handler, hfailed, file?_makeParents]
    · rw [place, hwalk] at hother
      rw [FileTree.handler, hwritten, file?_put hgoal.ne_root, if_neg hother, file?_makeParents]
  failed {t path data e} herror := by
    rcases writeFile_cases t path data with ⟨e, hfailed⟩ | ⟨goal, mode, hwalk, hgoal, hwritten⟩
    · rw [FileTree.handler, hfailed, file?_makeParents]
    · rw [FileTree.handler, hwritten] at herror
      cases herror

end FileTree
end Storage
end ToolPack
