import ToolPack.Proofs.Storage.Exchange
import ToolPack.Proofs.Storage.Filing
import ToolPack.Proofs.Storage.SourceKept

/-!
# Trees that grow

No call takes anything away.  Directories and links stay as they are, a file stays a file whatever
is written to it, and what is new is a directory or a file in a directory.  So a directory that a
path has led to is where it leads later, however many calls are made in between.

## What is here

* `Closed`: trees in which everything is in a directory, as it is in every real one;
* `Kept`, `Grows`: what may become of a tree; `Grows.put`: putting one thing in its place;
* `grows_handler`: what one call does, and `grows_after`: what any number of them do;
* `Leads.grow`: walks to what is there get there later, too.
-/

set_option autoImplicit false

namespace ToolPack
namespace Storage
namespace FileTree

open Text ToolPack.Action

variable {t t' t'' : FileTree} {purpose : Purpose} {links : Nat} {place goal : Location}
  {segments : List String} {path : Path} {node : Node}

/-! ## Closed trees -/

/-- Everything is in a directory, and so is what is looked at from. -/
structure Closed (t : FileTree) : Prop where
  here : t.isDir t.here = true
  above : ∀ place, (t.node? place).isSome → t.isDir place.tail = true

/-- It is enough to look at the entries. -/
theorem closed_of_entries (hhere : t.isDir t.here = true)
    (habove : ∀ entry ∈ t.nodes, t.isDir entry.1.tail = true) : Closed t := by
  refine ⟨hhere, fun place hplace => ?_⟩
  cases place with
  | nil => rfl
  | cons name place =>
    obtain ⟨node, hnode⟩ := Option.isSome_iff_exists.mp hplace
    exact habove (name :: place, node) (mem_nodes_of_node? hnode)

theorem isSome_of_isDir (h : t.isDir place = true) : (t.node? place).isSome := by
  rw [node?_of_isDir h]
  rfl

/-- Every place that a path leads to is in a directory. -/
theorem Leads.isDir_tail (h : Leads t purpose links place segments goal) (hclosed : Closed t)
    (hplace : (t.node? place).isSome) : t.isDir goal.tail = true := by
  induction h with
  | done => exact hclosed.above _ hplace
  | stay _ _ _ ih => exact ih hplace
  | up hdir _ ih => exact ih (isSome_of_isDir (hclosed.above _ hplace))
  | make hdir => exact hdir
  | follow hdir _ _ _ _ ih =>
    refine ih ?_
    rw [start]
    split
    · rfl
    · exact hplace
  | enter _ _ _ hnode _ _ _ ih => exact ih (by rw [hnode]; rfl)
  | lacking hdir => exact hdir

theorem isDir_tail_of_walk (h : t.walk purpose path = .ok goal) (hclosed : Closed t) :
    t.isDir goal.tail = true := by
  obtain ⟨-, -, hleads⟩ := lead_eq_ok_iff.mp (walk_eq_ok_iff.mp h).2
  refine hleads.isDir_tail hclosed ?_
  rw [start]
  split
  · rfl
  · exact isSome_of_isDir hclosed.here

/-! ## What may become of a tree -/

/-- What may become of what is at a place, or of a place where nothing is. -/
inductive Kept : Option Node → Option Node → Prop
  | same {old : Option Node} : Kept old old
  | made : Kept none (some .dir)
  | created {data : ByteArray} {mode : Bool} : Kept none (some (.file data mode))
  | written {data data' : ByteArray} {mode mode' : Bool} :
      Kept (some (.file data mode)) (some (.file data' mode'))

theorem Kept.trans {a b c : Option Node} (h : Kept a b) (h' : Kept b c) : Kept a c := by
  cases h with
  | same => exact h'
  | made =>
    cases h'
    exact .made
  | created => cases h' <;> exact .created
  | written => cases h' <;> exact .written

theorem Kept.isDir (h : Kept (t.node? place) (t'.node? place)) (hdir : t.isDir place = true) :
    t'.isDir place = true := by
  rw [node?_of_isDir hdir] at h
  generalize hnode : t'.node? place = now at h
  cases h
  exact isDir_of_node? hnode

/-- A tree has become another one, in which everything is in a directory again. -/
structure Grows (t t' : FileTree) : Prop where
  closed : Closed t'
  here : t'.here = t.here
  kept : ∀ place, Kept (t.node? place) (t'.node? place)

theorem Grows.refl (h : Closed t) : Grows t t := ⟨h, rfl, fun _ => .same⟩

theorem Grows.trans (h : Grows t t') (h' : Grows t' t'') : Grows t t'' :=
  ⟨h'.closed, h'.here.trans h.here, fun place => (h.kept place).trans (h'.kept place)⟩

theorem Grows.isDir (h : Grows t t') (hdir : t.isDir place = true) : t'.isDir place = true :=
  (h.kept place).isDir hdir

theorem Grows.isSome (h : Grows t t') (hsome : (t.node? place).isSome) :
    (t'.node? place).isSome := by
  have hkept := h.kept place
  generalize t.node? place = before, t'.node? place = now at hsome hkept
  cases hkept <;> first | exact hsome | rfl

/-- A link is a link from the start. -/
theorem Grows.link_iff {target : String} (h : Grows t t') :
    t'.node? place = some (.link target) ↔ t.node? place = some (.link target) := by
  have hkept := h.kept place
  generalize t.node? place = before, t'.node? place = now at hkept
  cases hkept <;> simp

/-- What is no link stays something that is none. -/
theorem Grows.exists_node (h : Grows t t') (hnode : t.node? place = some node)
    (hlink : ∀ target, node ≠ .link target) :
    ∃ now, t'.node? place = some now ∧ ∀ target, now ≠ .link target := by
  have hsome : (t'.node? place).isSome := h.isSome (by rw [hnode]; rfl)
  obtain ⟨now, hnow⟩ := Option.isSome_iff_exists.mp hsome
  refine ⟨now, hnow, fun target htarget => hlink target ?_⟩
  rw [htarget, h.link_iff, hnode] at hnow
  exact Option.some.inj hnow

/-- Something is put in a directory, where it may be. -/
theorem Grows.put (hclosed : Closed t) (hplace : place ≠ []) (hparent : t.isDir place.tail = true)
    (hkept : Kept (t.node? place) (some node)) : Grows t (t.put place node) := by
  have hput := node?_put t hplace
  have hkepts : ∀ other, Kept (t.node? other) ((t.put place node).node? other) := by
    intro other
    rw [hput]
    split
    · rename_i hother
      rwa [hother]
    · exact .same
  refine ⟨⟨(hkepts _).isDir hclosed.here, fun other hother => ?_⟩, rfl, hkepts⟩
  rw [hput] at hother
  split at hother
  · rename_i hsame
    exact (hkepts _).isDir (hsame ▸ hparent)
  · exact (hkepts _).isDir (hclosed.above other hother)

theorem Grows.put_file {data : ByteArray} {mode : Bool} (hclosed : Closed t)
    (hplace : t.Writable place) (hparent : t.isDir place.tail = true) :
    Grows t (t.put place (.file data mode)) := by
  refine .put hclosed hplace.ne_root hparent ?_
  rcases hplace with hnone | ⟨old, mode, hold⟩
  · rw [hnone]
    exact .created
  · rw [hold]
    exact .written

/-! ## What calls do -/

theorem grows_makeDir (hclosed : Closed t) (h : t.makeDir path = .ok t') : Grows t t' := by
  obtain ⟨place, hwalk, h⟩ := exists_of_bind_eq_ok h
  split at h
  · cases h
  · rename_i hnone
    obtain rfl := Except.ok.inj h
    refine .put hclosed (Writable.ne_root (.inl hnone)) (isDir_tail_of_walk hwalk hclosed) ?_
    rw [hnone]
    exact .made

theorem grows_ensureDir (hclosed : Closed t) (path : Path) : Grows t (t.ensureDir path).2 := by
  rw [ensureDir]
  split
  · rename_i hmade
    exact grows_makeDir hclosed hmade
  · exact .refl hclosed

theorem grows_makeRow (hclosed : Closed t) (paths : List Path) : Grows t (t.makeRow paths).2 := by
  induction paths generalizing t with
  | nil => exact .refl hclosed
  | cons path above ih =>
    rw [makeRow]
    split
    · split
      · -- the directory above is lacking, and is made before the directory is tried again
        have habove := ih hclosed
        split
        · rename_i hmade
          rw [hmade] at habove
          exact habove.trans (grows_ensureDir habove.closed path)
        · exact habove
      · exact .refl hclosed
    · exact grows_ensureDir hclosed path

theorem grows_makeParents (hclosed : Closed t) (path : Path) :
    Grows t (t.makeParents path).2 := by
  rw [makeParents]
  split
  · exact grows_makeRow hclosed _
  · exact .refl hclosed

theorem grows_writeFile (hclosed : Closed t) (path : Path) (data : ByteArray) :
    Grows t (t.writeFile path data).2 := by
  have hparents := grows_makeParents hclosed path
  rcases writeFile_cases t path data with ⟨e, hfailed⟩ | ⟨place, mode, hwalk, hplace, hwritten⟩
  · rw [hfailed]
    exact hparents
  · rw [hwritten]
    exact hparents.trans
      (.put_file hparents.closed hplace (isDir_tail_of_walk hwalk hparents.closed))

theorem grows_setExecutable (hclosed : Closed t) (h : t.setExecutable path = .ok t') :
    Grows t t' := by
  obtain ⟨found, hfind, h⟩ := exists_of_bind_eq_ok h
  split at h
  · rename_i place data mode
    obtain rfl := Except.ok.inj h
    obtain ⟨hwalk, hfile⟩ := find_eq_ok_iff.mp hfind
    exact .put_file hclosed (.inr ⟨data, mode, hfile⟩) (isDir_tail_of_walk hwalk hclosed)
  · obtain rfl := Except.ok.inj h
    exact .refl hclosed

/-- **No call takes anything away.** -/
theorem grows_handler (hclosed : Closed t) (c : Call) : Grows t (handler c t).2 := by
  cases c with
  | size path => exact .refl hclosed
  | read path => exact .refl hclosed
  | write path data => exact grows_writeFile hclosed path data
  | makeDirs path => exact grows_makeRow hclosed _
  | copy source target =>
    cases hcopy : t.copyFile source target with
    | error e =>
      rw [handler_copy_error hcopy]
      exact .refl hclosed
    | ok done =>
      obtain ⟨n, t'⟩ := done
      rw [handler_copy_ok hcopy]
      obtain ⟨-, _, _, _, goal, -, hwalk, hgoal, -, rfl⟩ := copyFile_eq_ok_iff.mp hcopy
      exact .put_file hclosed hgoal (isDir_tail_of_walk hwalk hclosed)
  | markExecutable path =>
    rw [handler]
    cases hmark : t.setExecutable path with
    | error e => exact .refl hclosed
    | ok t' => exact grows_setExecutable hclosed hmark

/-- However many calls are made, nothing is taken away. -/
theorem grows_after (hclosed : Closed t) (calls : List Call) : Grows t (after handler calls t) := by
  induction calls generalizing t with
  | nil => exact .refl hclosed
  | cons c calls ih =>
    have hcall := grows_handler hclosed c
    exact hcall.trans (ih hcall.closed)

/-! ## Walks -/

/-- A walk to what is there gets there later, too. -/
theorem Leads.grow (h : Leads t .find links place segments goal) (hgrows : Grows t t')
    (hgoal : (t.node? goal).isSome) : Leads t' .find links place segments goal := by
  induction h with
  | done => exact .done
  | stay hdir hname _ ih => exact .stay (hgrows.isDir hdir) hname (ih hgoal)
  | up hdir _ ih => exact .up (hgrows.isDir hdir) (ih hgoal)
  | make _ _ _ hmake => cases hmake
  | follow hdir hpass _ hnode _ ih =>
    exact .follow_find (hgrows.isDir hdir) hpass (hgrows.link_iff.mpr hnode) (ih hgoal)
  | @enter links place goal name rest node hdir hpass _ hnode hlink _ _ ih =>
    obtain ⟨now, hnow, hlink⟩ := hgrows.exists_node hnode hlink
    exact .enter_find (hgrows.isDir hdir) hpass hnow hlink (ih hgoal)
  | lacking _ _ _ hnode _ =>
    rw [hnode] at hgoal
    cases hgoal

end FileTree
end Storage
end ToolPack
