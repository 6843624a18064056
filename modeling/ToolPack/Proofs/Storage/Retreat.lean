import ToolPack.Proofs.Storage.Descent
import ToolPack.Proofs.Storage.Growth

/-!
# Paths through what is not there yet

A path may lead through names that are lacking, and directories may be made there later.  Below a
new directory everything is new, and no links lead out of it, so a path that only goes on downwards
leads to something new.  A path that goes up again behind a name that is lacking may come back to
what has been there before: where it leads to cannot be told as long as the name is lacking.

## What is here

* `Foreseen`: where a walk is going to get to once everything on its way has been made;
  `Leads.foreseen`, `Foreseen.unique`: it gets there, and nowhere else;
* `Retreats`: walks that go up behind something that is lacking; `Retreats.exists_up`: there has to
  be a `..` for it, in the path or in a link;
* `Leads.new_of_new`, `Leads.before`: other walks lead to something new, or to what they have led to
  before;
* `find_grow`, `find_foreseen`, `find_before`: what that says about paths;
* `samePlace_of_new`: nothing that has been there before is in a new directory;
* `find_of_makeDirs`: directories that are made are there.
-/

set_option autoImplicit false

namespace ToolPack
namespace Storage
namespace FileTree

open Text ToolPack.Path

variable {t t' : FileTree} {links : Nat} {place goal mid : Location} {name target : String}
  {segments rest : List String} {dir path source : Path} {node : Node}

/-! ## Walks that are foreseen -/

/-- Where a walk gets to if a directory is made for every name that is lacking on its way. -/
inductive Foreseen (t : FileTree) : Nat → Location → List String → Location → Prop
  | done {links : Nat} {place : Location} : Foreseen t links place [] place
  | stay {links : Nat} {place goal : Location} {name : String} {rest : List String}
      (hname : name = "" ∨ name = ".") (h : Foreseen t links place rest goal) :
      Foreseen t links place (name :: rest) goal
  | up {links : Nat} {place goal : Location} {rest : List String}
      (h : Foreseen t links place.tail rest goal) : Foreseen t links place (".." :: rest) goal
  | follow {links : Nat} {place goal : Location} {name target : String} {rest : List String}
      (hpass : Passable .find place name rest)
      (hnode : t.node? (name :: place) = some (.link target))
      (h : Foreseen t links (start place target) (pieces '/' target ++ rest) goal) :
      Foreseen t (links + 1) place (name :: rest) goal
  /-- Something that is no link, or that is lacking. -/
  | enter {links : Nat} {place goal : Location} {name : String} {rest : List String}
      (hpass : Passable .find place name rest)
      (hlink : ∀ target, t.node? (name :: place) ≠ some (.link target))
      (h : Foreseen t links (name :: place) rest goal) : Foreseen t links place (name :: rest) goal

theorem foreseen_of_isLast (hlast : IsLast rest) : Foreseen t links place rest place := by
  induction rest with
  | nil => exact .done
  | cons name rest ih =>
    obtain ⟨hname, hrest⟩ := (Bool.and_eq_true _ _).mp hlast
    exact .stay (.inl (String.isEmpty_iff.mp hname)) (ih hrest)

/-- Whatever has been made in the meantime, a walk gets to where it has been foreseen to get. -/
theorem Leads.foreseen (h : Leads t' .find links place segments goal) (hgrows : Grows t t') :
    Foreseen t links place segments goal := by
  induction h with
  | done => exact .done
  | stay _ hname _ ih => exact .stay hname ih
  | up _ _ ih => exact .up ih
  | make _ _ _ hmake => cases hmake
  | follow _ hpass _ hnode _ ih => exact .follow hpass (hgrows.link_iff.mp hnode) ih
  | enter _ hpass _ hnode hlink _ _ ih =>
    refine .enter hpass (fun target hold => ?_) ih
    rw [hgrows.link_iff.mpr hold] at hnode
    exact hlink target (Option.some.inj hnode).symm
  | lacking _ hpass _ hnode hlast =>
    refine .enter hpass (fun target hold => ?_) (foreseen_of_isLast hlast)
    rw [hgrows.link_iff.mpr hold] at hnode
    cases hnode

/-- A walk is foreseen to get to one place only. -/
theorem Foreseen.unique {other : Location} (h : Foreseen t links place segments goal)
    (h' : Foreseen t links place segments other) : goal = other := by
  induction h with
  | done =>
    cases h'
    rfl
  | stay hname _ ih =>
    cases h' with
    | stay _ h' => exact ih h'
    | up => exact absurd hname (by decide)
    | follow hpass => exact absurd hname (not_or.mpr ⟨hpass.ne_empty, hpass.ne_here⟩)
    | enter hpass => exact absurd hname (not_or.mpr ⟨hpass.ne_empty, hpass.ne_here⟩)
  | up _ ih =>
    cases h' with
    | stay hname => exact absurd hname (by decide)
    | up h' => exact ih h'
    | follow hpass => exact absurd rfl hpass.ne_up
    | enter hpass => exact absurd rfl hpass.ne_up
  | follow hpass hnode _ ih =>
    cases h' with
    | stay hname => exact absurd hname (not_or.mpr ⟨hpass.ne_empty, hpass.ne_here⟩)
    | up => exact absurd rfl hpass.ne_up
    | follow _ hnode' h' =>
      rw [hnode] at hnode'
      cases hnode'
      exact ih h'
    | enter _ hlink => exact absurd hnode (hlink _)
  | enter hpass hlink _ ih =>
    cases h' with
    | stay hname => exact absurd hname (not_or.mpr ⟨hpass.ne_empty, hpass.ne_here⟩)
    | up => exact absurd rfl hpass.ne_up
    | follow _ hnode => exact absurd hnode (hlink _)
    | enter _ _ h' => exact ih h'

/-! ## Walks that retreat -/

/-- A walk comes to a name that is lacking, and is to go up somewhere behind it. -/
inductive Retreats (t : FileTree) : Nat → Location → List String → Prop
  | lacking {links : Nat} {place : Location} {name : String} {rest : List String}
      (hdir : t.isDir place = true) (hpass : Passable .find place name rest)
      (hnode : t.node? (name :: place) = none) (hup : ".." ∈ rest) :
      Retreats t links place (name :: rest)
  | stay {links : Nat} {place : Location} {name : String} {rest : List String}
      (hdir : t.isDir place = true) (hname : name = "" ∨ name = ".")
      (h : Retreats t links place rest) : Retreats t links place (name :: rest)
  | up {links : Nat} {place : Location} {rest : List String} (hdir : t.isDir place = true)
      (h : Retreats t links place.tail rest) : Retreats t links place (".." :: rest)
  | follow {links : Nat} {place : Location} {name target : String} {rest : List String}
      (hdir : t.isDir place = true) (hpass : Passable .find place name rest)
      (hnode : t.node? (name :: place) = some (.link target))
      (h : Retreats t links (start place target) (pieces '/' target ++ rest)) :
      Retreats t (links + 1) place (name :: rest)
  | enter {links : Nat} {place : Location} {name : String} {rest : List String} {node : Node}
      (hdir : t.isDir place = true) (hpass : Passable .find place name rest)
      (hnode : t.node? (name :: place) = some node) (hlink : ∀ target, node ≠ .link target)
      (h : Retreats t links (name :: place) rest) : Retreats t links place (name :: rest)

/-- There is no retreat where nothing leads up, neither a path nor a link. -/
theorem Retreats.exists_up (h : Retreats t links place segments) :
    ".." ∈ segments ∨ ∃ place target, t.node? place = some (.link target)
      ∧ ".." ∈ pieces '/' target := by
  induction h with
  | lacking _ _ _ hup => exact .inl (List.mem_cons_of_mem _ hup)
  | stay _ _ _ ih => exact ih.imp_left (List.mem_cons_of_mem _)
  | up => exact .inl List.mem_cons_self
  | follow _ _ hnode _ ih =>
    rcases ih with hup | hlink
    · rcases List.mem_append.mp hup with htarget | hrest
      · exact .inr ⟨_, _, hnode, htarget⟩
      · exact .inl (List.mem_cons_of_mem _ hrest)
    · exact .inr hlink
  | enter _ _ _ _ _ ih => exact ih.imp_left (List.mem_cons_of_mem _)

/-! ## Walks in a tree that has grown -/

/-- There is nothing in what is not there. -/
theorem Closed.node?_below (hclosed : Closed t) (hplace : t.node? place = none) (name : String) :
    t.node? (name :: place) = none := by
  cases hnode : t.node? (name :: place) with
  | none => rfl
  | some node =>
    have habove := node?_of_isDir (hclosed.above (name :: place) (by rw [hnode]; rfl))
    rw [List.tail_cons, hplace] at habove
    cases habove

/-- What is reached below a new directory is new. -/
theorem Leads.new_of_new (h : Leads t' .find links place segments goal) (hclosed : Closed t)
    (hgrows : Grows t t') (hplace : t.node? place = none) (hup : ".." ∉ segments) :
    t.node? goal = none := by
  induction h with
  | done => exact hplace
  | stay _ _ _ ih => exact ih hplace (fun h => hup (List.mem_cons_of_mem _ h))
  | up => exact absurd List.mem_cons_self hup
  | make _ _ _ hmake => cases hmake
  | follow _ _ _ hnode _ _ =>
    rw [hgrows.link_iff, hclosed.node?_below hplace] at hnode
    cases hnode
  | enter _ _ _ _ _ _ _ ih =>
    exact ih (hclosed.node?_below hplace _) (fun h => hup (List.mem_cons_of_mem _ h))
  | lacking => exact hclosed.node?_below hplace _

theorem Grows.isDir_before (h : Grows t t') (hplace : (t.node? place).isSome)
    (hdir : t'.isDir place = true) : t.isDir place = true := by
  have hkept := h.kept place
  rw [node?_of_isDir hdir] at hkept
  generalize hnode : t.node? place = before at hplace hkept
  cases hkept with
  | same => exact isDir_of_node? hnode
  | made => cases hplace

/-- A walk that does not retreat leads to what it has led to before, or to something new. -/
theorem Leads.before (h : Leads t' .find links place segments goal) (hclosed : Closed t)
    (hgrows : Grows t t') (hplace : (t.node? place).isSome)
    (hretreats : ¬ Retreats t links place segments) :
    Leads t .find links place segments goal ∨ t.node? goal = none := by
  induction h with
  | done => exact .inl .done
  | stay hdir hname _ ih =>
    have hdir := hgrows.isDir_before hplace hdir
    exact (ih hplace fun h => hretreats (.stay hdir hname h)).imp_left (.stay hdir hname)
  | up hdir _ ih =>
    have hdir := hgrows.isDir_before hplace hdir
    exact (ih (isSome_of_isDir (hclosed.above _ hplace)) fun h => hretreats (.up hdir h)).imp_left
      (.up hdir)
  | make _ _ _ hmake => cases hmake
  | @follow links place goal name target rest hdir hpass _ hnode _ ih =>
    have hdir := hgrows.isDir_before hplace hdir
    have hnode := hgrows.link_iff.mp hnode
    have hstart : (t.node? (start place target)).isSome := by
      rw [start]
      split
      · rfl
      · exact hplace
    exact (ih hstart fun h => hretreats (.follow hdir hpass hnode h)).imp_left
      (.follow_find hdir hpass hnode)
  | @enter links place goal name rest node hdir hpass _ hnode hlink _ h ih =>
    have hdir := hgrows.isDir_before hplace hdir
    cases hold : t.node? (name :: place) with
    | none =>
      -- the directory is new, and so is what is below it
      exact .inr (h.new_of_new hclosed hgrows hold fun hup =>
        hretreats (.lacking hdir hpass hold hup))
    | some old =>
      have hold' : ∀ target, old ≠ .link target := by
        rintro target rfl
        rw [hgrows.link_iff.mpr hold] at hnode
        exact hlink target (Option.some.inj hnode).symm
      exact (ih (by rw [hold]; rfl) fun h => hretreats (.enter hdir hpass hold hold' h)).imp_left
        (.enter_find hdir hpass hold hold')
  | @lacking links place name rest hdir hpass _ hnode hlast =>
    have hold : t.node? (name :: place) = none := by
      cases hold : t.node? (name :: place) with
      | none => rfl
      | some old =>
        have hsome : (t'.node? (name :: place)).isSome := hgrows.isSome (by rw [hold]; rfl)
        rw [hnode] at hsome
        cases hsome
    exact .inr hold

/-! ## Paths -/

/-- Where a path leads if a directory is made for every name that is lacking on its way. -/
def PathForeseen (t : FileTree) (path : Path) (place : Location) : Prop :=
  Foreseen t linkLimit (start t.here path.text) (pieces '/' path.text) place

/-- The walk along a path retreats. -/
def PathRetreats (t : FileTree) (path : Path) : Prop :=
  Retreats t linkLimit (start t.here path.text) (pieces '/' path.text)

theorem isSome_start (hclosed : Closed t) (text : String) :
    (t.node? (start t.here text)).isSome := by
  rw [start]
  split
  · rfl
  · exact isSome_of_isDir hclosed.here

/-- What is found is found later, too, though a file may have been written. -/
theorem find_grow (h : t.find path = .ok (place, node)) (hgrows : Grows t t') :
    ∃ now, t'.find path = .ok (place, now) ∧ Kept (some node) (some now) := by
  obtain ⟨hwalk, hnode⟩ := find_eq_ok_iff.mp h
  obtain ⟨hshort, hlead⟩ := walk_eq_ok_iff.mp hwalk
  have hsome : (t.node? place).isSome := by rw [hnode]; rfl
  obtain ⟨now, hnow⟩ := Option.isSome_iff_exists.mp (hgrows.isSome hsome)
  have hkept := hgrows.kept place
  rw [hnode, hnow] at hkept
  have hlead' := lead_of_leads hlead hgrows.here fun hleads => hleads.grow hgrows hsome
  exact ⟨now, find_eq_ok_iff.mpr ⟨walk_eq_ok_iff.mpr ⟨hshort, hlead'⟩, hnow⟩, hkept⟩

theorem find_dir_grow (h : t.find path = .ok (place, .dir)) (hgrows : Grows t t') :
    t'.find path = .ok (place, .dir) := by
  obtain ⟨now, hfind, hkept⟩ := find_grow h hgrows
  cases hkept
  exact hfind

/-- What is found is where it has been foreseen. -/
theorem find_foreseen (h : t'.find path = .ok (place, node)) (hgrows : Grows t t') :
    t.PathForeseen path place := by
  obtain ⟨-, hlead⟩ := walk_eq_ok_iff.mp (find_eq_ok_iff.mp h).1
  obtain ⟨-, -, hleads⟩ := lead_eq_ok_iff.mp hlead
  rw [hgrows.here] at hleads
  exact hleads.foreseen hgrows

/-- A directory that a path leads to without a retreat is the one that it has led to before, or a
new one. -/
theorem find_before (h : t'.find path = .ok (place, .dir)) (hclosed : Closed t)
    (hgrows : Grows t t') (hretreats : ¬ PathRetreats t path) :
    t.find path = .ok (place, .dir) ∨ t.node? place = none := by
  obtain ⟨hwalk, hnode⟩ := find_eq_ok_iff.mp h
  obtain ⟨hshort, hlead⟩ := walk_eq_ok_iff.mp hwalk
  obtain ⟨hnul, hempty, hleads⟩ := lead_eq_ok_iff.mp hlead
  rw [hgrows.here] at hleads
  rcases hleads.before hclosed hgrows (isSome_start hclosed _) hretreats with hbefore | hnew
  · cases hold : t.node? place with
    | none => exact .inr rfl
    | some old =>
      have hdir := hgrows.isDir_before (by rw [hold]; rfl) (isDir_of_node? hnode)
      exact .inl (find_eq_ok_iff.mpr ⟨walk_eq_ok_iff.mpr ⟨hshort,
        lead_eq_ok_iff.mpr ⟨hnul, hempty, hbefore⟩⟩, node?_of_isDir hdir⟩)
  · exact .inr hnew

/-- What a name below a directory leads to is led to from the directory. -/
theorem leads_of_lead_join (hname : FileName name) (hdir : t.find dir = .ok (mid, .dir))
    (h : t.lead .find (dir.join name) = .ok goal) (hgoal : (t.node? goal).isSome) :
    ∃ fewer, Leads t .find fewer mid [name] goal := by
  obtain ⟨hwalk, hnode⟩ := find_eq_ok_iff.mp hdir
  obtain ⟨-, hempty, hleads⟩ := lead_eq_ok_iff.mp (walk_eq_ok_iff.mp hwalk).2
  obtain ⟨-, -, hjoined⟩ := lead_eq_ok_iff.mp h
  obtain ⟨front, hjoin, hpieces⟩ := pieces_join hname hempty
  rw [hjoin, start_join hname hempty] at hjoined
  obtain ⟨other, fewer, hfront, hback⟩ := hjoined.split hgoal
  have hother : Leads t .find linkLimit (start t.here dir.text) (pieces '/' dir.text) other := by
    rcases hpieces with hpieces | hpieces
    · rwa [hpieces]
    · rw [hpieces]
      exact (leads_slash_iff hback.isDir).mpr hfront
  obtain rfl := Except.ok.inj (hother.walkLinks_eq.symm.trans hleads.walkLinks_eq)
  exact ⟨fewer, hback⟩

/-- What has been there before is in no new directory. -/
theorem samePlace_of_new (hclosed : Closed t) (hgrows : Grows t t')
    (hsource : t.find source = .ok (place, node)) (hdir : t'.find dir = .ok (mid, .dir))
    (hnew : t.node? mid = none) (hname : FileName name) :
    t'.samePlace source (dir.join name) = false := by
  refine Bool.eq_false_iff.mpr fun hsame => ?_
  obtain ⟨told, hs, hd⟩ := samePlace_eq_true_iff.mp hsame
  obtain ⟨now, hnow, -⟩ := find_grow hsource hgrows
  obtain rfl := eq_of_canonical hs hnow
  obtain ⟨hlead, hsome⟩ := canonical_eq_some_iff.mp hd
  obtain ⟨fewer, hleads⟩ := leads_of_lead_join hname hdir
    (lead_of_leads hlead rfl fun hleads => hleads.find nofun) hsome
  have hup : ".." ∉ [name] := fun hmem => hname.ne_up (List.mem_singleton.mp hmem).symm
  have hplace := hleads.new_of_new hclosed hgrows hnew hup
  rw [(find_eq_ok_iff.mp hsource).2] at hplace
  cases hplace

/-! ## Directories that are made -/

theorem leads_of_isLast (hlast : IsLast rest) (hdir : t.isDir place = true) :
    Leads t .find links place rest place := by
  induction rest with
  | nil => exact .done
  | cons name rest ih =>
    obtain ⟨hname, hrest⟩ := (Bool.and_eq_true _ _).mp hlast
    exact .stay hdir (.inl (String.isEmpty_iff.mp hname)) (ih hrest)

/-- A directory that is made where a path leads is found there. -/
theorem Leads.made (h : Leads t .makeDir links place segments goal) (hgrows : Grows t t')
    (hgoal : t'.isDir goal = true) : Leads t' .find links place segments goal := by
  induction h with
  | done => exact .done
  | stay hdir hname _ ih => exact .stay (hgrows.isDir hdir) hname (ih hgoal)
  | up hdir _ ih => exact .up (hgrows.isDir hdir) (ih hgoal)
  | make hdir hpass hlast _ =>
    exact .enter_find (hgrows.isDir hdir) hpass.find (node?_of_isDir hgoal) nofun
      (leads_of_isLast hlast hgoal)
  | follow hdir hpass _ hnode _ ih =>
    exact .follow_find (hgrows.isDir hdir) hpass.find (hgrows.link_iff.mpr hnode) (ih hgoal)
  | @enter links place goal name rest node hdir hpass _ hnode hlink _ _ ih =>
    obtain ⟨now, hnow, hlink⟩ := hgrows.exists_node hnode hlink
    exact .enter_find (hgrows.isDir hdir) hpass.find hnow hlink (ih hgoal)
  | lacking _ _ hgoes _ hlast => exact absurd ⟨hlast, rfl⟩ hgoes

theorem find_of_makeDir (hclosed : Closed t) (h : t.makeDir path = .ok t') :
    ∃ place, t'.find path = .ok (place, .dir) := by
  have hgrows := grows_makeDir hclosed h
  obtain ⟨place, hwalk, h⟩ := exists_of_bind_eq_ok h
  split at h
  · cases h
  · rename_i hnone
    obtain rfl := Except.ok.inj h
    have hdir : (t.put place .dir).node? place = some .dir := by
      rw [node?_put t (Writable.ne_root (.inl hnone)), if_pos rfl]
    obtain ⟨hshort, hlead⟩ := walk_eq_ok_iff.mp hwalk
    have hlead' : (t.put place .dir).lead .find path = .ok place :=
      lead_of_leads hlead rfl fun hleads => hleads.made hgrows (isDir_of_node? hdir)
    exact ⟨place, find_eq_ok_iff.mpr ⟨walk_eq_ok_iff.mpr ⟨hshort, hlead'⟩, hdir⟩⟩

theorem leadsToDir_iff : t.leadsToDir path = true ↔ ∃ place, t.find path = .ok (place, .dir) := by
  rw [leadsToDir]
  split
  · rename_i place hfind
    exact iff_of_true rfl ⟨place, hfind⟩
  · rename_i hother
    exact iff_of_false nofun fun ⟨place, hfind⟩ => hother place hfind

theorem find_of_ensureDir (hclosed : Closed t) (h : t.ensureDir path = (.ok (), t')) :
    ∃ place, t'.find path = .ok (place, .dir) := by
  rw [ensureDir] at h
  split at h
  · rename_i hmade
    obtain ⟨-, rfl⟩ := Prod.mk.inj h
    exact find_of_makeDir hclosed hmade
  · obtain ⟨hok, rfl⟩ := Prod.mk.inj h
    split at hok
    · rename_i hthere
      exact leadsToDir_iff.mp hthere.2
    · cases hok

/-- The first of a row of directories that have been made is there. -/
theorem find_of_makeRow {above : List Path} (hclosed : Closed t)
    (h : t.makeRow (path :: above) = (.ok (), t')) :
    ∃ place, t'.find path = .ok (place, .dir) := by
  rw [makeRow] at h
  split at h
  · split at h
    · split at h
      · rename_i hmade
        have habove := grows_makeRow hclosed above
        rw [hmade] at habove
        exact find_of_ensureDir habove.closed h
      · rename_i hfailed
        exact absurd h (hfailed t')
    · cases h
  · exact find_of_ensureDir hclosed h

/-- A directory that has been made is there, with those above it. -/
theorem find_of_makeDirs (hclosed : Closed t) (hparent : path.parent?.isSome)
    (h : t.makeDirs path = (.ok (), t')) : ∃ place, t'.find path = .ok (place, .dir) := by
  obtain ⟨parent, hparent⟩ := Option.isSome_iff_exists.mp hparent
  have hupward : path.upward = path :: parent.upward := by
    rw [upward]
    split
    · rename_i hnone
      rw [hparent] at hnone
      cases hnone
    · rename_i other hother
      rw [Option.some.inj (hparent.symm.trans hother)]
  rw [makeDirs, hupward] at h
  exact find_of_makeRow hclosed h

end FileTree
end Storage
end ToolPack
