import ToolPack.Storage.Local

/-!
# Where a path leads

A walk through a tree of files takes one segment after the other, and starts anew at a link.  What
it does at a segment depends on what is there and on what the path is walked for, so a walk that
gets through is told here as a relation, one rule for each thing that can happen at a segment.

## What is here

* `Leads`: the walks that get through; `walkLinks_eq_ok_iff`: they are those of the tree;
* `Leads.find`, `Leads.write`, `Leads.locate`: a walk that gets through for one purpose gets through
  for another, if what is at its end is a file, or the tree is nowhere too deep (`Shallow`);
* `Leads.put`: walks to files are the same once a file has been written;
* `lead_eq_ok_iff`, `walk_eq_ok_iff`, `find_eq_ok_iff`, `canonical_eq_some_iff`: where paths lead,
  and what follows for them.
-/

set_option autoImplicit false

namespace ToolPack
namespace Storage
namespace FileTree

open Text

/-! ## Walks that get through -/

/-- Nothing is behind a segment but slashes. -/
abbrev IsLast (rest : List String) : Prop := rest.all (·.isEmpty) = true

/-- A segment that names something, and that may be walked from a place for a purpose. -/
structure Passable (purpose : Purpose) (place : Location) (name : String) (rest : List String) :
    Prop where
  ne_empty : name ≠ ""
  ne_here : name ≠ "."
  ne_up : name ≠ ".."
  size_le : name.utf8ByteSize ≤ segmentLimit
  /-- A path that ends in a slash is none of a file to be written. -/
  written : purpose = .write → IsLast rest → rest = []
  /-- A place that cannot be told is not passed where it has to be. -/
  depth_le : purpose = .locate → depth (name :: place) ≤ pathLimit

variable {t t' : FileTree} {purpose : Purpose} {links : Nat} {place goal : Location}
  {name target : String} {rest segments : List String}

/-- A walk from a place along segments gets through to a goal, with a number of links left. -/
inductive Leads (t : FileTree) (purpose : Purpose) :
    Nat → Location → List String → Location → Prop
  | done {links : Nat} {place : Location} : Leads t purpose links place [] place
  /-- An empty segment, or a dot: the walk stays in the directory. -/
  | stay {links : Nat} {place goal : Location} {name : String} {rest : List String}
      (hdir : t.isDir place = true) (hname : name = "" ∨ name = ".")
      (h : Leads t purpose links place rest goal) : Leads t purpose links place (name :: rest) goal
  | up {links : Nat} {place goal : Location} {rest : List String} (hdir : t.isDir place = true)
      (h : Leads t purpose links place.tail rest goal) :
      Leads t purpose links place (".." :: rest) goal
  /-- Where a directory is to be made, it does not matter what is there. -/
  | make {links : Nat} {place : Location} {name : String} {rest : List String}
      (hdir : t.isDir place = true) (hpass : Passable purpose place name rest)
      (hlast : IsLast rest) (hpurpose : purpose = .makeDir) :
      Leads t purpose links place (name :: rest) (name :: place)
  | follow {links : Nat} {place goal : Location} {name target : String} {rest : List String}
      (hdir : t.isDir place = true) (hpass : Passable purpose place name rest)
      (hgoes : ¬ (IsLast rest ∧ purpose = .makeDir))
      (hnode : t.node? (name :: place) = some (.link target))
      (h : Leads t purpose links (start place target) (pieces '/' target ++ rest) goal) :
      Leads t purpose (links + 1) place (name :: rest) goal
  /-- A file or a directory. -/
  | enter {links : Nat} {place goal : Location} {name : String} {rest : List String} {node : Node}
      (hdir : t.isDir place = true) (hpass : Passable purpose place name rest)
      (hgoes : ¬ (IsLast rest ∧ purpose = .makeDir)) (hnode : t.node? (name :: place) = some node)
      (hlink : ∀ target, node ≠ .link target)
      (hasked : purpose = .locate → asksDir rest = true → depth (name :: place) < pathLimit)
      (h : Leads t purpose links (name :: place) rest goal) :
      Leads t purpose links place (name :: rest) goal
  /-- Nothing is there, and nothing has to be. -/
  | lacking {links : Nat} {place : Location} {name : String} {rest : List String}
      (hdir : t.isDir place = true) (hpass : Passable purpose place name rest)
      (hgoes : ¬ (IsLast rest ∧ purpose = .makeDir)) (hnode : t.node? (name :: place) = none)
      (hlast : IsLast rest) : Leads t purpose links place (name :: rest) (name :: place)

/-! ## The walks of a tree -/

/-- What a walk does at a link. -/
def followLinks (t : FileTree) (purpose : Purpose) :
    Nat → Location → String → List String → Except OsError Location
  | 0, _, _, _ => .error .linkLoop
  | links + 1, place, target, rest =>
    walkLinks t purpose links (start place target) (pieces '/' target ++ rest)

theorem walkLinks_eq (t : FileTree) (purpose : Purpose) (links : Nat) :
    walkLinks t purpose links = walkWith t purpose (followLinks t purpose links) := by
  cases links <;> rfl

theorem leads_of_walkWith {follow : Location → String → List String → Except OsError Location}
    (hfollow : ∀ {place goal : Location} {target : String} {rest : List String},
      follow place target rest = .ok goal → ∃ fewer, links = fewer + 1
        ∧ Leads t purpose fewer (start place target) (pieces '/' target ++ rest) goal)
    (h : walkWith t purpose follow place segments = .ok goal) :
    Leads t purpose links place segments goal := by
  induction segments generalizing place with
  | nil =>
    cases h
    exact .done
  | cons name rest ih =>
    rw [walkWith] at h
    split at h
    · cases h
    rename_i hdir
    have hdir : t.isDir place = true := by simpa using hdir
    split at h
    · rename_i hname
      exact .stay hdir hname (ih h)
    rename_i hname
    split at h
    · rename_i hup
      subst hup
      exact .up hdir (ih h)
    rename_i hup
    simp only at h
    split at h
    · cases h
    rename_i hwritten
    split at h
    · cases h
    rename_i hsize
    split at h
    · cases h
    rename_i hdepth
    have hpass : Passable purpose place name rest :=
      { ne_empty := fun hempty => hname (.inl hempty)
        ne_here := fun hhere => hname (.inr hhere)
        ne_up := hup
        size_le := Nat.le_of_not_lt hsize
        written := fun hwrite hlast =>
          Classical.byContradiction fun hrest => hwritten ⟨hlast, hrest, hwrite⟩
        depth_le := fun hlocate => Nat.le_of_not_lt fun hlt => hdepth ⟨hlocate, hlt⟩ }
    split at h
    · rename_i hmake
      cases h
      exact .make hdir hpass hmake.1 hmake.2
    rename_i hgoes
    split at h
    · rename_i target hnode
      obtain ⟨fewer, rfl, hleads⟩ := hfollow h
      exact .follow hdir hpass hgoes hnode hleads
    · rename_i node hlink hnode
      split at h
      · cases h
      rename_i hasked
      exact .enter hdir hpass hgoes hnode hlink
        (fun hlocate hasks => Nat.lt_of_not_le fun hle =>
          hasked ⟨hlocate, hasks, Nat.lt_succ_of_le hle⟩) (ih h)
    · rename_i hnode
      split at h
      · rename_i hlast
        cases h
        exact .lacking hdir hpass hgoes hnode hlast
      · cases h

theorem leads_of_walkLinks (h : walkLinks t purpose links place segments = .ok goal) :
    Leads t purpose links place segments goal := by
  induction links generalizing place segments goal with
  | zero =>
    refine leads_of_walkWith ?_ h
    intro place goal target rest hloop
    cases hloop
  | succ links ih =>
    refine leads_of_walkWith ?_ h
    intro place goal target rest hnext
    exact ⟨links, rfl, ih hnext⟩

/-- A segment that may be walked is one of the last three cases. -/
theorem walkWith_of_passable
    {follow : Location → String → List String → Except OsError Location}
    (hdir : t.isDir place = true) (hpass : Passable purpose place name rest)
    (hgoes : ¬ (IsLast rest ∧ purpose = .makeDir)) :
    walkWith t purpose follow place (name :: rest)
      = match t.node? (name :: place) with
        | some (.link target) => follow place target rest
        | some _ =>
          if purpose = .locate ∧ asksDir rest ∧ pathLimit < depth (name :: place) + 1 then
            .error .nameTooLong
          else walkWith t purpose follow (name :: place) rest
        | none => if IsLast rest then .ok (name :: place) else .error .noEntry := by
  have hwritten : ¬ (IsLast rest ∧ rest ≠ [] ∧ purpose = .write) :=
    fun h => h.2.1 (hpass.written h.2.2 h.1)
  have hdepth : ¬ (purpose = .locate ∧ pathLimit < depth (name :: place)) :=
    fun h => Nat.not_lt.mpr (hpass.depth_le h.1) h.2
  rw [walkWith, if_neg (by simp [hdir]), if_neg (by simp [hpass.ne_empty, hpass.ne_here]),
    if_neg hpass.ne_up]
  exact (if_neg hwritten).trans <| (if_neg (Nat.not_lt.mpr hpass.size_le)).trans <|
    (if_neg hdepth).trans (if_neg hgoes)

/-- A walk for what is at the end of a path: it starts anew at a link, and goes on at anything
else. -/
theorem walkWith_find {follow : Location → String → List String → Except OsError Location}
    (hdir : t.isDir place = true) (hpass : Passable .find place name rest) :
    walkWith t .find follow place (name :: rest)
      = match t.node? (name :: place) with
        | some (.link target) => follow place target rest
        | some _ => walkWith t .find follow (name :: place) rest
        | none => if IsLast rest then .ok (name :: place) else .error .noEntry := by
  rw [walkWith_of_passable hdir hpass nofun]
  simp only [reduceCtorEq, false_and, if_false]

theorem Leads.walkLinks_eq (h : Leads t purpose links place segments goal) :
    walkLinks t purpose links place segments = .ok goal := by
  induction h with
  | done => rw [FileTree.walkLinks_eq, walkWith]
  | stay hdir hname _ ih =>
    rw [FileTree.walkLinks_eq] at ih ⊢
    rw [walkWith, if_neg (by simp [hdir]), if_pos hname, ih]
  | up hdir _ ih =>
    rw [FileTree.walkLinks_eq] at ih ⊢
    rw [walkWith, if_neg (by simp [hdir]), if_neg (by decide), if_pos rfl, ih]
  | make hdir hpass hlast hpurpose =>
    rw [FileTree.walkLinks_eq, walkWith, if_neg (by simp [hdir]),
      if_neg (by simp [hpass.ne_empty, hpass.ne_here]), if_neg hpass.ne_up]
    simp only
    rw [if_neg (by simp [hpurpose]), if_neg (Nat.not_lt.mpr hpass.size_le),
      if_neg (by simp [hpurpose]), if_pos ⟨hlast, hpurpose⟩]
  | follow hdir hpass hgoes hnode _ ih =>
    rw [FileTree.walkLinks_eq, walkWith_of_passable hdir hpass hgoes, hnode]
    exact ih
  | @enter links place goal name rest node hdir hpass hgoes hnode hlink hasked _ ih =>
    rw [FileTree.walkLinks_eq] at ih ⊢
    rw [walkWith_of_passable hdir hpass hgoes, hnode]
    have hfine : ¬ (purpose = .locate ∧ asksDir rest = true
        ∧ pathLimit < depth (name :: place) + 1) :=
      fun h => Nat.not_lt.mpr (hasked h.1 h.2.1) h.2.2
    cases node with
    | link target => exact absurd rfl (hlink target)
    | dir => exact (if_neg hfine).trans ih
    | file data executable => exact (if_neg hfine).trans ih
  | lacking hdir hpass hgoes hnode hlast =>
    rw [FileTree.walkLinks_eq, walkWith_of_passable hdir hpass hgoes, hnode]
    exact if_pos hlast

/-- The walks that get through are those of the tree. -/
theorem walkLinks_eq_ok_iff :
    walkLinks t purpose links place segments = .ok goal
      ↔ Leads t purpose links place segments goal :=
  ⟨leads_of_walkLinks, Leads.walkLinks_eq⟩

/-! ## What a walk is for -/

/-- What the name has to be does not depend on what the walk is for. -/
theorem Passable.change {purpose' : Purpose} (h : Passable purpose place name rest)
    (hwritten : purpose' = .write → IsLast rest → rest = [])
    (hdepth : purpose' = .locate → depth (name :: place) ≤ pathLimit) :
    Passable purpose' place name rest :=
  { ne_empty := h.ne_empty
    ne_here := h.ne_here
    ne_up := h.ne_up
    size_le := h.size_le
    written := hwritten
    depth_le := hdepth }

theorem Passable.find (h : Passable purpose place name rest) : Passable .find place name rest :=
  h.change nofun nofun

/-- Where something is to be found, every link is followed. -/
theorem Leads.follow_find {target : String} (hdir : t.isDir place = true)
    (hpass : Passable .find place name rest) (hnode : t.node? (name :: place) = some (.link target))
    (h : Leads t .find links (start place target) (pieces '/' target ++ rest) goal) :
    Leads t .find (links + 1) place (name :: rest) goal :=
  .follow hdir hpass nofun hnode h

/-- Where something is to be found, every directory is entered. -/
theorem Leads.enter_find {node : Node} (hdir : t.isDir place = true)
    (hpass : Passable .find place name rest) (hnode : t.node? (name :: place) = some node)
    (hlink : ∀ target, node ≠ .link target) (h : Leads t .find links (name :: place) rest goal) :
    Leads t .find links place (name :: rest) goal :=
  .enter hdir hpass nofun hnode hlink nofun h

theorem Leads.lacking_find (hdir : t.isDir place = true) (hpass : Passable .find place name rest)
    (hnode : t.node? (name :: place) = none) (hlast : IsLast rest) :
    Leads t .find links place (name :: rest) (name :: place) :=
  .lacking hdir hpass nofun hnode hlast

/-- Where something can be written or told, it can be found. -/
theorem Leads.find (h : Leads t purpose links place segments goal) (hpurpose : purpose ≠ .makeDir) :
    Leads t .find links place segments goal := by
  induction h with
  | done => exact .done
  | stay hdir hname _ ih => exact .stay hdir hname ih
  | up hdir _ ih => exact .up hdir ih
  | make _ _ _ hmake => exact absurd hmake hpurpose
  | follow hdir hpass _ hnode _ ih => exact .follow_find hdir hpass.find hnode ih
  | enter hdir hpass _ hnode hlink _ _ ih => exact .enter_find hdir hpass.find hnode hlink ih
  | lacking hdir hpass _ hnode hlast => exact .lacking_find hdir hpass.find hnode hlast

theorem getLast?_of_isLast (hlast : IsLast rest) (hrest : rest ≠ []) :
    rest.getLast? = some "" := by
  rw [List.getLast?_eq_some_getLast hrest]
  have hempty := List.all_eq_true.mp hlast _ (List.getLast_mem hrest)
  exact congrArg some (String.isEmpty_iff.mp hempty)

theorem getLast?_of_cons (hname : name ≠ "") (h : (name :: rest).getLast? = some "") :
    rest.getLast? = some "" := by
  cases rest with
  | nil => exact absurd (Option.some.inj h) hname
  | cons next rest => exact h

/-- Behind a slash there is no file. -/
theorem Leads.not_file_of_slash (h : Leads t .find links place segments goal)
    (hslash : segments.getLast? = some "") (data : ByteArray) (executable : Bool) :
    t.node? goal ≠ some (.file data executable) := by
  induction h with
  | done => cases hslash
  | @stay links place goal name rest hdir hname h ih =>
    cases rest with
    | nil =>
      cases h
      intro hfile
      rw [isDir, hfile] at hdir
      cases hdir
    | cons next rest => exact ih hslash
  | up hdir h ih => exact ih (getLast?_of_cons (by decide) hslash)
  | make _ _ _ hmake => cases hmake
  | follow hdir hpass _ hnode _ ih =>
    exact ih (by rw [List.getLast?_append, getLast?_of_cons hpass.ne_empty hslash, Option.some_or])
  | enter hdir hpass _ hnode hlink _ _ ih => exact ih (getLast?_of_cons hpass.ne_empty hslash)
  | lacking hdir hpass _ hnode hlast =>
    rw [hnode]
    exact nofun

theorem Passable.write (h : Passable .find place name rest)
    (hslash : rest.getLast? ≠ some "") : Passable .write place name rest :=
  h.change (fun _ hlast =>
    Classical.byContradiction fun hrest => hslash (getLast?_of_isLast hlast hrest)) nofun

/-- A file that is found can be written. -/
theorem Leads.write {data : ByteArray} {executable : Bool}
    (h : Leads t .find links place segments goal)
    (hfile : t.node? goal = some (.file data executable)) :
    Leads t .write links place segments goal := by
  induction h with
  | done => exact .done
  | stay hdir hname _ ih => exact .stay hdir hname (ih hfile)
  | up hdir _ ih => exact .up hdir (ih hfile)
  | make _ _ _ hmake => cases hmake
  | follow hdir hpass _ hnode h ih =>
    refine .follow hdir (hpass.write fun hslash => ?_) nofun hnode (ih hfile)
    exact h.not_file_of_slash (by rw [List.getLast?_append, hslash, Option.some_or]) _ _ hfile
  | enter hdir hpass _ hnode hlink _ h ih =>
    refine .enter hdir (hpass.write fun hslash => ?_) nofun hnode hlink nofun (ih hfile)
    exact h.not_file_of_slash hslash _ _ hfile
  | lacking hdir hpass _ hnode _ =>
    rw [hnode] at hfile
    cases hfile

/-! ## Places that can be told -/

/-- No walk for telling a place gets too far down. -/
theorem Leads.depth_le (h : Leads t .locate links place segments goal)
    (hplace : depth place ≤ pathLimit) : depth goal ≤ pathLimit := by
  induction h with
  | done => exact hplace
  | stay _ _ _ ih => exact ih hplace
  | @up links place goal rest _ _ ih =>
    refine ih (Nat.le_trans ?_ hplace)
    cases place with
    | nil => exact Nat.le_refl _
    | cons name place =>
      show depth place ≤ depth place + 1 + name.utf8ByteSize
      omega
  | make _ _ _ hmake => cases hmake
  | follow _ _ _ _ _ ih =>
    refine ih ?_
    rw [start]
    split
    · exact Nat.zero_le _
    · exact hplace
  | enter _ hpass _ _ _ _ _ ih => exact ih (hpass.depth_le rfl)
  | lacking _ hpass _ _ _ => exact hpass.depth_le rfl

/-- Every place of a tree can be told, with a slash behind it. -/
def Shallow (t : FileTree) : Prop := ∀ entry ∈ t.nodes, depth entry.1 < pathLimit

instance (t : FileTree) : Decidable t.Shallow :=
  inferInstanceAs (Decidable (∀ entry ∈ t.nodes, depth entry.1 < pathLimit))

theorem mem_nodes_of_node? {node : Node} (h : t.node? (name :: place) = some node) :
    (name :: place, node) ∈ t.nodes := by
  obtain ⟨before, after, hnodes, -⟩ := List.lookup_eq_some_iff.mp h
  rw [hnodes]
  exact List.mem_append_right _ List.mem_cons_self

theorem Shallow.depth_lt {node : Node} (h : t.Shallow)
    (hnode : t.node? (name :: place) = some node) : depth (name :: place) < pathLimit :=
  h (name :: place, node) (mem_nodes_of_node? hnode)

theorem Passable.locate (h : Passable .find place name rest)
    (hdepth : depth (name :: place) < pathLimit) : Passable .locate place name rest :=
  h.change nofun fun _ => Nat.le_of_lt hdepth

/-- What is found in a tree that is nowhere too deep can be told. -/
theorem Leads.locate (h : Leads t .find links place segments goal) (hshallow : t.Shallow)
    (hgoal : (t.node? goal).isSome) : Leads t .locate links place segments goal := by
  induction h with
  | done => exact .done
  | stay hdir hname _ ih => exact .stay hdir hname (ih hgoal)
  | up hdir _ ih => exact .up hdir (ih hgoal)
  | make _ _ _ hmake => cases hmake
  | follow hdir hpass _ hnode _ ih =>
    exact .follow hdir (hpass.locate (hshallow.depth_lt hnode)) nofun hnode (ih hgoal)
  | enter hdir hpass _ hnode hlink _ _ ih =>
    have hdepth := hshallow.depth_lt hnode
    exact .enter hdir (hpass.locate hdepth) nofun hnode hlink (fun _ _ => hdepth) (ih hgoal)
  | lacking hdir hpass _ hnode _ =>
    rw [hnode] at hgoal
    cases hgoal

/-! ## Walks once a file is written -/

/-- A file can be put at a place: there is nothing, or a file. -/
def Writable (t : FileTree) (place : Location) : Prop :=
  t.node? place = none ∨ ∃ data executable, t.node? place = some (.file data executable)

theorem Writable.ne {spot : Location} {node : Node} (h : t.Writable spot)
    (hnode : t.node? place = some node) (hfile : ∀ data executable, node ≠ .file data executable) :
    place ≠ spot := by
  rintro rfl
  rcases h with hnone | ⟨data, executable, hold⟩
  · rw [hnode] at hnone
    cases hnone
  · exact hfile data executable (Option.some.inj (hnode.symm.trans hold))

theorem Writable.ne_root {spot : Location} (h : t.Writable spot) : spot ≠ [] := by
  rintro rfl
  have hroot : t.node? [] = some .dir := rfl
  exact h.ne hroot nofun rfl

theorem node?_of_isDir (h : t.isDir place = true) : t.node? place = some .dir := by
  rw [isDir] at h
  split at h
  · assumption
  · cases h

theorem isDir_of_node? (h : t.node? place = some .dir) : t.isDir place = true := by
  rw [isDir, h]

/-- What is no file stays when a file is written. -/
theorem Writable.node?_put {spot : Location} {node file : Node} (h : t.Writable spot)
    (hnode : t.node? place = some node) (hfile : ∀ data executable, node ≠ .file data executable) :
    (t.put spot file).node? place = some node := by
  rw [FileTree.node?_put t h.ne_root, if_neg (h.ne hnode hfile), hnode]

theorem Writable.isDir_put {spot : Location} {file : Node} (h : t.Writable spot)
    (hdir : t.isDir place = true) : (t.put spot file).isDir place = true :=
  isDir_of_node? (h.node?_put (node?_of_isDir hdir) nofun)

/-- Where a file can be written, it can be written when another one has been. -/
theorem Leads.put {spot : Location} {data : ByteArray} {executable : Bool}
    (h : Leads t .write links place segments goal) (hspot : t.Writable spot) :
    Leads (t.put spot (.file data executable)) .write links place segments goal := by
  have hput : ∀ other, (t.put spot (.file data executable)).node? other
      = if other = spot then some (.file data executable) else t.node? other :=
    fun other => FileTree.node?_put t hspot.ne_root other _
  induction h with
  | done => exact .done
  | stay hdir hname _ ih => exact .stay (hspot.isDir_put hdir) hname ih
  | up hdir _ ih => exact .up (hspot.isDir_put hdir) ih
  | make _ _ _ hmake => cases hmake
  | follow hdir hpass _ hnode _ ih =>
    exact .follow (hspot.isDir_put hdir) hpass nofun (hspot.node?_put hnode nofun) ih
  | @enter links place goal name rest node hdir hpass _ hnode hlink _ _ ih =>
    by_cases hhere : name :: place = spot
    · exact .enter (hspot.isDir_put hdir) hpass nofun ((hput _).trans (if_pos hhere)) nofun nofun ih
    · exact .enter (hspot.isDir_put hdir) hpass nofun
        ((hput _).trans ((if_neg hhere).trans hnode)) hlink nofun ih
  | @lacking links place name rest hdir hpass _ hnode hlast =>
    by_cases hhere : name :: place = spot
    · -- the file is there now, and nothing is behind its name
      obtain rfl := hpass.written rfl hlast
      exact .enter (hspot.isDir_put hdir) hpass nofun ((hput _).trans (if_pos hhere)) nofun nofun
        .done
    · exact .lacking (hspot.isDir_put hdir) hpass nofun
        ((hput _).trans ((if_neg hhere).trans hnode)) hlast

/-! ## Paths -/

variable {path : Path}

theorem lead_eq_ok_iff :
    t.lead purpose path = .ok goal
      ↔ '\x00' ∉ path.text.toList ∧ path.text ≠ ""
        ∧ Leads t purpose linkLimit (start t.here path.text) (pieces '/' path.text) goal := by
  rw [lead, ← walkLinks_eq_ok_iff]
  by_cases hnul : '\x00' ∈ path.text.toList
  · simp [hnul]
  · by_cases hempty : path.text = ""
    · simp [hempty]
    · rw [if_neg (by simpa using hnul), if_neg (by simpa using hempty)]
      cases walkLinks t purpose linkLimit (start t.here path.text) (pieces '/' path.text) with
      | error e => exact ⟨nofun, fun h => nomatch h.2.2⟩
      | ok place =>
        exact ⟨fun h => ⟨hnul, hempty, congrArg Except.ok (Except.ok.inj h)⟩,
          fun h => congrArg Except.ok (Except.ok.inj h.2.2)⟩

/-- Where a path leads for one purpose in one tree it leads for another in another one, if the
walks do. -/
theorem lead_of_leads {purpose' : Purpose} (h : t.lead purpose path = .ok goal)
    (hhere : t'.here = t.here)
    (hleads : ∀ {place : Location} {segments : List String},
      Leads t purpose linkLimit place segments goal →
        Leads t' purpose' linkLimit place segments goal) :
    t'.lead purpose' path = .ok goal := by
  obtain ⟨hnul, hempty, hwalk⟩ := lead_eq_ok_iff.mp h
  exact lead_eq_ok_iff.mpr ⟨hnul, hempty, hhere ▸ hleads hwalk⟩

theorem walk_eq_ok_iff :
    t.walk purpose path = .ok goal
      ↔ path.text.utf8ByteSize ≤ pathLimit ∧ t.lead purpose path = .ok goal := by
  rw [walk]
  by_cases hlong : pathLimit < path.text.utf8ByteSize
  · by_cases hnul : '\x00' ∈ path.text.toList
    · simp [hnul, lead]
    · simp [hlong, hnul, Nat.not_le.mpr hlong]
  · simp [hlong, Nat.le_of_not_lt hlong]

/-- A path without a fault of its own leads where its walk does. -/
theorem walk_eq_of_sound (hnul : '\x00' ∉ path.text.toList)
    (hlong : ¬ pathLimit < path.text.utf8ByteSize) (hempty : path.text ≠ "") :
    t.walk purpose path
      = (walkLinks t purpose linkLimit (start t.here path.text) (pieces '/' path.text)).mapError
          OsError.toIoError := by
  rw [walk, if_neg fun h => hlong h.1, lead, if_neg (by simpa using hnul),
    if_neg (by simpa using hempty)]

theorem find_eq_ok_iff {node : Node} :
    t.find path = .ok (place, node)
      ↔ t.walk .find path = .ok place ∧ t.node? place = some node := by
  rw [FileTree.find]
  cases hwalk : t.walk .find path with
  | error e => simp [bind, Except.bind]
  | ok found =>
    simp only [bind, Except.bind, Except.ok.injEq]
    constructor
    · intro h
      split at h
      · rename_i there hnode
        obtain ⟨rfl, rfl⟩ := Prod.mk.inj (Except.ok.inj h)
        exact ⟨rfl, hnode⟩
      · cases h
    · rintro ⟨rfl, hnode⟩
      rw [hnode]

theorem canonical_eq_some_iff :
    t.canonical path = some place ↔ t.lead .locate path = .ok place ∧ (t.node? place).isSome := by
  rw [canonical]
  cases hlead : t.lead .locate path with
  | error e => simp
  | ok found =>
    simp only [Except.ok.injEq, Option.map_eq_some_iff, Option.isSome_iff_exists]
    constructor
    · rintro ⟨node, hnode, rfl⟩
      exact ⟨rfl, node, hnode⟩
    · rintro ⟨rfl, node, hnode⟩
      exact ⟨node, hnode, rfl⟩

/-- What can be written can be found, once it is there. -/
theorem find_of_walk_write {node : Node} (h : t.walk .write path = .ok goal)
    (hnode : t.node? goal = some node) : t.find path = .ok (goal, node) := by
  obtain ⟨hshort, hlead⟩ := walk_eq_ok_iff.mp h
  have hfind := lead_of_leads hlead rfl fun hleads => hleads.find nofun
  exact find_eq_ok_iff.mpr ⟨walk_eq_ok_iff.mpr ⟨hshort, hfind⟩, hnode⟩

/-- A file that is found is written where it is. -/
theorem walk_write_of_find {data : ByteArray} {executable : Bool}
    (h : t.find path = .ok (goal, .file data executable)) : t.walk .write path = .ok goal := by
  obtain ⟨hwalk, hfile⟩ := find_eq_ok_iff.mp h
  obtain ⟨hshort, hlead⟩ := walk_eq_ok_iff.mp hwalk
  obtain ⟨hnul, hempty, hleads⟩ := lead_eq_ok_iff.mp hlead
  exact walk_eq_ok_iff.mpr ⟨hshort, lead_eq_ok_iff.mpr ⟨hnul, hempty, hleads.write hfile⟩⟩

theorem walk_write_put {spot : Location} (h : t.walk .write path = .ok goal)
    (hspot : t.Writable spot) (data : ByteArray) (executable : Bool) :
    (t.put spot (.file data executable)).walk .write path = .ok goal := by
  obtain ⟨hshort, hlead⟩ := walk_eq_ok_iff.mp h
  exact walk_eq_ok_iff.mpr ⟨hshort, lead_of_leads hlead rfl fun hleads => hleads.put hspot⟩

/-- The place that is told of a path is the one that it leads to. -/
theorem eq_of_canonical {other : Location} {node : Node} (h : t.canonical path = some place)
    (hfind : t.find path = .ok (other, node)) : place = other := by
  have htold := lead_of_leads (canonical_eq_some_iff.mp h).1 rfl fun hleads => hleads.find nofun
  have hfound := (walk_eq_ok_iff.mp (find_eq_ok_iff.mp hfind).1).2
  exact Except.ok.inj (htold.symm.trans hfound)

/-- In a tree that is nowhere too deep, the place of what is found can be told. -/
theorem canonical_of_find {node : Node} (hshallow : t.Shallow)
    (h : t.find path = .ok (place, node)) : t.canonical path = some place := by
  obtain ⟨hwalk, hnode⟩ := find_eq_ok_iff.mp h
  obtain ⟨hnul, hempty, hleads⟩ := lead_eq_ok_iff.mp (walk_eq_ok_iff.mp hwalk).2
  have hsome : (t.node? place).isSome := by rw [hnode]; rfl
  exact canonical_eq_some_iff.mpr
    ⟨lead_eq_ok_iff.mpr ⟨hnul, hempty, hleads.locate hshallow hsome⟩, hsome⟩

/-- What is too far down is found, and its place cannot be told. -/
theorem canonical_eq_none_of_depth {node : Node} (hhere : depth t.here ≤ pathLimit)
    (h : t.find path = .ok (place, node)) (hdeep : pathLimit < depth place) :
    t.canonical path = none := by
  refine Option.eq_none_iff_forall_ne_some.mpr fun told htold => ?_
  obtain rfl := eq_of_canonical htold h
  obtain ⟨-, -, hleads⟩ := lead_eq_ok_iff.mp (canonical_eq_some_iff.mp htold).1
  have hstart : depth (start t.here path.text) ≤ pathLimit := by
    rw [start]
    split
    · exact Nat.zero_le _
    · exact hhere
  exact Nat.not_lt.mpr (hleads.depth_le hstart) hdeep

end FileTree
end Storage
end ToolPack
