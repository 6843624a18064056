import ToolPack.Proofs.Path
import ToolPack.Proofs.Storage.Walk

/-!
# Going on from a directory

A path that goes on behind a directory is walked to the directory first, and from there like any
other walk, with as many links as are left.  So what is at the end of a path below a directory is
known from the directory and the name.

## What is here

* `Leads.walkLinks_append`: a walk through a directory, `Leads.split`: and the other way round;
* `find_dir_of_find_join`, `walk_join`, `walk_join_of_no_link`: the paths of a directory and of a
  name below it.
-/

set_option autoImplicit false

namespace ToolPack
namespace Storage
namespace FileTree

open Text ToolPack.Path

variable {t : FileTree} {links : Nat} {place goal mid : Location} {name : String}
  {front rest segments : List String}

/-! ## Walks -/

/-- What the name has to be does not depend on what is behind it, where nothing is written. -/
theorem Passable.before (h : Passable .find place name rest) (more : List String) :
    Passable .find place name more :=
  { ne_empty := h.ne_empty
    ne_here := h.ne_here
    ne_up := h.ne_up
    size_le := h.size_le
    written := nofun
    depth_le := nofun }

/-- Walking on from a place takes a directory there. -/
theorem Leads.isDir {purpose : Purpose} (h : Leads t purpose links place (name :: rest) goal) :
    t.isDir place = true := by
  cases h <;> assumption

/-- A walk that gets to a directory goes on from there, with the links that are left. -/
theorem Leads.walkLinks_append (h : Leads t .find links place front mid)
    (hmid : t.isDir mid = true) :
    ∃ fewer ≤ links, ∀ back,
      walkLinks t .find links place (front ++ back) = walkLinks t .find fewer mid back := by
  induction h with
  | done => exact ⟨_, Nat.le_refl _, fun back => rfl⟩
  | stay hdir hname _ ih =>
    obtain ⟨fewer, hle, hback⟩ := ih hmid
    refine ⟨fewer, hle, fun back => ?_⟩
    rw [← hback, FileTree.walkLinks_eq, List.cons_append, walkWith, if_neg (by simp [hdir]),
      if_pos hname]
  | up hdir _ ih =>
    obtain ⟨fewer, hle, hback⟩ := ih hmid
    refine ⟨fewer, hle, fun back => ?_⟩
    rw [← hback, FileTree.walkLinks_eq, List.cons_append, walkWith, if_neg (by simp [hdir]),
      if_neg (by decide), if_pos rfl]
  | make _ _ _ hmake => cases hmake
  | follow hdir hpass _ hnode _ ih =>
    obtain ⟨fewer, hle, hback⟩ := ih hmid
    refine ⟨fewer, Nat.le_succ_of_le hle, fun back => ?_⟩
    rw [← hback, FileTree.walkLinks_eq, List.cons_append, walkWith_find hdir (hpass.before _),
      hnode, List.append_assoc]
    rfl
  | @enter links place goal name rest node hdir hpass _ hnode hlink _ _ ih =>
    obtain ⟨fewer, hle, hback⟩ := ih hmid
    refine ⟨fewer, hle, fun back => ?_⟩
    rw [← hback, FileTree.walkLinks_eq, List.cons_append, walkWith_find hdir (hpass.before _),
      hnode]
    cases node with
    | link target => exact absurd rfl (hlink target)
    | dir => rfl
    | file data executable => rfl
  | lacking _ _ _ hnode _ =>
    rw [node?_of_isDir hmid] at hnode
    cases hnode

/-- A walk to something gets to a place on its way first. -/
theorem Leads.split {back : List String} (h : Leads t .find links place (front ++ back) goal)
    (hgoal : (t.node? goal).isSome) :
    ∃ mid fewer, Leads t .find links place front mid ∧ Leads t .find fewer mid back goal := by
  generalize hsegments : front ++ back = segments at h
  induction h generalizing front with
  | done =>
    obtain ⟨rfl, rfl⟩ := List.append_eq_nil_iff.mp hsegments
    exact ⟨_, 0, .done, .done⟩
  | @stay links place goal name rest hdir hname h ih =>
    cases front with
    | nil =>
      obtain rfl : back = _ := hsegments
      exact ⟨place, links, .done, .stay hdir hname h⟩
    | cons first front =>
      obtain ⟨rfl, hrest⟩ := List.cons.inj hsegments
      obtain ⟨mid, fewer, hfront, hback⟩ := ih hgoal hrest
      exact ⟨mid, fewer, .stay hdir hname hfront, hback⟩
  | @up links place goal rest hdir h ih =>
    cases front with
    | nil =>
      obtain rfl : back = _ := hsegments
      exact ⟨place, links, .done, .up hdir h⟩
    | cons first front =>
      obtain ⟨rfl, hrest⟩ := List.cons.inj hsegments
      obtain ⟨mid, fewer, hfront, hback⟩ := ih hgoal hrest
      exact ⟨mid, fewer, .up hdir hfront, hback⟩
  | make _ _ _ hmake => cases hmake
  | @follow links place goal name target rest hdir hpass _ hnode h ih =>
    cases front with
    | nil =>
      obtain rfl : back = _ := hsegments
      exact ⟨place, links + 1, .done, .follow_find hdir hpass hnode h⟩
    | cons first front =>
      obtain ⟨rfl, rfl⟩ := List.cons.inj hsegments
      obtain ⟨mid, fewer, hfront, hback⟩ := ih hgoal (List.append_assoc _ _ _)
      exact ⟨mid, fewer, .follow_find hdir (hpass.before _) hnode hfront, hback⟩
  | @enter links place goal name rest node hdir hpass _ hnode hlink _ h ih =>
    cases front with
    | nil =>
      obtain rfl : back = _ := hsegments
      exact ⟨place, links, .done, .enter_find hdir hpass hnode hlink h⟩
    | cons first front =>
      obtain ⟨rfl, rfl⟩ := List.cons.inj hsegments
      obtain ⟨mid, fewer, hfront, hback⟩ := ih hgoal rfl
      exact ⟨mid, fewer, .enter_find hdir (hpass.before _) hnode hlink hfront, hback⟩
  | lacking _ _ _ hnode _ =>
    rw [hnode] at hgoal
    cases hgoal

/-! ## Paths -/

variable {dir path : Path} {node : Node}

/-- What a name is put behind is the directory, with a slash. -/
theorem exists_front_join_empty (hdir : dir.text ≠ "") :
    ∃ front, (dir.join "").text = front ++ "/" ∧ (dir.text = front ∨ dir.text = front ++ "/") := by
  rw [join_empty]
  split
  · rename_i hopen
    rcases (Bool.or_eq_true _ _).mp hopen with hempty | hslash
    · exact absurd (String.isEmpty_iff.mp hempty) hdir
    · obtain ⟨front, hfront⟩ := endsInSlash_iff.mp hslash
      exact ⟨front, hfront, .inr hfront⟩
  · exact ⟨dir.text, rfl, .inl rfl⟩

/-- A name below a directory is walked behind what the directory is walked along; a slash behind the
directory makes no difference. -/
theorem pieces_join (hname : FileName name) (hdir : dir.text ≠ "") :
    ∃ front, pieces '/' (dir.join name).text = front ++ [name]
      ∧ (pieces '/' dir.text = front ∨ pieces '/' dir.text = front ++ [""]) := by
  obtain ⟨front, hfront, htext⟩ := exists_front_join_empty hdir
  refine ⟨pieces '/' front, ?_, ?_⟩
  · rw [join_not_rooted hname.not_rooted, hfront, pieces_append rfl,
      pieces_of_not_mem hname.noSlash]
  · have hslash : pieces '/' (front ++ "/" ++ "") = pieces '/' front ++ pieces '/' "" :=
      pieces_append rfl front ""
    rw [String.append_empty] at hslash
    rcases htext with htext | htext
    · exact .inl (by rw [htext])
    · exact .inr (by rw [htext, hslash]; rfl)

theorem start_join (hname : FileName name) (hdir : dir.text ≠ "") (place : Location) :
    start place (dir.join name).text = start place dir.text := by
  obtain ⟨front, hfront, htext⟩ := exists_front_join_empty hdir
  rw [join_not_rooted hname.not_rooted, hfront, start, start]
  rcases htext with htext | htext
  · rw [htext, String.append_assoc, isRooted_append (htext ▸ hdir)]
  · rw [isRooted_append (htext ▸ hdir), htext]

/-- A slash behind a directory leads nowhere else. -/
theorem walkLinks_slash (hmid : t.isDir mid = true) :
    walkLinks t .find links mid [""] = .ok mid :=
  (Leads.stay hmid (.inl rfl) .done).walkLinks_eq

/-- A directory that is got to is got to with a slash behind it. -/
theorem leads_slash_iff (hmid : t.isDir mid = true) :
    Leads t .find links place (front ++ [""]) mid ↔ Leads t .find links place front mid := by
  constructor
  · intro h
    obtain ⟨other, fewer, hfront, hslash⟩ := h.split (by rw [node?_of_isDir hmid]; rfl)
    have hsame := (walkLinks_slash hslash.isDir).symm.trans hslash.walkLinks_eq
    obtain rfl := Except.ok.inj hsame
    exact hfront
  · intro h
    obtain ⟨fewer, -, hback⟩ := h.walkLinks_append hmid
    exact walkLinks_eq_ok_iff.mp ((hback [""]).trans (walkLinks_slash hmid))

/-- The path of a name starts with the one of its directory. -/
theorem exists_text_join (hname : FileName name) (dir : Path) :
    ∃ more, (dir.join name).text = dir.text ++ more := by
  rw [join, if_neg (by simp [hname.not_rooted])]
  split
  · exact ⟨name, rfl⟩
  · exact ⟨"/" ++ name, String.append_assoc⟩

theorem not_mem_text_join {c : Char} (hdir : c ∉ dir.text.toList) (hname : c ∉ name.toList)
    (hslash : c ≠ '/') : c ∉ (dir.join name).text.toList := by
  rw [join]
  split
  · exact hname
  · split <;> simp [hdir, hname, hslash]

/-- The directory of what is found by a name is found. -/
theorem find_dir_of_find_join (hname : FileName name) (hdir : dir.text ≠ "")
    (h : t.find (dir.join name) = .ok (goal, node)) : ∃ mid, t.find dir = .ok (mid, .dir) := by
  obtain ⟨hwalk, hnode⟩ := find_eq_ok_iff.mp h
  obtain ⟨hshort, hlead⟩ := walk_eq_ok_iff.mp hwalk
  obtain ⟨hnul, -, hleads⟩ := lead_eq_ok_iff.mp hlead
  obtain ⟨front, hjoin, hpieces⟩ := pieces_join hname hdir
  rw [hjoin, start_join hname hdir] at hleads
  obtain ⟨mid, fewer, hfront, hback⟩ := hleads.split (by rw [hnode]; rfl)
  have hmid := hback.isDir
  have hleads : Leads t .find linkLimit (start t.here dir.text) (pieces '/' dir.text) mid := by
    rcases hpieces with hpieces | hpieces
    · rwa [hpieces]
    · rw [hpieces]
      exact (leads_slash_iff hmid).mpr hfront
  obtain ⟨more, htext⟩ := exists_text_join hname dir
  rw [htext, String.utf8ByteSize_append] at hshort
  rw [htext, String.toList_append, List.mem_append, not_or] at hnul
  exact ⟨mid, find_eq_ok_iff.mpr ⟨walk_eq_ok_iff.mpr ⟨Nat.le_trans (Nat.le_add_right _ _) hshort,
    lead_eq_ok_iff.mpr ⟨hnul.1, hdir, hleads⟩⟩, node?_of_isDir hmid⟩⟩

/-- A name below a directory that is found leads on from there by one step. -/
theorem walk_join (hname : FileName name) (h : t.find dir = .ok (mid, .dir))
    (hnul : '\x00' ∉ name.toList) (hshort : (dir.join name).text.utf8ByteSize ≤ pathLimit) :
    ∃ fewer ≤ linkLimit, t.walk .find (dir.join name)
      = (walkLinks t .find fewer mid [name]).mapError OsError.toIoError := by
  obtain ⟨hwalk, hnode⟩ := find_eq_ok_iff.mp h
  obtain ⟨-, hlead⟩ := walk_eq_ok_iff.mp hwalk
  obtain ⟨hdirnul, hdir, hleads⟩ := lead_eq_ok_iff.mp hlead
  obtain ⟨front, hjoin, hpieces⟩ := pieces_join hname hdir
  have hmid := isDir_of_node? hnode
  have hfront : Leads t .find linkLimit (start t.here dir.text) front mid := by
    rcases hpieces with hpieces | hpieces
    · rwa [hpieces] at hleads
    · rw [hpieces] at hleads
      exact (leads_slash_iff hmid).mp hleads
  obtain ⟨fewer, hle, hback⟩ := hfront.walkLinks_append hmid
  have hempty : (dir.join name).text ≠ "" := join_ne_empty dir hname.ne_empty
  refine ⟨fewer, hle, ?_⟩
  rw [← hback, ← hjoin, ← start_join hname hdir]
  exact walk_eq_of_sound (not_mem_text_join hdirnul hnul (by decide)) (Nat.not_lt.mpr hshort) hempty

/-- A name that is no link is where it says, whether something is there or not. -/
theorem walk_join_of_no_link (hname : FileName name) (h : t.find dir = .ok (mid, .dir))
    (hnul : '\x00' ∉ name.toList) (hshort : (dir.join name).text.utf8ByteSize ≤ pathLimit)
    (hsize : name.utf8ByteSize ≤ segmentLimit)
    (hlink : ∀ target, t.node? (name :: mid) ≠ some (.link target)) :
    t.walk .find (dir.join name) = .ok (name :: mid) := by
  have hdir := isDir_of_node? (find_eq_ok_iff.mp h).2
  have hpass : Passable .find mid name [] :=
    ⟨hname.ne_empty, hname.ne_here, hname.ne_up, hsize, nofun, nofun⟩
  obtain ⟨fewer, -, hwalk⟩ := walk_join hname h hnul hshort
  have hleads : Leads t .find fewer mid [name] (name :: mid) := by
    cases hnode : t.node? (name :: mid) with
    | none => exact .lacking_find hdir hpass hnode rfl
    | some node =>
      refine .enter_find hdir hpass hnode (fun target hnode' => ?_) .done
      exact hlink target (hnode.trans (congrArg some hnode'))
  rw [hwalk, hleads.walkLinks_eq]
  rfl

end FileTree
end Storage
end ToolPack
