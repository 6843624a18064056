import ToolPack.Proofs.Storage.Descent

/-!
# What is in the way of a path

A path that leads to no file may lead nowhere because something is lacking on the way, and then no
file is there.  It may as well be that something is in the way: a file where a directory should be,
a name that is too long, links that go on for ever.  No file is there either, but the system reports
it in other words.

## What is here

* `Blocked`: walks that do not get through because something is in the way, one rule for each thing
  that can be; `blocked_iff`: they are those that fail otherwise than by finding something lacking;
* `Obstructed`: paths that something is in the way of; `obstructed_iff`: looking for what is at
  their end fails in such a way; `not_obstructed_join`: a name below a directory is none of them,
  unless it is too long or a link;
* `IsFile`, `fileSize_cases`: what asking for the size of a file is answered with.
-/

set_option autoImplicit false

namespace ToolPack
namespace Storage
namespace FileTree

open Text ToolPack.Path

variable {t : FileTree} {links : Nat} {place : Location} {name target : String}
  {rest segments : List String} {e : OsError}

/-! ## Walks that are blocked -/

/-- A walk to what is at the end of a path does not get through, and not because something is
lacking on its way. -/
inductive Blocked (t : FileTree) : Nat → Location → List String → Prop
  /-- What is no directory cannot be walked through. -/
  | through {links : Nat} {place : Location} {name : String} {rest : List String}
      (hdir : t.isDir place = false) : Blocked t links place (name :: rest)
  | tooLong {links : Nat} {place : Location} {name : String} {rest : List String}
      (hdir : t.isDir place = true) (hlong : segmentLimit < name.utf8ByteSize) :
      Blocked t links place (name :: rest)
  /-- Enough links have been followed. -/
  | loop {place : Location} {name target : String} {rest : List String}
      (hdir : t.isDir place = true) (hpass : Passable .find place name rest)
      (hnode : t.node? (name :: place) = some (.link target)) : Blocked t 0 place (name :: rest)
  | stay {links : Nat} {place : Location} {name : String} {rest : List String}
      (hdir : t.isDir place = true) (hname : name = "" ∨ name = ".")
      (h : Blocked t links place rest) : Blocked t links place (name :: rest)
  | up {links : Nat} {place : Location} {rest : List String} (hdir : t.isDir place = true)
      (h : Blocked t links place.tail rest) : Blocked t links place (".." :: rest)
  | follow {links : Nat} {place : Location} {name target : String} {rest : List String}
      (hdir : t.isDir place = true) (hpass : Passable .find place name rest)
      (hnode : t.node? (name :: place) = some (.link target))
      (h : Blocked t links (start place target) (pieces '/' target ++ rest)) :
      Blocked t (links + 1) place (name :: rest)
  | enter {links : Nat} {place : Location} {name : String} {rest : List String} {node : Node}
      (hdir : t.isDir place = true) (hpass : Passable .find place name rest)
      (hnode : t.node? (name :: place) = some node) (hlink : ∀ target, node ≠ .link target)
      (h : Blocked t links (name :: place) rest) : Blocked t links place (name :: rest)

theorem passable_find (hname : ¬ (name = "" ∨ name = ".")) (hup : name ≠ "..")
    (hsize : ¬ segmentLimit < name.utf8ByteSize) : Passable .find place name rest :=
  { ne_empty := fun hempty => hname (.inl hempty)
    ne_here := fun hhere => hname (.inr hhere)
    ne_up := hup
    size_le := Nat.le_of_not_lt hsize
    written := nofun
    depth_le := nofun }

theorem walkWith_of_tooLong {follow : Location → String → List String → Except OsError Location}
    (hdir : t.isDir place = true) (hlong : segmentLimit < name.utf8ByteSize) :
    walkWith t .find follow place (name :: rest) = .error .nameTooLong := by
  have hne : ∀ other : String, other.utf8ByteSize ≤ segmentLimit → name ≠ other := by
    rintro other hshort rfl
    exact Nat.not_lt.mpr hshort hlong
  simp [walkWith, hdir, hne "" (by decide), hne "." (by decide), hne ".." (by decide), hlong]

theorem blocked_of_walkWith {follow : Location → String → List String → Except OsError Location}
    (he : e ≠ .noEntry)
    (hfollow : ∀ {place : Location} {name target : String} {rest : List String},
      t.isDir place = true → Passable .find place name rest →
        t.node? (name :: place) = some (.link target) → follow place target rest = .error e →
          Blocked t links place (name :: rest))
    (h : walkWith t .find follow place segments = .error e) : Blocked t links place segments := by
  induction segments generalizing place with
  | nil => cases h
  | cons name rest ih =>
    cases hdir : t.isDir place with
    | false => exact .through hdir
    | true =>
      by_cases hname : name = "" ∨ name = "."
      · rw [walkWith, if_neg (by simp [hdir]), if_pos hname] at h
        exact .stay hdir hname (ih h)
      by_cases hup : name = ".."
      · subst hup
        rw [walkWith, if_neg (by simp [hdir]), if_neg hname, if_pos rfl] at h
        exact .up hdir (ih h)
      by_cases hlong : segmentLimit < name.utf8ByteSize
      · exact .tooLong hdir hlong
      have hpass : Passable .find place name rest := passable_find hname hup hlong
      rw [walkWith_find hdir hpass] at h
      split at h
      · rename_i target hnode
        exact hfollow hdir hpass hnode h
      · rename_i node hlink hnode
        exact .enter hdir hpass hnode hlink (ih h)
      · split at h
        · cases h
        · exact absurd (Except.error.inj h).symm he

theorem blocked_of_walkLinks (he : e ≠ .noEntry)
    (h : walkLinks t .find links place segments = .error e) : Blocked t links place segments := by
  induction links generalizing place segments with
  | zero => exact blocked_of_walkWith he (fun hdir hpass hnode _ => .loop hdir hpass hnode) h
  | succ links ih =>
    exact blocked_of_walkWith he
      (fun hdir hpass hnode hnext => .follow hdir hpass hnode (ih hnext)) h

theorem Blocked.walkLinks_eq (h : Blocked t links place segments) :
    ∃ e, e ≠ .noEntry ∧ walkLinks t .find links place segments = .error e := by
  induction h with
  | through hdir =>
    exact ⟨.notDirectory, by decide, by rw [FileTree.walkLinks_eq]; simp [walkWith, hdir]⟩
  | tooLong hdir hlong =>
    exact ⟨.nameTooLong, by decide, by rw [FileTree.walkLinks_eq, walkWith_of_tooLong hdir hlong]⟩
  | loop hdir hpass hnode =>
    exact ⟨.linkLoop, by decide, by
      rw [FileTree.walkLinks_eq, walkWith_find hdir hpass, hnode]; rfl⟩
  | stay hdir hname _ ih =>
    obtain ⟨e, he, hwalk⟩ := ih
    refine ⟨e, he, ?_⟩
    rw [FileTree.walkLinks_eq] at hwalk ⊢
    rw [walkWith, if_neg (by simp [hdir]), if_pos hname, hwalk]
  | up hdir _ ih =>
    obtain ⟨e, he, hwalk⟩ := ih
    refine ⟨e, he, ?_⟩
    rw [FileTree.walkLinks_eq] at hwalk ⊢
    rw [walkWith, if_neg (by simp [hdir]), if_neg (by decide), if_pos rfl, hwalk]
  | follow hdir hpass hnode _ ih =>
    obtain ⟨e, he, hwalk⟩ := ih
    refine ⟨e, he, ?_⟩
    rw [FileTree.walkLinks_eq, walkWith_find hdir hpass, hnode]
    exact hwalk
  | @enter links place name rest node hdir hpass hnode hlink _ ih =>
    obtain ⟨e, he, hwalk⟩ := ih
    refine ⟨e, he, ?_⟩
    rw [FileTree.walkLinks_eq] at hwalk ⊢
    rw [walkWith_find hdir hpass, hnode]
    cases node with
    | link target => exact absurd rfl (hlink target)
    | dir => exact hwalk
    | file data executable => exact hwalk

/-- Something is in the way of a walk exactly if it fails, and not because something is lacking. -/
theorem blocked_iff :
    Blocked t links place segments
      ↔ ∃ e, e ≠ .noEntry ∧ walkLinks t .find links place segments = .error e :=
  ⟨Blocked.walkLinks_eq, fun ⟨_, he, h⟩ => blocked_of_walkLinks he h⟩

/-! ## Paths that something is in the way of -/

variable {path : Path}

/-- A path cannot be looked at to its end: it is none for the system, or its walk is blocked. -/
inductive Obstructed (t : FileTree) (path : Path) : Prop
  | nul (hnul : '\x00' ∈ path.text.toList)
  | long (hlong : pathLimit < path.text.utf8ByteSize)
  | blocked (hempty : path.text ≠ "")
      (h : Blocked t linkLimit (start t.here path.text) (pieces '/' path.text))

theorem kind_eq_notFound_iff : e.kind = .notFound ↔ e = .noEntry := by
  cases e <;> decide

/-- Nothing is found where nothing is, or where the walk does not get to. -/
theorem find_eq_error_iff {e : IoError} :
    t.find path = .error e
      ↔ t.walk .find path = .error e
        ∨ ∃ place, t.walk .find path = .ok place ∧ t.node? place = none
          ∧ e = OsError.noEntry.toIoError := by
  rw [FileTree.find]
  cases hwalk : t.walk .find path with
  | error other => simp [bind, Except.bind]
  | ok place =>
    simp only [bind, Except.bind, Except.ok.injEq, reduceCtorEq, false_or, exists_eq_left']
    cases hnode : t.node? place with
    | none => simp [eq_comm]
    | some node => simp

/-- Looking for what is at the end of an obstructed path fails, and nothing is said to be
lacking. -/
theorem Obstructed.find_eq (h : Obstructed t path) :
    ∃ e, t.find path = .error e ∧ e.kind ≠ .notFound := by
  by_cases hnul : '\x00' ∈ path.text.toList
  · exact ⟨nulError, find_eq_error_iff.mpr (.inl (by simp [walk, lead, hnul])), by decide⟩
  by_cases hlong : pathLimit < path.text.utf8ByteSize
  · exact ⟨OsError.nameTooLong.toIoError,
      find_eq_error_iff.mpr (.inl (by simp [walk, hnul, hlong])), by decide⟩
  cases h with
  | nul h => exact absurd h hnul
  | long h => exact absurd h hlong
  | blocked hempty h =>
    obtain ⟨e, he, hwalk⟩ := h.walkLinks_eq
    refine ⟨e.toIoError, find_eq_error_iff.mpr (.inl ?_),
      fun hkind => he (kind_eq_notFound_iff.mp hkind)⟩
    rw [walk_eq_of_sound hnul hlong hempty, hwalk]
    rfl

/-- Something is in the way of a path exactly if looking for what is at its end fails otherwise
than by finding something lacking. -/
theorem obstructed_iff :
    Obstructed t path ↔ ∃ e, t.find path = .error e ∧ e.kind ≠ .notFound := by
  refine ⟨Obstructed.find_eq, fun ⟨e, h, hkind⟩ => ?_⟩
  by_cases hnul : '\x00' ∈ path.text.toList
  · exact .nul hnul
  by_cases hlong : pathLimit < path.text.utf8ByteSize
  · exact .long hlong
  have hfails : t.walk .find path = .error e := by
    rcases find_eq_error_iff.mp h with hwalk | ⟨-, -, -, rfl⟩
    · exact hwalk
    · exact absurd rfl hkind
  by_cases hempty : path.text = ""
  · have hlacking : t.walk .find path = .error OsError.noEntry.toIoError := by
      simp [walk, lead, hempty, pathLimit]
    rw [hlacking] at hfails
    cases hfails
    exact absurd rfl hkind
  rw [walk_eq_of_sound hnul hlong hempty] at hfails
  cases hwalk : walkLinks t .find linkLimit (start t.here path.text) (pieces '/' path.text) with
  | ok place =>
    rw [hwalk] at hfails
    cases hfails
  | error other =>
    rw [hwalk] at hfails
    cases hfails
    exact .blocked hempty
      (blocked_of_walkLinks (fun hother => hkind (kind_eq_notFound_iff.mpr hother)) hwalk)

/-- Nothing is in the way of a name below a directory, unless it is too long or a link. -/
theorem not_obstructed_join {dir : Path} {mid : Location} (hname : FileName name)
    (h : t.find dir = .ok (mid, .dir)) (hnul : '\x00' ∉ name.toList)
    (hshort : (dir.join name).text.utf8ByteSize ≤ pathLimit)
    (hsize : name.utf8ByteSize ≤ segmentLimit)
    (hlink : ∀ target, t.node? (name :: mid) ≠ some (.link target)) :
    ¬ t.Obstructed (dir.join name) := by
  intro hobstructed
  obtain ⟨e, hfind, hkind⟩ := hobstructed.find_eq
  rcases find_eq_error_iff.mp hfind with hwalk | ⟨-, -, -, rfl⟩
  · rw [walk_join_of_no_link hname h hnul hshort hsize hlink] at hwalk
    cases hwalk
  · exact absurd rfl hkind

/-! ## Files -/

/-- A path leads to a file. -/
def IsFile (t : FileTree) (path : Path) : Prop :=
  ∃ place data executable, t.find path = .ok (place, .file data executable)

theorem fileSize_of_find {data : ByteArray} {executable : Bool}
    (h : t.find path = .ok (place, .file data executable)) :
    t.fileSize path = .ok (some data.size) := by
  rw [fileSize, h]

/-- The size of a file is told, or that there is no file; but where something is in the way, the
system's own error is passed on. -/
theorem fileSize_cases (t : FileTree) (path : Path) :
    (t.IsFile path ∧ ∃ size, t.fileSize path = .ok (some size))
      ∨ (¬ t.IsFile path ∧ ¬ t.Obstructed path ∧ t.fileSize path = .ok none)
      ∨ (¬ t.IsFile path ∧ t.Obstructed path
        ∧ ∃ e, e.kind ≠ .notFound ∧ t.find path = .error e ∧ t.fileSize path = .error e) := by
  rw [fileSize, obstructed_iff, IsFile]
  cases hfind : t.find path with
  | ok found =>
    obtain ⟨place, node⟩ := found
    cases node with
    | file data executable => exact .inl ⟨⟨place, data, executable, rfl⟩, data.size, rfl⟩
    | dir => exact .inr (.inl ⟨by simp, by simp, rfl⟩)
    | link target => exact .inr (.inl ⟨by simp, by simp, rfl⟩)
  | error e =>
    by_cases hkind : e.kind = .notFound
    · exact .inr (.inl ⟨by simp, by simp [hkind], if_pos hkind⟩)
    · exact .inr (.inr ⟨by simp, ⟨e, rfl, hkind⟩, e, hkind, rfl, if_neg hkind⟩)

/-- What has a size is a file. -/
theorem isFile_of_size {size : Nat} (h : t.fileSize path = .ok (some size)) : t.IsFile path := by
  rcases t.fileSize_cases path with ⟨hfile, -⟩ | ⟨-, -, hnone⟩ | ⟨-, -, e, -, -, herror⟩
  · exact hfile
  · rw [hnone] at h
    cases h
  · rw [herror] at h
    cases h

end FileTree
end Storage
end ToolPack
