import ToolPack.Proofs.Steps
import ToolPack.Proofs.Storage.Filing
import ToolPack.Proofs.Text.Pieces

/-!
# What a copy keeps

A copy empties its target before it reads its source, so where both paths lead to one file its bytes
would be lost.  It is refused there, if the places that both paths lead to can be told and are one.
The place of a file can be told wherever the tree is not too deep.  Further down a path that starts
in the current directory may be short enough for the file, while the place has no path at all; then
nothing is compared, and the file is emptied.

## What is here

* `copyFile_eq_ok_iff`: when a copy is made, and what it leaves;
* `KeepsSource`: what is asked of a copy; `Unnoticed`: the pairs of paths to one file that are not
  noticed to be one;
* `copy_keeps_source_iff`: a copy keeps its source unless it is unnoticed, and none is unnoticed in
  a tree that is nowhere too deep;
* `deep_file_is_emptied`: one that is.
-/

set_option autoImplicit false

namespace ToolPack
namespace Storage
namespace FileTree

open Text

variable {t t' : FileTree} {source target : Path} {place goal : Location} {data : ByteArray}
  {mode : Bool}

/-! ## One copy -/

theorem samePlace_eq_true_iff :
    t.samePlace source target = true
      ↔ ∃ place, t.canonical source = some place ∧ t.canonical target = some place := by
  rw [samePlace]
  cases t.canonical source with
  | none => simp
  | some a =>
    cases t.canonical target with
    | none => simp
    | some b =>
      simp only [beq_iff_eq, Option.some.injEq, exists_eq_left']
      exact eq_comm

theorem copyFile_of_samePlace (h : t.samePlace source target = true) :
    t.copyFile source target = .error (sameFile source target) := by
  rw [copyFile, if_pos h]
  rfl

/-- A copy is made if both paths do not lead to one place that is told, the source is a file, and
a file can be put at the target. -/
theorem copyFile_eq_ok_iff {n : Nat} :
    t.copyFile source target = .ok (n, t')
      ↔ t.samePlace source target = false
        ∧ ∃ place data mode goal, t.find source = .ok (place, .file data mode)
          ∧ t.walk .write target = .ok goal ∧ t.Writable goal
          ∧ n = (if goal = place then ByteArray.empty else data).size
          ∧ t' = t.put goal (.file (if goal = place then .empty else data) mode) := by
  constructor
  · intro h
    cases hsame : t.samePlace source target with
    | true =>
      rw [copyFile_of_samePlace hsame] at h
      cases h
    | false =>
      rw [copyFile, if_neg (by simp [hsame])] at h
      obtain ⟨found, hfind, h⟩ := exists_of_bind_eq_ok h
      split at h
      · rename_i place data mode
        obtain ⟨goal, hwalk, h⟩ := exists_of_bind_eq_ok h
        obtain ⟨after, hput, h⟩ := exists_of_bind_eq_ok h
        obtain ⟨rfl, rfl⟩ := Prod.mk.inj (Except.ok.inj h)
        obtain ⟨_, hgoal, hfree, rfl⟩ := overwrite_eq_ok_iff.mp hput
        obtain rfl := Except.ok.inj (hwalk.symm.trans hgoal)
        exact ⟨rfl, place, data, mode, goal, hfind, hwalk, hfree, rfl, rfl⟩
      · cases h
  · rintro ⟨hsame, place, data, mode, goal, hfind, hwalk, hgoal, rfl, rfl⟩
    have hput : t.overwrite target (if goal = place then .empty else data) (fun _ => mode)
        = .ok (t.put goal (.file (if goal = place then .empty else data) mode)) :=
      overwrite_eq_ok_iff.mpr ⟨goal, hwalk, hgoal, rfl⟩
    rw [copyFile, if_neg (by simp [hsame])]
    simp only [hfind, hwalk, hput, bind, Except.bind, pure, Except.pure]

/-! ## What is kept -/

/-- A copy puts the bytes of its source in the file of its target, and neither the source nor any
other file is changed; a copy that fails changes nothing; and a file is not copied onto itself. -/
structure KeepsSource (t : FileTree) (source target : Path) : Prop where
  copied : ∀ {n : Nat}, (handler (.copy source target) t).1 = .ok n →
    ∃ place data mode goal, t.find source = .ok (place, .file data mode) ∧ n = data.size
      ∧ (handler (.copy source target) t).2.find target = .ok (goal, .file data mode)
      ∧ (handler (.copy source target) t).2.find source = .ok (place, .file data mode)
      ∧ ∀ other, other ≠ goal →
        (handler (.copy source target) t).2.file? other = t.file? other
  failed : ∀ {e : IoError}, (handler (.copy source target) t).1 = .error e →
    (handler (.copy source target) t).2 = t
  refused : ∀ {place : Location} {data : ByteArray} {mode : Bool},
    t.find source = .ok (place, .file data mode) → t.find target = .ok (place, .file data mode) →
      ∃ e, (handler (.copy source target) t).1 = .error e ∧ e.kind = .invalidInput

/-- Two paths lead to one file, and its place cannot be told of both. -/
def Unnoticed (t : FileTree) (source target : Path) : Prop :=
  ∃ place data mode, t.find source = .ok (place, .file data mode)
    ∧ t.find target = .ok (place, .file data mode)
    ∧ (t.canonical source = none ∨ t.canonical target = none)

theorem handler_copy_ok {n : Nat} (h : t.copyFile source target = .ok (n, t')) :
    handler (.copy source target) t = (.ok n, t') := by
  rw [handler, h]
  rfl

theorem handler_copy_error {e : IoError} (h : t.copyFile source target = .error e) :
    handler (.copy source target) t = (.error e, t) := by
  rw [handler, h]
  rfl

/-- Paths to one file whose place is told are told to be the same. -/
theorem samePlace_of_find (hsource : t.find source = .ok (place, .file data mode))
    (htarget : t.find target = .ok (place, .file data mode)) :
    t.samePlace source target = true ∨ Unnoticed t source target := by
  cases hs : t.canonical source with
  | none => exact .inr ⟨place, data, mode, hsource, htarget, .inl hs⟩
  | some a =>
    cases ht : t.canonical target with
    | none => exact .inr ⟨place, data, mode, hsource, htarget, .inr ht⟩
    | some b =>
      obtain rfl := eq_of_canonical hs hsource
      obtain rfl := eq_of_canonical ht htarget
      exact .inl (samePlace_eq_true_iff.mpr ⟨b, hs, ht⟩)

/-- A file that is copied onto itself unnoticed is emptied. -/
theorem Unnoticed.emptied (h : Unnoticed t source target) :
    ∃ place data mode, t.find source = .ok (place, .file data mode)
      ∧ handler (.copy source target) t = (.ok 0, t.put place (.file .empty mode))
      ∧ (t.put place (.file .empty mode)).find source = .ok (place, .file .empty mode) := by
  obtain ⟨place, data, mode, hsource, htarget, hnone⟩ := h
  have hnode := (find_eq_ok_iff.mp hsource).2
  have hplace : t.Writable place := .inr ⟨data, mode, hnode⟩
  have hsame : t.samePlace source target = false := by
    refine Bool.eq_false_iff.mpr fun hsame => ?_
    obtain ⟨told, hs, ht⟩ := samePlace_eq_true_iff.mp hsame
    rw [hs, ht] at hnone
    simp at hnone
  have hcopy : t.copyFile source target = .ok (0, t.put place (.file .empty mode)) :=
    copyFile_eq_ok_iff.mpr ⟨hsame, place, data, mode, place, hsource, walk_write_of_find htarget,
      hplace, by simp, by simp⟩
  refine ⟨place, data, mode, hsource, handler_copy_ok hcopy, ?_⟩
  exact find_of_walk_write (walk_write_put (walk_write_of_find hsource) hplace _ _)
    (by rw [node?_put t hplace.ne_root, if_pos rfl])

theorem keepsSource_of_not_unnoticed (h : ¬ Unnoticed t source target) :
    KeepsSource t source target where
  copied {n} hok := by
    cases hcopy : t.copyFile source target with
    | error e =>
      rw [handler_copy_error hcopy] at hok
      cases hok
    | ok done =>
      obtain ⟨copied, after⟩ := done
      rw [handler_copy_ok hcopy] at hok ⊢
      obtain rfl := Except.ok.inj hok
      obtain ⟨hsame, place, data, mode, goal, hsource, hwalk, hgoal, rfl, rfl⟩ :=
        copyFile_eq_ok_iff.mp hcopy
      have hne : goal ≠ place := by
        rintro rfl
        have htarget := find_of_walk_write hwalk (find_eq_ok_iff.mp hsource).2
        rcases samePlace_of_find hsource htarget with htold | hunnoticed
        · rw [hsame] at htold
          cases htold
        · exact h hunnoticed
      rw [if_neg hne]
      have hput := node?_put t hgoal.ne_root
      have hkept := walk_write_put (walk_write_of_find hsource) hgoal data mode
      refine ⟨place, data, mode, goal, hsource, rfl,
        find_of_walk_write (walk_write_put hwalk hgoal data mode) ((hput _ _).trans (if_pos rfl)),
        find_of_walk_write hkept ?_, fun other hother => ?_⟩
      · rw [hput, if_neg hne.symm]
        exact (find_eq_ok_iff.mp hsource).2
      · rw [file?_put hgoal.ne_root, if_neg hother]
  failed {e} herror := by
    cases hcopy : t.copyFile source target with
    | error e => rw [handler_copy_error hcopy]
    | ok done =>
      rw [handler_copy_ok hcopy] at herror
      cases herror
  refused {place data mode} hsource htarget := by
    rcases samePlace_of_find hsource htarget with hsame | hunnoticed
    · exact ⟨_, by rw [handler_copy_error (copyFile_of_samePlace hsame)], rfl⟩
    · exact absurd hunnoticed h

theorem Unnoticed.not_keepsSource (h : Unnoticed t source target) :
    ¬ KeepsSource t source target := by
  intro hkeeps
  obtain ⟨_, _, _, _, hcopy, _⟩ := h.emptied
  obtain ⟨place, data, mode, hsource, htarget, -⟩ := h
  obtain ⟨e, herror, -⟩ := hkeeps.refused hsource htarget
  rw [hcopy] at herror
  cases herror

theorem Shallow.not_unnoticed (h : t.Shallow) : ¬ Unnoticed t source target := by
  rintro ⟨place, data, mode, hsource, htarget, hnone | hnone⟩
  · rw [canonical_of_find h hsource] at hnone
    cases hnone
  · rw [canonical_of_find h htarget] at hnone
    cases hnone

/-- **Copying keeps the source** exactly where no two paths to one file go unnoticed, and so
everywhere in a tree that is nowhere too deep. -/
theorem copy_keeps_source_iff (t : FileTree) (source target : Path) :
    (KeepsSource t source target ↔ ¬ Unnoticed t source target)
      ∧ (t.Shallow → KeepsSource t source target) :=
  ⟨⟨fun hkeeps hunnoticed => hunnoticed.not_keepsSource hkeeps, keepsSource_of_not_unnoticed⟩,
    fun hshallow => keepsSource_of_not_unnoticed hshallow.not_unnoticed⟩

/-- A file, with a row of links to it. -/
def linkedTree : FileTree :=
  { here := ["w"]
    nodes := [(["w"], .dir), (["bin", "w"], .dir),
      (["firtool", "bin", "w"], .file "ELF".toUTF8 true),
      (["out", "w"], .link "bin/../bin"), (["tool", "w"], .link "./out//firtool")] }

theorem linked_file_is_kept :
    linkedTree.Shallow
      ∧ linkedTree.find ⟨"bin/firtool"⟩ = .ok (["firtool", "bin", "w"], .file "ELF".toUTF8 true)
      ∧ linkedTree.find ⟨"./tool"⟩ = .ok (["firtool", "bin", "w"], .file "ELF".toUTF8 true)
      ∧ KeepsSource linkedTree ⟨"bin/firtool"⟩ ⟨"./tool"⟩ :=
  ⟨by decide, find_eq_ok_iff.mpr ⟨by decide +kernel, rfl⟩,
    find_eq_ok_iff.mpr ⟨by decide +kernel, rfl⟩,
    (copy_keeps_source_iff linkedTree _ _).2 (by decide)⟩

/-! ## A file too far down

Seventeen directories with long names, one in the other, and a file in the last of them.  The path
to it from the current directory is just short enough to be used, and the one from the root is not.
-/

/-- A name as long as it may well be. -/
def deepName : String := String.ofList (List.replicate 239 'd')

/-- Where the file is, below `n` directories. -/
def deepPlace (n : Nat) : Location := List.replicate n deepName ++ ["w", "kit", "tmp"]

/-- The path to it. -/
def deepText : Nat → String
  | 0 => "firtool-1.75"
  | n + 1 => deepName ++ "/" ++ deepText n

/-- The directories. -/
def deepDirs : Nat → FileTree
  | 0 =>
    { here := deepPlace 0
      nodes := [(["tmp"], .dir), (["kit", "tmp"], .dir), (deepPlace 0, .dir)] }
  | n + 1 => (deepDirs n).put (deepPlace (n + 1)) .dir

/-- The directories with the file. -/
def deepTree : FileTree :=
  (deepDirs 17).put ("firtool-1.75" :: deepPlace 17) (.file "ELF".toUTF8 false)

theorem size_replicate (n : Nat) : (String.ofList (List.replicate n 'd')).utf8ByteSize = n := by
  induction n with
  | zero => rfl
  | succ n ih =>
    rw [List.replicate_succ, String.ofList_cons, String.utf8ByteSize_append, ih, Nat.add_comm]
    rfl

theorem size_deepName : deepName.utf8ByteSize = 239 := size_replicate 239

theorem toList_deepName : deepName.toList = List.replicate 239 'd' := String.toList_ofList

theorem size_deepText (n : Nat) : (deepText n).utf8ByteSize = 240 * n + 12 := by
  induction n with
  | zero => decide
  | succ n ih =>
    rw [deepText, String.utf8ByteSize_append, String.utf8ByteSize_append, size_deepName, ih]
    have hslash : "/".utf8ByteSize = 1 := rfl
    omega

theorem depth_deepPlace (n : Nat) : depth (deepPlace n) = 240 * n + 10 := by
  induction n with
  | zero => decide
  | succ n ih =>
    show depth (deepPlace n) + 1 + deepName.utf8ByteSize = _
    rw [ih, size_deepName]
    omega

theorem nul_not_mem_deepText (n : Nat) : '\x00' ∉ (deepText n).toList := by
  induction n with
  | zero => decide
  | succ n ih =>
    rw [deepText, String.toList_append, String.toList_append, toList_deepName, List.mem_append,
      List.mem_append]
    rintro ((hname | hslash) | hrest)
    · exact nomatch List.eq_of_mem_replicate hname
    · exact absurd hslash (by decide)
    · exact ih hrest

theorem isRooted_deepText (n : Nat) : Path.isRooted (deepText n) = false := by
  cases n with
  | zero => decide
  | succ n =>
    rw [Path.isRooted, deepText, String.toList_append, String.toList_append, toList_deepName]
    rfl

theorem pieces_deepText (n : Nat) :
    pieces '/' (deepText n) = List.replicate n deepName ++ ["firtool-1.75"] := by
  induction n with
  | zero => exact pieces_of_not_mem (by decide)
  | succ n ih =>
    have hname : '/' ∉ deepName.toList := by
      rw [toList_deepName]
      exact fun h => nomatch List.eq_of_mem_replicate h
    rw [deepText, pieces_append rfl, ih, pieces_of_not_mem hname]
    rfl

theorem length_deepPlace (n : Nat) : (deepPlace n).length = n + 3 := by
  rw [deepPlace, List.length_append, List.length_replicate]
  rfl

theorem here_deepDirs (n : Nat) : (deepDirs n).here = deepPlace 0 := by
  induction n with
  | zero => rfl
  | succ n ih => rw [deepDirs, here_put, ih]

theorem here_deepTree : deepTree.here = deepPlace 0 := by
  rw [deepTree, here_put, here_deepDirs]

theorem node?_deepDirs {n k : Nat} (h : k ≤ n) : (deepDirs n).node? (deepPlace k) = some .dir := by
  induction n with
  | zero =>
    obtain rfl := Nat.le_zero.mp h
    rfl
  | succ n ih =>
    have hroot : deepPlace (n + 1) ≠ [] := List.cons_ne_nil _ _
    rw [deepDirs, node?_put _ hroot]
    split
    · rfl
    · rename_i hne
      exact ih (Nat.le_of_lt_succ (Nat.lt_of_le_of_ne h fun heq => hne (congrArg deepPlace heq)))

theorem node?_deepTree {k : Nat} (h : k ≤ 17) : deepTree.node? (deepPlace k) = some .dir := by
  have hne : deepPlace k ≠ "firtool-1.75" :: deepPlace 17 := by
    intro heq
    have hlength := congrArg List.length heq
    rw [List.length_cons, length_deepPlace, length_deepPlace] at hlength
    omega
  rw [deepTree, node?_put _ (List.cons_ne_nil _ _), if_neg hne, node?_deepDirs h]

theorem file_deepTree :
    deepTree.node? ("firtool-1.75" :: deepPlace 17) = some (.file "ELF".toUTF8 false) := by
  rw [deepTree, node?_put _ (List.cons_ne_nil _ _), if_pos rfl]

theorem deepName_ne {name : String} (h : name.utf8ByteSize < 239) : deepName ≠ name := by
  rintro rfl
  rw [size_deepName] at h
  omega

theorem leads_deepTree {links m k : Nat} (h : k + m = 17) :
    Leads deepTree .find links (deepPlace k) (List.replicate m deepName ++ ["firtool-1.75"])
      ("firtool-1.75" :: deepPlace 17) := by
  induction m generalizing k with
  | zero =>
    obtain rfl : k = 17 := h
    exact .enter (isDir_of_node? (node?_deepTree (Nat.le_refl 17)))
      ⟨by decide, by decide, by decide, by decide, nofun, nofun⟩ nofun file_deepTree nofun nofun
      .done
  | succ m ih =>
    refine .enter (isDir_of_node? (node?_deepTree (by omega))) ?_ nofun
      (node?_deepTree (k := k + 1) (by omega)) nofun nofun (ih (k := k + 1) (by omega))
    refine ⟨deepName_ne (by decide), deepName_ne (by decide), deepName_ne (by decide), ?_, nofun,
      nofun⟩
    rw [size_deepName]
    decide

theorem find_deepTree :
    deepTree.find ⟨deepText 17⟩
      = .ok ("firtool-1.75" :: deepPlace 17, .file "ELF".toUTF8 false) := by
  have hshort : (deepText 17).utf8ByteSize ≤ pathLimit := by
    rw [size_deepText]
    decide
  have hstart : start deepTree.here (deepText 17) = deepPlace 0 := by
    rw [start, isRooted_deepText, here_deepTree]
    rfl
  have hempty : deepText 17 ≠ "" := by
    intro h
    have hsize := size_deepText 17
    rw [h] at hsize
    exact absurd hsize (by decide)
  refine find_eq_ok_iff.mpr ⟨walk_eq_ok_iff.mpr ⟨hshort, lead_eq_ok_iff.mpr
    ⟨nul_not_mem_deepText 17, hempty, ?_⟩⟩, file_deepTree⟩
  rw [hstart, pieces_deepText]
  exact leads_deepTree rfl

theorem unnoticed_deepTree : Unnoticed deepTree ⟨deepText 17⟩ ⟨deepText 17⟩ := by
  have hhere : depth deepTree.here ≤ pathLimit := by
    rw [here_deepTree]
    decide
  have hdeep : pathLimit < depth ("firtool-1.75" :: deepPlace 17) := by
    rw [depth, depth_deepPlace]
    decide
  exact ⟨_, _, _, find_deepTree, find_deepTree,
    .inl (canonical_eq_none_of_depth hhere find_deepTree hdeep)⟩

/-- A file that is copied onto itself, and lost. -/
theorem deep_file_is_emptied :
    deepTree.find ⟨deepText 17⟩
        = .ok ("firtool-1.75" :: deepPlace 17, .file "ELF".toUTF8 false)
      ∧ (handler (.copy ⟨deepText 17⟩ ⟨deepText 17⟩) deepTree).1 = .ok 0
      ∧ (handler (.copy ⟨deepText 17⟩ ⟨deepText 17⟩) deepTree).2.find ⟨deepText 17⟩
        = .ok ("firtool-1.75" :: deepPlace 17, .file .empty false)
      ∧ ¬ KeepsSource deepTree ⟨deepText 17⟩ ⟨deepText 17⟩ := by
  obtain ⟨place, data, mode, hfind, hcopy, hemptied⟩ := unnoticed_deepTree.emptied
  obtain ⟨rfl, hnode⟩ := Prod.mk.inj (Except.ok.inj (find_deepTree.symm.trans hfind))
  obtain ⟨-, rfl⟩ := Node.file.inj hnode
  rw [hcopy]
  exact ⟨find_deepTree, rfl, hemptied, unnoticed_deepTree.not_keepsSource⟩

end FileTree
end Storage
end ToolPack
