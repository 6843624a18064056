import ToolPack.Proofs.Steps
import ToolPack.Proofs.Storage.Descent
import ToolPack.Storage.Local

/-!
# Calls that are refused for a NUL

A path with a NUL in it is refused before any file is looked at, in words of their own.  No call
ends with this error whose paths have no NUL: what it looks for beside them are the directories
above, and their paths are front parts of these.

## What is here

* `Path.NulFree`, `Call.paths`: paths without a NUL, and the paths that a call names;
* `NulFree.join`, `NulFree.of_join`: a name that is joined to a directory, and its NULs;
* `nulFree_of_mem_upward`: the directories above a path have no NUL that the path does not have;
* `FileTree.handler_ne_nulError`: a call whose paths are free of NUL is not refused for one.
-/

set_option autoImplicit false

namespace ToolPack

/-- A path without a NUL. -/
def Path.NulFree (path : Path) : Prop := '\x00' ∉ path.text.toList

/-- The paths that a call names. -/
def Storage.Call.paths : Call → List Path
  | .copy source target => [source, target]
  | c => [c.target]

namespace Path

instance (path : Path) : Decidable path.NulFree :=
  inferInstanceAs (Decidable ('\x00' ∉ path.text.toList))

/-! ## Names in a directory -/

theorem NulFree.join {dir : Path} {name : String} (hdir : dir.NulFree)
    (hname : '\x00' ∉ name.toList) : (dir.join name).NulFree :=
  Storage.FileTree.not_mem_text_join hdir hname (by decide)

/-- A name is joined to a directory as it is. -/
theorem NulFree.of_join {dir : Path} {name : String} (h : (dir.join name).NulFree) :
    '\x00' ∉ name.toList := by
  rw [NulFree, Path.join] at h
  split at h
  · exact h
  · split at h
    · exact fun hname => h (by simp [hname])
    · exact fun hname => h (by simp [hname])

/-! ## Directories above a path -/

theorem trimEnd_suffix (cs : List Char) : trimEnd cs <:+ cs := by
  fun_induction trimEnd cs with
  | case1 rest h => exact (List.isEmpty_iff.mp h) ▸ List.suffix_rfl
  | case2 rest h ih => exact ih.trans (List.suffix_cons _ _)
  | case3 rest ih => exact ih.trans (List.suffix_cons _ _)
  | case4 cs => exact List.suffix_rfl

theorem NulFree.parent? {path parent : Path} (h : path.NulFree)
    (hparent : path.parent? = some parent) : parent.NulFree := by
  have hback : ∀ c ∈ trimEnd path.text.toList.reverse, c ∈ path.text.toList := fun c hc =>
    List.mem_reverse.mp ((trimEnd_suffix _).subset hc)
  rw [Path.parent?] at hparent
  split at hparent
  · cases hparent
  · cases hparent
  · obtain rfl := Option.some.inj hparent
    intro hnul
    rw [String.toList_ofList, List.mem_reverse] at hnul
    exact h (hback _ ((List.dropWhile_suffix _).subset ((trimEnd_suffix _).subset hnul)))

/-- The directories above a path have no NUL that the path does not have. -/
theorem nulFree_of_mem_upward {path dir : Path} (h : path.NulFree) (hdir : dir ∈ path.upward) :
    dir.NulFree := by
  fun_induction upward path with
  | case1 path hnone => cases hdir
  | case2 path parent hparent ih =>
    rcases List.mem_cons.mp hdir with rfl | hdir
    · exact h
    · exact ih (h.parent? hparent) hdir

end Path

namespace Storage
namespace FileTree

variable {t : FileTree} {path : Path}

/-! ## Other errors -/

theorem osError_ne_nulError {α : Type} (e : OsError) :
    (.error e.toIoError : Except IoError α) ≠ .error nulError := by
  have hne : e.toIoError ≠ nulError := by cases e <;> decide +kernel
  exact fun he => hne (Except.error.inj he)

/-- The words for other refusals end differently. -/
theorem sameFile_ne_nulError (source target : Path) : sameFile source target ≠ nulError := by
  intro h
  have hmessage := congrArg (fun e => e.message.toList.reverse.take 4) h
  rw [sameFile] at hmessage
  simp [nulError] at hmessage

theorem notRegular_ne_nulError : notRegular ≠ nulError := by decide

/-! ## Single steps -/

theorem walk_ne_nulError (purpose : FileTree.Purpose) (h : path.NulFree) :
    t.walk purpose path ≠ .error nulError := by
  have hfree : ¬ path.text.toList.contains '\x00' = true := by
    rw [List.contains_iff_mem]
    exact h
  rw [walk]
  split
  · exact osError_ne_nulError _
  · rw [lead, if_neg hfree]
    split
    · exact osError_ne_nulError _
    · cases walkLinks t purpose linkLimit (start t.here path.text)
        (Text.pieces '/' path.text) with
      | error e => exact osError_ne_nulError e
      | ok place => exact ok_ne_error

theorem find_ne_nulError (h : path.NulFree) : t.find path ≠ .error nulError := by
  refine bind_ne_error (walk_ne_nulError .find h) fun place => ?_
  split
  · exact ok_ne_error
  · exact osError_ne_nulError _

theorem ensureDir_ne_nulError (h : path.NulFree) : (t.ensureDir path).1 ≠ .error nulError := by
  have hmake : t.makeDir path ≠ .error nulError := by
    refine bind_ne_error (walk_ne_nulError .makeDir h) fun place => ?_
    split
    · exact osError_ne_nulError _
    · exact ok_ne_error
  rw [ensureDir]
  split
  · exact ok_ne_error
  · rename_i e he
    dsimp only
    split
    · exact ok_ne_error
    · exact error_ne_error (he ▸ hmake)

theorem makeRow_ne_nulError {row : List Path} (h : ∀ path ∈ row, path.NulFree) :
    (t.makeRow row).1 ≠ .error nulError := by
  induction row generalizing t with
  | nil => exact ok_ne_error
  | cons path above ih =>
    obtain ⟨hpath, habove⟩ := List.forall_mem_cons.mp h
    have hfirst : (t.ensureDir path).1 ≠ .error nulError := ensureDir_ne_nulError hpath
    rw [makeRow]
    split
    · rename_i e t' he
      rw [he] at hfirst
      split
      · split
        · exact ensureDir_ne_nulError hpath
        · exact ih habove
      · exact hfirst
    · exact hfirst

theorem makeDirs_ne_nulError (h : path.NulFree) : (t.makeDirs path).1 ≠ .error nulError :=
  makeRow_ne_nulError fun _ hdir => Path.nulFree_of_mem_upward h hdir

theorem overwrite_ne_nulError (data : ByteArray) (executable : Option Bool → Bool)
    (h : path.NulFree) : t.overwrite path data executable ≠ .error nulError := by
  refine bind_ne_error (walk_ne_nulError .write h) fun place => ?_
  split
  · exact ok_ne_error
  · exact ok_ne_error
  · exact osError_ne_nulError _

theorem writeFile_ne_nulError (data : ByteArray) (h : path.NulFree) :
    (t.writeFile path data).1 ≠ .error nulError := by
  rw [writeFile]
  split
  · rename_i e t' he
    split at he
    · rename_i parent hparent
      have hdirs : (t.makeDirs parent).1 ≠ .error nulError :=
        makeDirs_ne_nulError (h.parent? hparent)
      rwa [he] at hdirs
    · cases he
  · rename_i t' _
    have hwrite := overwrite_ne_nulError (t := t') data (fun old => old.getD false) h
    split
    · exact ok_ne_error
    · rename_i e he
      exact error_ne_error (he ▸ hwrite)

theorem copyFile_ne_nulError {source target : Path} (hsource : source.NulFree)
    (htarget : target.NulFree) : t.copyFile source target ≠ .error nulError := by
  rw [copyFile]
  split
  · exact fun he => sameFile_ne_nulError _ _ (Except.error.inj he)
  · refine bind_ne_error (find_ne_nulError hsource) fun found => ?_
    split
    · refine bind_ne_error (walk_ne_nulError .write htarget) fun goal => ?_
      exact bind_ne_error (overwrite_ne_nulError _ _ htarget) fun _ => ok_ne_error
    · exact fun he => notRegular_ne_nulError (Except.error.inj he)

theorem fileSize_ne_nulError (h : path.NulFree) : t.fileSize path ≠ .error nulError := by
  rw [fileSize]
  split
  · exact ok_ne_error
  · exact ok_ne_error
  · rename_i e he
    have hfind := find_ne_nulError (t := t) h
    split
    · exact ok_ne_error
    · exact error_ne_error (he ▸ hfind)

theorem readFile_ne_nulError (h : path.NulFree) : t.readFile path ≠ .error nulError := by
  refine bind_ne_error (find_ne_nulError h) fun found => ?_
  split
  · exact ok_ne_error
  · exact osError_ne_nulError _

theorem setExecutable_ne_nulError (h : path.NulFree) : t.setExecutable path ≠ .error nulError := by
  refine bind_ne_error (find_ne_nulError h) fun found => ?_
  split
  · exact ok_ne_error
  · exact ok_ne_error

/-! ## Answers -/

theorem answer_fst_ne_error {α : Type} {made : Except IoError (α × FileTree)} {e : IoError}
    (h : made ≠ .error e) : (t.answer made).1 ≠ .error e := by
  cases made with
  | error other => exact error_ne_error h
  | ok made => exact ok_ne_error

/-- **A call whose paths are free of NUL is not refused for one**, whatever the tree is. -/
theorem handler_ne_nulError {c : Call} (h : ∀ path ∈ c.paths, path.NulFree) :
    (handler c t).1 ≠ .error nulError := by
  cases c with
  | size path => exact fileSize_ne_nulError (h path List.mem_cons_self)
  | read path => exact readFile_ne_nulError (h path List.mem_cons_self)
  | write path data => exact writeFile_ne_nulError data (h path List.mem_cons_self)
  | makeDirs path => exact makeDirs_ne_nulError (h path List.mem_cons_self)
  | copy source target =>
    obtain ⟨hsource, htarget⟩ := List.forall_mem_cons.mp h
    exact answer_fst_ne_error (copyFile_ne_nulError hsource (htarget target List.mem_cons_self))
  | markExecutable path =>
    have hset : (t.setExecutable path).map (fun t => ((), t)) ≠ .error nulError := by
      have hmade := setExecutable_ne_nulError (t := t) (h path List.mem_cons_self)
      cases hresult : t.setExecutable path with
      | error e => exact error_ne_error (hresult ▸ hmade)
      | ok made => exact ok_ne_error
    exact answer_fst_ne_error hset

end FileTree
end Storage
end ToolPack
