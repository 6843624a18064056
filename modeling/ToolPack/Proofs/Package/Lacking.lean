import ToolPack.Proofs.Package.Lookup
import ToolPack.Proofs.Storage.Obstacles
import ToolPack.Storage.Local

/-!
# Files that are lacking in a tree

Before anything is copied every file is looked for, and one that is not there is to be reported as
a missing binary, or as a missing script.  The storage says that nothing is there if something is
lacking on the way.  If something is in the way of a path instead, there is no file either, but the
search ends with the error of the system.

## What is here

* `FirstLacking`: the first of some names under which there is no file;
* `FirstLacking.result`: what the search for the names comes to;
* `ReportsLacking`: what is asked of it; `lacking_is_reported_iff`: it is so unless something is in
  the way of the path; `reportsLacking_of_dir`: in a directory without links it always is;
* `file_in_place_of_directory`: a path that a file is in the way of.
-/

set_option autoImplicit false

namespace ToolPack
namespace Package

open Storage FileTree ToolPack.Action ToolPack.Path

variable {t : FileTree} {dir path : Path} {names front rest : List String} {name : String}
  {found : List Artifact}

/-! ## Names in a directory -/

/-- The path of the first of some names under which there is no file. -/
def FirstLacking (t : FileTree) (dir : Path) (names : List String) (path : Path) : Prop :=
  ∃ front name rest, names = front ++ name :: rest ∧ path = dir.join name
    ∧ (∀ other ∈ front, t.IsFile (dir.join other)) ∧ ¬ t.IsFile path

/-- A file is told of. -/
theorem exists_told (h : t.IsFile (dir.join name)) :
    ∃ artifact, Told FileTree.handler t dir name artifact := by
  obtain ⟨place, data, executable, hfind⟩ := h
  refine ⟨⟨name, dir.join name, data.size⟩, data.size, ?_, rfl⟩
  rw [FileTree.handler, fileSize_of_find hfind]

theorem exists_forall₂_told (h : ∀ name ∈ names, t.IsFile (dir.join name)) :
    ∃ found, List.Forall₂ (Told FileTree.handler t dir) names found := by
  induction names with
  | nil => exact ⟨[], .nil⟩
  | cons name names ih =>
    obtain ⟨hname, hnames⟩ := List.forall_mem_cons.mp h
    obtain ⟨artifact, hartifact⟩ := exists_told hname
    obtain ⟨found, hfound⟩ := ih hnames
    exact ⟨artifact :: found, .cons hartifact hfound⟩

/-- The search ends with the first name under which there is no file: it is missing, or the system
says what is in the way. -/
theorem FirstLacking.result (h : FirstLacking t dir names path) (missing : Path → PackError) :
    (¬ t.Obstructed path
        ∧ ((verifyArtifacts missing dir names).run FileTree.handler t).result
          = .error (missing path))
      ∨ (t.Obstructed path ∧ ∃ e, e.kind ≠ .notFound ∧ t.find path = .error e
        ∧ ((verifyArtifacts missing dir names).run FileTree.handler t).result
          = .error (.io e)) := by
  obtain ⟨front, name, rest, rfl, rfl, hfront, hlacking⟩ := h
  obtain ⟨found, hfound⟩ := exists_forall₂_told hfront
  rcases t.fileSize_cases (dir.join name) with ⟨hfile, -⟩ | ⟨-, hclear, hsize⟩ | ⟨-, hobstructed,
    e, hkind, hfind, hsize⟩
  · exact absurd hfile hlacking
  · have hanswer : FileTree.handler (.size (dir.join name)) t = (.ok none, t) := by
      rw [FileTree.handler, hsize]
    exact .inl ⟨hclear, (yields_verifyArtifacts_of_stop hfound
      (yields_verifyArtifact_of_none missing hanswer)).result⟩
  · have hanswer : FileTree.handler (.size (dir.join name)) t = (.error e, t) := by
      rw [FileTree.handler, hsize]
    exact .inr ⟨hobstructed, e, hkind, hfind, (yields_verifyArtifacts_of_stop hfound
      (yields_verifyArtifact_of_error missing hanswer)).result⟩

/-! ## What is reported -/

/-- A file that is lacking is reported as a missing binary or a missing script, whichever was
looked for. -/
structure ReportsLacking (t : FileTree) (dir : Path) (names : List String) : Prop where
  binaries : ∀ path, FirstLacking t dir names path →
    ((verifyBinaries dir names).run FileTree.handler t).result = .error (.missingArtifact path)
  scripts : ∀ path, FirstLacking t dir names path →
    ((verifyScripts dir names).run FileTree.handler t).result = .error (.missingScript path)

/-- **A file that is lacking is reported as missing exactly if nothing is in the way of its path**;
else the error of the system is passed on. -/
theorem lacking_is_reported_iff (t : FileTree) (dir : Path) (names : List String) :
    (ReportsLacking t dir names ↔ ∀ path, FirstLacking t dir names path → ¬ t.Obstructed path)
      ∧ ∀ path, FirstLacking t dir names path → t.Obstructed path →
        ∃ e, e.kind ≠ .notFound ∧ t.find path = .error e
          ∧ ((verifyBinaries dir names).run FileTree.handler t).result = .error (.io e)
          ∧ ((verifyScripts dir names).run FileTree.handler t).result = .error (.io e) := by
  refine ⟨⟨fun hreports path hlacking hobstructed => ?_, fun hclear => ⟨?_, ?_⟩⟩, ?_⟩
  · rcases hlacking.result .missingArtifact with ⟨hclear, -⟩ | ⟨-, e, -, -, hresult⟩
    · exact hclear hobstructed
    · cases (hreports.binaries path hlacking).symm.trans hresult
  · intro path hlacking
    rcases hlacking.result .missingArtifact with ⟨-, hresult⟩ | ⟨hobstructed, -⟩
    · exact hresult
    · exact absurd hobstructed (hclear path hlacking)
  · intro path hlacking
    rcases hlacking.result .missingScript with ⟨-, hresult⟩ | ⟨hobstructed, -⟩
    · exact hresult
    · exact absurd hobstructed (hclear path hlacking)
  · intro path hlacking hobstructed
    rcases hlacking.result .missingArtifact with ⟨hclear, -⟩ | ⟨-, e, hkind, hfind, hbinaries⟩
    · exact absurd hobstructed hclear
    rcases hlacking.result .missingScript with ⟨hclear, -⟩ | ⟨-, e', -, hfind', hscripts⟩
    · exact absurd hobstructed hclear
    obtain rfl := Except.error.inj (hfind.symm.trans hfind')
    exact ⟨e, hkind, hfind, hbinaries, hscripts⟩

/-- In a directory that is there, names that are short enough are reported if they are lacking, or
are directories; only links may lead to what is in the way. -/
theorem reportsLacking_of_dir {mid : Location} (hdir : t.find dir = .ok (mid, .dir))
    (hnames : ∀ name ∈ names, FileName name ∧ '\x00' ∉ name.toList
      ∧ name.utf8ByteSize ≤ segmentLimit ∧ (dir.join name).text.utf8ByteSize ≤ pathLimit)
    (hlinks : ∀ name ∈ names, ∀ target, t.node? (name :: mid) ≠ some (.link target)) :
    ReportsLacking t dir names := by
  refine (lacking_is_reported_iff t dir names).1.mpr ?_
  rintro path ⟨front, name, rest, rfl, rfl, -⟩
  have hmem : name ∈ front ++ name :: rest := by simp
  obtain ⟨hname, hnul, hsize, hshort⟩ := hnames name hmem
  exact not_obstructed_join hname hdir hnul hshort hsize (hlinks name hmem)

/-- A file stands where the directory of the binaries should be. -/
def shadowedTree : FileTree :=
  { here := ["w"]
    nodes := [(["w"], .dir), (["bin", "w"], .file "ELF".toUTF8 true)] }

theorem find_shadowedTree :
    shadowedTree.find ⟨"bin/tool"⟩
      = .error ⟨.notADirectory, "Not a directory (os error 20)"⟩ :=
  find_eq_error_iff.mpr (.inl (by decide +kernel))

/-- A binary that is lacking, and is not reported as missing. -/
theorem file_in_place_of_directory :
    Check.plainNames "build.binaries" ["tool"] = .ok ()
      ∧ FirstLacking shadowedTree ⟨"bin"⟩ ["tool"] ⟨"bin/tool"⟩
      ∧ ((verifyBinaries ⟨"bin"⟩ ["tool"]).run FileTree.handler shadowedTree).result
        = .error (.io ⟨.notADirectory, "Not a directory (os error 20)"⟩)
      ∧ ¬ ReportsLacking shadowedTree ⟨"bin"⟩ ["tool"] := by
  have hlacking : FirstLacking shadowedTree ⟨"bin"⟩ ["tool"] ⟨"bin/tool"⟩ := by
    refine ⟨[], "tool", [], rfl, by decide, nofun, ?_⟩
    rintro ⟨place, data, executable, hfile⟩
    rw [find_shadowedTree] at hfile
    cases hfile
  have hresult : ((verifyBinaries ⟨"bin"⟩ ["tool"]).run FileTree.handler shadowedTree).result
      = .error (.io ⟨.notADirectory, "Not a directory (os error 20)"⟩) := by
    rcases hlacking.result .missingArtifact with ⟨hclear, -⟩ | ⟨-, e, -, hfind, hresult⟩
    · exact absurd (obstructed_iff.mpr ⟨_, find_shadowedTree, by decide⟩) hclear
    · obtain rfl := Except.error.inj (find_shadowedTree.symm.trans hfind)
      exact hresult
  refine ⟨by decide, hlacking, hresult, fun hreports => ?_⟩
  cases (hreports.binaries _ hlacking).symm.trans hresult

end Package
end ToolPack
