import ToolPack.Manifest.Plan

/-!
# What an accepted manifest has passed

Checks are done in a row, and the row passes exactly if each of them does.  So the checks of a
manifest come apart into statements about its values: the names of its binaries and scripts are
plain, no two of a list are equal, and there is a binary.

## What is here

* `Check.bind_eq_ok_iff`, `Check.forM_eq_ok_iff`, `Check.require_eq_ok_iff`: rows of checks, and a
  single one;
* `PlainName`, `Check.plainNames_eq_ok_iff`: names that stay in their directory;
* `Extras.check_eq_ok_iff`, `Metadata.check_eq_ok_iff`, `BuildSection.check_eq_ok_iff`,
  `Manifest.check_eq_ok_iff`, `Manifest.resolve_eq_ok_iff`: the checks of a manifest, apart.
-/

set_option autoImplicit false

namespace ToolPack

/-- A name that has something in it and stays in the directory that it is joined to. -/
structure PlainName (name : String) : Prop where
  notBlank : Text.isAllBlank name = false
  staysInside : Check.staysInside name = true

/-- A plain name has no separator in it. -/
theorem PlainName.not_mem {name : String} (h : PlainName name) : '/' ∉ name.toList := by
  have hinside := h.staysInside
  simp only [Check.staysInside, Bool.and_eq_true, Bool.not_eq_true'] at hinside
  simpa using hinside.1.1.1

namespace Check

/-- What comes after a check is reached exactly if the check passes. -/
theorem bind_eq_ok_iff {ε β : Type} {check : Except ε Unit} {next : Unit → Except ε β} {b : β} :
    (check >>= next) = .ok b ↔ check = .ok () ∧ next () = .ok b := by
  cases check with
  | error e => exact iff_of_false (fun h => nomatch h) fun h => nomatch h.1
  | ok _ => exact (and_iff_right rfl).symm

/-- A row of checks passes exactly if each of them does. -/
theorem forM_eq_ok_iff {ε α : Type} {check : α → Except ε Unit} {values : List α} :
    values.forM check = .ok () ↔ ∀ value ∈ values, check value = .ok () := by
  induction values with
  | nil => exact iff_of_true rfl fun value hvalue => absurd hvalue List.not_mem_nil
  | cons value values ih => rw [List.forM, bind_eq_ok_iff, ih, List.forall_mem_cons]

theorem require_eq_ok_iff {ok : Bool} {field value : String} {refusal : Refusal} :
    require ok field value refusal = .ok () ↔ ok = true := by
  cases ok <;> simp [require, refuse]

theorem nonBlank_eq_ok_iff {field value : String} :
    nonBlank field value = .ok () ↔ Text.isAllBlank value = false := by
  rw [nonBlank, require_eq_ok_iff, Bool.not_eq_true']

theorem version_eq_ok_iff {field value : String} :
    version field value = .ok () ↔ isVersion value = true :=
  require_eq_ok_iff

theorem path_eq_ok_iff {field value : String} :
    path field value = .ok () ↔ value ≠ "" ∧ '\x00' ∉ value.toList := by
  rw [path, bind_eq_ok_iff, require_eq_ok_iff, require_eq_ok_iff]
  simp

theorem plainName_eq_ok_iff {field name : String} :
    plainName field name = .ok () ↔ PlainName name := by
  rw [plainName, bind_eq_ok_iff, nonBlank_eq_ok_iff, require_eq_ok_iff]
  exact ⟨fun ⟨hblank, hinside⟩ => ⟨hblank, hinside⟩, fun h => ⟨h.notBlank, h.staysInside⟩⟩

theorem plainNamesAfter_eq_ok_iff {field : String} {seen names : List String} :
    plainNamesAfter field seen names = .ok ()
      ↔ (∀ name ∈ names, PlainName name) ∧ names.Nodup ∧ ∀ name ∈ names, name ∉ seen := by
  induction names generalizing seen with
  | nil => simp [plainNamesAfter]
  | cons name names ih =>
    rw [plainNamesAfter, bind_eq_ok_iff, bind_eq_ok_iff, plainName_eq_ok_iff, require_eq_ok_iff, ih,
      List.forall_mem_cons, List.forall_mem_cons, List.nodup_cons, Bool.not_eq_true',
      List.contains_eq_mem, decide_eq_false_iff_not]
    constructor
    · rintro ⟨hplain, hfresh, hrest, hnodup, hseen⟩
      have hname : name ∉ names := fun h => hseen name h List.mem_cons_self
      refine ⟨⟨hplain, hrest⟩, ⟨hname, hnodup⟩, hfresh, fun other hother h => ?_⟩
      exact hseen other hother (List.mem_cons_of_mem _ h)
    · rintro ⟨⟨hplain, hrest⟩, ⟨hname, hnodup⟩, hfresh, hseen⟩
      refine ⟨hplain, hfresh, hrest, hnodup, fun other hother h => ?_⟩
      rcases List.mem_cons.mp h with rfl | h
      · exact hname hother
      · exact hseen other hother h

/-- Names pass exactly if they are plain and no two are equal. -/
theorem plainNames_eq_ok_iff {field : String} {names : List String} :
    plainNames field names = .ok () ↔ (∀ name ∈ names, PlainName name) ∧ names.Nodup := by
  rw [plainNames, plainNamesAfter_eq_ok_iff]
  simp

end Check

open Check

/-- Extras pass exactly if none of their names and requirements is blank. -/
theorem Extras.check_eq_ok_iff {extras : Extras} :
    extras.check = .ok () ↔ ∀ extra ∈ extras.entries, Text.isAllBlank extra.1 = false
      ∧ ∀ requirement ∈ extra.2, Text.isAllBlank requirement = false := by
  simp only [check, forM_eq_ok_iff, bind_eq_ok_iff, nonBlank_eq_ok_iff]

/-- The description of a package passes exactly if each of its values does. -/
theorem Metadata.check_eq_ok_iff {m : Metadata} :
    m.check = .ok () ↔ Text.isAllBlank m.name = false ∧ isVersion m.version = true
      ∧ Text.isAllBlank m.author = false
      ∧ Check.email "package.author_email" m.authorEmail = .ok ()
      ∧ Check.url "package.url" m.url = .ok () ∧ Text.isAllBlank m.description = false
      ∧ Check.path "package.readme" m.readme = .ok ()
      ∧ Text.isAllBlank m.pythonRequires = false ∧ m.extras.check = .ok () := by
  simp only [check, bind_eq_ok_iff, nonBlank_eq_ok_iff, version_eq_ok_iff]

/-- The section on binaries passes exactly if its directories do, there is a binary, and the names
of the binaries pass. -/
theorem BuildSection.check_eq_ok_iff {b : BuildSection} :
    b.check = .ok () ↔ Check.path "build.root_dir" b.rootDir = .ok ()
      ∧ Check.path "build.bin_dir" b.binDir = .ok ()
      ∧ Check.path "build.output_dir" b.outputDir = .ok () ∧ b.binaries ≠ []
      ∧ (∀ name ∈ b.binaries, PlainName name) ∧ b.binaries.Nodup := by
  cases hbinaries : b.binaries.isEmpty with
  | true => simp [check, bind_eq_ok_iff, List.isEmpty_iff.mp hbinaries]
  | false =>
    have hsome : b.binaries ≠ [] := List.isEmpty_eq_false_iff.mp hbinaries
    simp [check, bind_eq_ok_iff, hbinaries, hsome, plainNames_eq_ok_iff]

namespace Manifest

/-- A manifest passes exactly if all its sections do. -/
theorem check_eq_ok_iff {m : Manifest} :
    m.check = .ok () ↔ m.package.check = .ok () ∧ m.build.check = .ok ()
      ∧ checkGiven "scripts.dir" m.scripts.dir = .ok ()
      ∧ checkGiven "scripts.output_dir" m.scripts.outputDir = .ok ()
      ∧ ((∀ name ∈ m.scriptNames, PlainName name) ∧ m.scriptNames.Nodup)
      ∧ checkGiven "dist.output_dir" (m.dist.map (·.outputDir)) = .ok () := by
  simp only [check, bind_eq_ok_iff, plainNames_eq_ok_iff]

/-- A manifest is accepted exactly if it passes and its directories are distinct, and then for its
own plan. -/
theorem resolve_eq_ok_iff {canonical : Canonical} {m : Manifest} {r : Resolved} :
    m.resolve canonical = .ok r ↔ m.check = .ok ()
      ∧ distinctDirs canonical "build.output_dir" m.plan.outputDir m.plan.binDir = .ok ()
      ∧ distinctDirs canonical "scripts.output_dir" m.plan.scriptsOutputDir
        m.plan.scriptsSourceDir = .ok ()
      ∧ ⟨m.package, m.plan⟩ = r := by
  simp only [resolve, bind_eq_ok_iff, pure, Except.pure, Except.ok.injEq]

/-- The names of an accepted manifest, as its plan has them. -/
theorem names_of_resolve {canonical : Canonical} {m : Manifest} {r : Resolved}
    (h : m.resolve canonical = .ok r) :
    ((∀ name ∈ r.plan.binaries, PlainName name) ∧ r.plan.binaries.Nodup)
      ∧ (∀ name ∈ r.plan.scripts, PlainName name) ∧ r.plan.scripts.Nodup := by
  obtain ⟨hcheck, -, -, rfl⟩ := resolve_eq_ok_iff.mp h
  obtain ⟨-, hbuild, -, -, hscripts, -⟩ := check_eq_ok_iff.mp hcheck
  obtain ⟨-, -, -, -, hbinaries⟩ := BuildSection.check_eq_ok_iff.mp hbuild
  exact ⟨hbinaries, hscripts⟩

end Manifest
end ToolPack
