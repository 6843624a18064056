import ToolPack.Program
import ToolPack.Proofs.Package.Archivable
import ToolPack.Proofs.Storage.Filing

/-!
# What the exit status tells

A failure that the user can mend has the exit status one: the manifest is at fault, or a file is
missing.  Such failures are found before anything is changed, so that status says that everything is
as it was.  What can fail later is a call to the storage or the building of the archive, and that
has the status three.

## What is here

* `packaging`: reading a manifest, making its plan and carrying it out, as one action;
* `quiet_or_exitCode_eq`: a failure changed nothing, or its status is three;
* `exit_one_leaves_everything`: what follows for all storages and schedules of failing calls;
* `Program.exit_onTree`: what follows for the program on a tree of files.
-/

set_option autoImplicit false

namespace ToolPack

open Storage ToolPack.Action

/-- Every error is one that the user can mend or a critical one. -/
theorem PackError.exitCode_eq (e : PackError) : e.exitCode = 1 ∨ e.exitCode = 3 := by
  cases e with
  | io cause => exact .inr rfl
  | archive cause => exact .inr rfl
  | serialization detail => exact .inr rfl
  | _ => exact .inl rfl

/-- An action that ends at once. -/
def Action.ofExcept {α : Type} : Except PackError α → Action α
  | .ok value => .done value
  | .error e => .fail e

namespace Package

/-- Making a plan of a manifest that was read, and carrying it out. -/
def packaging (canonical : Canonical) (loaded : Except PackError Manifest) : Action Outcome := do
  let m ← Action.ofExcept loaded
  let r ← Action.ofExcept (m.resolve canonical)
  run r

theorem packaging_error (canonical : Canonical) (e : PackError) :
    packaging canonical (.error e) = .fail e := rfl

theorem packaging_of_refused {canonical : Canonical} {m : Manifest} {e : PackError}
    (h : m.resolve canonical = .error e) : packaging canonical (.ok m) = .fail e := by
  simp only [packaging, Action.ofExcept, done_bind, h, fail_bind]

theorem packaging_of_resolved {canonical : Canonical} {m : Manifest} {r : Resolved}
    (h : m.resolve canonical = .ok r) : packaging canonical (.ok m) = run r := by
  simp only [packaging, Action.ofExcept, done_bind, h]

/-- A run that fails has only looked, or it ends with a critical error. -/
theorem quiet_or_exitCode_run {σ : Type} {handler : Handler σ} {r : Resolved} {state : σ}
    {e : PackError} (he : ((run r).run handler state).result = .error e) :
    (∀ c ∈ ((run r).run handler state).calls, c.changes = false) ∨ e.exitCode = 3 := by
  rcases failed_or_ended r handler state with ⟨before, c, cause, -, hresult⟩ | hend
  · -- a call that fails ends the run with an error of the storage
    rw [he] at hresult
    obtain rfl := Except.error.inj hresult
    exact .inr rfl
  · rw [he] at hend
    generalize hx : (run r).exchanges handler state = past at hend
    generalize hr : (Except.error e : Except PackError Outcome) = result at hend
    cases hend with
    | refused hrefused =>
      left
      refine changes_of_quiet ?_
      rw [hx]
      exact hrefused.quiet
    | @threePhases report archive past hphases =>
      cases archive with
      | ok path => cases hr
      | error e' =>
        obtain ⟨name, -, rfl⟩ := hphases.repeated?
        obtain rfl := Except.error.inj hr
        exact .inr rfl

/-- So it is when making the plan is a part of it. -/
theorem quiet_or_exitCode_eq {σ : Type} {handler : Handler σ} {canonical : Canonical}
    {loaded : Except PackError Manifest} {state : σ} {e : PackError}
    (he : ((packaging canonical loaded).run handler state).result = .error e) :
    (∀ c ∈ ((packaging canonical loaded).run handler state).calls, c.changes = false)
      ∨ e.exitCode = 3 := by
  cases loaded with
  | error cause => exact .inl fun c hc => absurd hc List.not_mem_nil
  | ok m =>
    cases hresolved : m.resolve canonical with
    | error cause =>
      rw [packaging_of_refused hresolved]
      exact .inl fun c hc => absurd hc List.not_mem_nil
    | ok r =>
      rw [packaging_of_resolved hresolved] at he ⊢
      exact quiet_or_exitCode_run he

/-- **The exit status one says that nothing was touched**, for every manifest, every storage and
whichever calls fail: only sizes and bytes were asked for, and the storage is as before.  The other
way round, every failure behind a call that changes something has the status three, and no failure
has another status than these two. -/
theorem exit_one_leaves_everything {σ : Type} {handler : Handler σ} (hlooks : LooksOnly handler)
    (canonical : Canonical) (loaded : Except PackError Manifest) (state : σ)
    (schedule : Schedule) :
    let ran := (packaging canonical loaded).run (failing schedule handler) ⟨state, []⟩
    ∀ e, ran.result = .error e →
      (e.exitCode = 1 → (∀ c ∈ ran.calls, ∃ path, c = .size path ∨ c = .read path)
          ∧ ran.state.storage = state)
        ∧ ((∃ c ∈ ran.calls, c.changes = true) → e.exitCode = 3)
        ∧ e.exitCode ≠ 0 ∧ e.exitCode ≠ 2 := by
  intro ran e he
  have hcases : (∀ c ∈ ran.calls, c.changes = false) ∨ e.exitCode = 3 := quiet_or_exitCode_eq he
  refine ⟨fun hone => ?_, fun ⟨c, hc, hchanges⟩ => ?_, ?_, ?_⟩
  · have hquiet : ∀ c ∈ ran.calls, c.changes = false := hcases.resolve_right (by omega)
    refine ⟨fun c hc => Call.changes_eq_false_iff.mp (hquiet c hc), ?_⟩
    show ((packaging canonical loaded).run (failing schedule handler) ⟨state, []⟩).state.storage
      = state
    rw [state_run]
    exact hlooks.storage_after hquiet ⟨state, []⟩
  · refine hcases.resolve_left fun hquiet => ?_
    rw [hquiet c hc] at hchanges
    cases hchanges
  · rcases e.exitCode_eq with h | h <;> omega
  · rcases e.exitCode_eq with h | h <;> omega

/-- The small package without its script: that is found out before its binary is copied. -/
theorem missing_script_leaves_everything :
    let files : Memory := kitFiles.erase ⟨"./scripts/tool"⟩
    let ran := (packaging (fun _ => none) (.ok (kit {} {}))).run (failing never Memory.handler)
      ⟨files, []⟩
    LooksOnly Memory.handler ∧ ran.result = .error (.missingScript ⟨"./scripts/tool"⟩)
      ∧ ran.state.storage = files := by
  intro files ran
  have hresult : ran.result = .error (.missingScript ⟨"./scripts/tool"⟩) := by rfl
  exact ⟨looksOnly_memory, hresult, ((exit_one_leaves_everything looksOnly_memory (fun _ => none)
    (.ok (kit {} {})) files never _ hresult).1 rfl).2⟩

end Package

namespace Program

open Package

/-- The exit status for what a run ends with. -/
def exitStatus : Except PackError Outcome → Nat
  | .ok _ => 0
  | .error e => e.exitCode

theorem exit_finish (result : Except PackError Outcome) (events : List Log.Event) :
    (finish result events).exit = exitStatus result := by
  cases result <;> rfl

/-- The manifest of the options' file, as the options change it. -/
def manifest (o : Options) (s : Surroundings) : Except PackError Manifest :=
  load o s >>= override o s

/-- Packaging as the options ask for it. -/
def packagingOf (o : Options) (s : Surroundings) : Action Outcome :=
  packaging (canonicalFrom o.base s) (manifest o s)

theorem exit_failed_ne_zero (e : PackError) (err : List String) (events : List Log.Event) :
    (failed e err events).exit ≠ 0 := by
  show e.exitCode ≠ 0
  rcases e.exitCode_eq with h | h <;> omega

theorem exitCode_shownFrom (base : OsPath) (e : PackError) :
    (shownFrom base e).exitCode = e.exitCode := by
  unfold shownFrom
  split <;> rfl

/-- What the preparations come to: an error with the status of the one that packaging ends with, a
plan that is shown, or the plan that packaging carries out. -/
theorem prepare_cases (o : Options) (s : Surroundings) :
    (∃ e e' err events, prepare o s = .ended (failed e err events) ∧ packagingOf o s = .fail e'
        ∧ e.exitCode = e'.exitCode)
      ∨ (∃ p events, prepare o s = .ended (shown o.base p events))
      ∨ ∃ r events, prepare o s = .ready r events ∧ packagingOf o s = run r := by
  rw [prepare, packagingOf, manifest]
  cases load o s with
  | error e => exact .inl ⟨e, e, _, _, rfl, packaging_error _ e, rfl⟩
  | ok m =>
    simp only [bind, Except.bind]
    cases override o s m with
    | error e => exact .inl ⟨e, e, _, _, rfl, packaging_error _ e, rfl⟩
    | ok m =>
      cases hresolved : m.resolve (canonicalFrom o.base s) with
      | error e =>
        simp only [resolve, hresolved, Except.mapError]
        exact .inl ⟨_, e, _, _, rfl, packaging_of_refused hresolved, exitCode_shownFrom _ e⟩
      | ok r =>
        simp only [resolve, hresolved, Except.mapError]
        cases o.dryRun with
        | true => exact .inr (.inl ⟨r.plan, _, rfl⟩)
        | false => exact .inr (.inr ⟨r, _, rfl, packaging_of_resolved hresolved⟩)

theorem exit_shown (base : OsPath) (p : Plan) (events : List Log.Event) :
    (shown base p events).exit = if Showable base p then 0 else 1 := by
  rw [shown]
  split_ifs <;> rfl

/-- The program on a tree packages the manifest that it is given, or only shows the plan. -/
theorem onTree_cases (o : Options) (env : Environment) (t : FileTree) :
    let ran := (packagingOf o (surroundings o env t)).run FileTree.handler t
    ((onTree o env t).1.exit = exitStatus ran.result ∧ (onTree o env t).2 = ran.state)
      ∨ ((onTree o env t).1.exit = 0 ∨ (onTree o env t).1.exit = 1) ∧ (onTree o env t).2 = t := by
  intro ran
  rcases prepare_cases o (surroundings o env t) with
    ⟨e, e', err, events, hprepare, hpackaging, hexit⟩ | ⟨p, events, hprepare⟩
    | ⟨r, events, hprepare, hpackaging⟩
  · left
    have hran : ran = ⟨.error e', [], [], t⟩ := by
      show (packagingOf o (surroundings o env t)).run FileTree.handler t = _
      rw [hpackaging, run_fail]
    rw [onTree, hprepare, hran]
    exact ⟨hexit, rfl⟩
  · right
    rw [onTree, hprepare]
    refine ⟨?_, rfl⟩
    rw [exit_shown]
    exact (em (Showable o.base p)).imp (if_pos ·) (if_neg ·)
  · left
    have hran : ran = (run r).run FileTree.handler t := by
      show (packagingOf o (surroundings o env t)).run FileTree.handler t = _
      rw [hpackaging]
    rw [onTree, hprepare, hran]
    exact ⟨exit_finish _ _, rfl⟩

/-- **The program ends with the status zero, one or three, and if it is one then the tree is as it
was.** -/
theorem exit_onTree (o : Options) (env : Environment) (t : FileTree) :
    ((onTree o env t).1.exit = 0 ∨ (onTree o env t).1.exit = 1 ∨ (onTree o env t).1.exit = 3)
      ∧ ((onTree o env t).1.exit = 1 → (onTree o env t).2 = t) := by
  rcases onTree_cases o env t with ⟨hexit, htree⟩ | ⟨hexit, htree⟩
  · rw [hexit, htree]
    cases hresult : ((packagingOf o (surroundings o env t)).run FileTree.handler t).result with
    | ok outcome => exact ⟨.inl rfl, fun hone => nomatch hone⟩
    | error e =>
      refine ⟨.inr e.exitCode_eq, fun hone => ?_⟩
      have hone : e.exitCode = 1 := hone
      have hquiet := (quiet_or_exitCode_eq hresult).resolve_right (by omega)
      rw [state_run]
      exact looksOnly_tree.state_after hquiet t
  · exact ⟨hexit.imp_right .inl, fun _ => htree⟩

end Program
end ToolPack
