import ToolPack.Proofs.Package.Sample

/-!
# When a run keeps its inputs

A run may damage what it reads: the directories that it writes to can hold inputs.  Whether it can
is a matter of the plan alone, and of nothing but two kinds of clash, a copy whose target is an
input that is not its source, and a description that has the path of an input.

## What is here

* `SparesInputs`: a plan without such clashes;
* `keeps_inputs_iff`: these are the plans that damage no input, on any storage and with any
  schedule of failing calls;
* `binary_is_lost`: a manifest that is accepted and has such a clash.
-/

set_option autoImplicit false

namespace ToolPack
namespace Package

open Storage ToolPack.Action

/-- No copy puts something else in the place of an input, and no description is put there. -/
structure SparesInputs (r : Resolved) : Prop where
  copies : ∀ c ∈ r.plan.copies, c.2 ∈ r.plan.inputs → c.1 = c.2
  described : ∀ path ∈ r.described, path ∉ r.plan.inputs

instance (r : Resolved) : Decidable (SparesInputs r) :=
  decidable_of_iff ((∀ c ∈ r.plan.copies, c.2 ∈ r.plan.inputs → c.1 = c.2)
      ∧ ∀ path ∈ r.described, path ∉ r.plan.inputs)
    ⟨fun ⟨hcopies, hdescribed⟩ => ⟨hcopies, hdescribed⟩, fun h => ⟨h.copies, h.described⟩⟩

/-- Storages that hold the same inputs. -/
def SameInputs (plan : Plan) (m₁ m₂ : Memory) : Prop :=
  ∀ path ∈ plan.inputs, m₁.get? path = m₂.get? path

/-! ## Plans without clashes -/

/-- A copy of a plan without clashes keeps the inputs. -/
theorem SparesInputs.get?_copy {r : Resolved} (h : SparesInputs r) {c : Path × Path}
    (hc : c ∈ r.plan.copies) {path : Path} (hpath : path ∈ r.plan.inputs) (m : Memory) :
    (Memory.handler (.copy c.1 c.2) m).2.get? path = m.get? path := by
  by_cases htarget : c.2 = path
  · rw [h.copies c hc (htarget ▸ hpath)]
    exact Memory.get?_handler_copy_self m c.2 path
  · have hother : (Call.copy c.1 c.2).written? ≠ some path := fun he => htarget (Option.some.inj he)
    exact Memory.get?_handler_of_ne hother m

/-- So does every call that a run may ask for. -/
theorem SparesInputs.get?_allowed {r : Resolved} (h : SparesInputs r) {past : List Exchange}
    {c : Call} (hc : Allowed r past c) {path : Path} (hpath : path ∈ r.plan.inputs)
    (m : Memory) : (Memory.handler c m).2.get? path = m.get? path := by
  cases hc with
  | look hquiet hlook => rw [Memory.handler_of_not_changes hlook.not_changes]
  | stage hseen hstage =>
    cases hstage with
    | makeDirs hdir => rfl
    | copy hcopy => exact h.get?_copy hcopy hpath m
    | mark hname => exact Memory.get?_mark m _ path
  | describe hseen hdescribe =>
    rcases hdescribe.isDescribing with hquiet | ⟨other, data, rfl, hother, -⟩
    · rw [Memory.handler_of_not_changes hquiet]
    · have hne : (Call.write other data).written? ≠ some path :=
        fun he => h.described other hother (Option.some.inj he ▸ hpath)
      exact Memory.get?_handler_of_ne hne m

theorem SparesInputs.keeps {r : Resolved} (h : SparesInputs r) (m : Memory)
    (schedule : Schedule) :
    SameInputs r.plan ((run r).run (failing schedule Memory.handler) ⟨m, []⟩).state.storage m := by
  refine (ensures_run r).invariant (stopsOnFailure_run r)
    (P := fun (w : Watched Memory) => SameInputs r.plan w.storage m)
    (fun past c w hc hw path hpath => ?_) fun path hpath => rfl
  rcases storage_failing schedule Memory.handler c w with hstorage | hstorage
  · rw [hstorage, h.get?_allowed hc hpath]
    exact hw path hpath
  · rw [hstorage]
    exact hw path hpath

/-! ## Plans with a clash -/

/-- If no cut of a run damages an input, then no call of the run does. -/
theorem sameInputs_of_cuts {r : Resolved} {m : Memory}
    (h : ∀ schedule, SameInputs r.plan
      ((run r).run (failing schedule Memory.handler) ⟨m, []⟩).state.storage m)
    {before rest : List Call}
    (hcalls : ((run r).run Memory.handler m).calls = before ++ rest) :
    SameInputs r.plan (after Memory.handler before m) m := by
  rw [← storage_run_cut (stopsOnFailure_run r) hcalls]
  exact h _

/-- A plan that damages nothing has no clashes: they show on the sample. -/
theorem sparesInputs_of_keeps {r : Resolved}
    (h : ∀ schedule, SameInputs r.plan ((run r).run (failing schedule Memory.handler)
      ⟨sample r.plan, []⟩).state.storage (sample r.plan)) : SparesInputs r := by
  obtain ⟨report, archive, hphases, -⟩ := threePhases_of_sound (sound_sample r.plan)
  obtain ⟨front, back, hx, hcopying, hdescribing⟩ := hphases.halves
  have hcalls := map_call_exchanges Memory.handler (run r) (sample r.plan)
  rw [hx, List.map_append] at hcalls
  -- what a call finds and what it leaves, as far as inputs go
  have hsplit : ∀ x ∈ front ++ back, ∃ m, SameInputs r.plan m (sample r.plan)
      ∧ SameInputs r.plan (Memory.handler x.call m).2 (sample r.plan) := by
    intro x hx
    obtain ⟨before, rest, hsplit⟩ := List.append_of_mem hx
    rw [← List.map_append, hsplit, List.map_append, List.map_cons] at hcalls
    refine ⟨after Memory.handler (before.map (·.call)) (sample r.plan),
      sameInputs_of_cuts h hcalls.symm, ?_⟩
    have hnext := sameInputs_of_cuts h ((List.append_cons _ _ _).symm.trans hcalls).symm
    rwa [after_append, after_cons, after_nil] at hnext
  refine ⟨fun c hc htarget => ?_, fun path hpath hinput => ?_⟩
  · obtain ⟨earlier, later, hcopies⟩ := List.append_of_mem hc
    obtain ⟨before, file, rest, rfl, -⟩ := hcopying.split hcopies
    obtain ⟨m, hbefore, hafter⟩ := hsplit ⟨.copy c.1 c.2, .ok file.size⟩ (by simp)
    have hsource := Plan.source_mem_inputs hc
    have hdata := (hbefore c.1 hsource).trans (get?_sample hsource)
    have htarget' := hafter c.2 htarget
    rw [Memory.handler_copy_ok hdata, Memory.get?_set_self] at htarget'
    exact eq_of_size (get?_sample hsource) htarget'.symm rfl
  · obtain ⟨x, hxmem, hxpath⟩ := hdescribing.written path hpath
    obtain ⟨m, -, hafter⟩ := hsplit x (List.mem_append_right _ hxmem)
    rcases hdescribing.writes x hxmem with hquiet | ⟨other, data, hcall, -, hdata⟩
    · rw [Call.written?_of_not_changes hquiet] at hxpath
      cases hxpath
    · rw [hcall] at hafter hxpath
      obtain rfl := Option.some.inj hxpath
      have hleft := hafter other hinput
      rw [Memory.handler, Memory.get?_set_self] at hleft
      exact not_description hleft.symm hdata

/-- **A run keeps its inputs, whatever the storage is and whichever calls fail, exactly if its
plan has no clash**: no copy has an input that is not its source for a target, and no description
has the path of an input. -/
theorem keeps_inputs_iff (r : Resolved) :
    (∀ (m : Memory) (schedule : Schedule), ∀ path ∈ r.plan.inputs,
        ((run r).run (failing schedule Memory.handler) ⟨m, []⟩).state.storage.get? path
          = m.get? path)
      ↔ SparesInputs r :=
  ⟨fun h => sparesInputs_of_keeps fun schedule => h (sample r.plan) schedule,
    fun h m schedule => h.keeps m schedule⟩

/-- A package that gives no directories spares its inputs. -/
example : SparesInputs ⟨kitMetadata, (kit {} {}).plan⟩ := by decide +kernel

/-- A manifest that is accepted and whose scripts go where its binaries are: the binary is lost,
though no call fails. -/
theorem binary_is_lost :
    let m := kit {} { outputDir := some "build/bin" }
    let r : Resolved := ⟨m.package, m.plan⟩
    let final := ((run r).run (failing never Memory.handler) ⟨kitFiles, []⟩).state.storage
    m.resolve (fun _ => none) = .ok r
      ∧ ⟨"./build/bin/tool"⟩ ∈ r.plan.inputs
      ∧ final.get? ⟨"./build/bin/tool"⟩ = kitFiles.get? ⟨"./scripts/tool"⟩
      ∧ final.get? ⟨"./build/bin/tool"⟩ ≠ kitFiles.get? ⟨"./build/bin/tool"⟩ :=
  ⟨Manifest.resolve_eq_of_isOk (by decide +kernel), by decide +kernel, by decide +kernel,
    by decide +kernel⟩

end Package
end ToolPack
