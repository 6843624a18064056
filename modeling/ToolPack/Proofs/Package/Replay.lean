import ToolPack.Proofs.Package.Sample

/-!
# A run depends on its inputs only

What lies about in a storage from earlier runs has no part in a run.  Two storages that agree on
the inputs of a plan may differ everywhere else, also in the directories that the run writes to,
and inputs may be overwritten on the way: the runs on both make the same calls, write the same
bytes and end alike.
-/

set_option autoImplicit false

namespace ToolPack
namespace Package

open Storage ToolPack.Action

/-- **Two runs from storages that agree on the inputs are the same run.**  They make the same
calls, are answered alike, report the same events and end alike.  At every moment both storages
hold the same bytes under every path that has been written by then, and what no call writes stays
as each of them had it. -/
theorem run_depends_on_inputs_only (r : Resolved) (m₁ m₂ : Memory)
    (hinputs : ∀ path ∈ r.plan.inputs, m₁.get? path = m₂.get? path) :
    let ran₁ := (run r).run Memory.handler m₁
    let ran₂ := (run r).run Memory.handler m₂
    ran₁.calls = ran₂.calls ∧ ran₁.result = ran₂.result ∧ ran₁.events = ran₂.events
    ∧ (run r).exchanges Memory.handler m₁ = (run r).exchanges Memory.handler m₂
    ∧ (∀ before rest, ran₁.calls = before ++ rest → ∀ c ∈ before, ∀ path,
        c.written? = some path →
          (after Memory.handler before m₁).get? path
            = (after Memory.handler before m₂).get? path)
    ∧ (∀ c ∈ ran₁.calls, ∀ path, c.written? = some path →
        ran₁.state.get? path = ran₂.state.get? path)
    ∧ ∀ path, (∀ c ∈ ran₁.calls, c.written? ≠ some path) →
        ran₁.state.get? path = m₁.get? path ∧ ran₂.state.get? path = m₂.get? path := by
  intro ran₁ ran₂
  have hstart : Memory.Agree (Known r.plan.inputs []) m₁ m₂ := by
    rintro path (hpath | ⟨x, hx, -⟩)
    · exact hinputs path hpath
    · exact absurd hx List.not_mem_nil
  obtain ⟨hexchanges, hresult, hevents, hmoments⟩ := (ensures_run r).agree
    (stopsOnFailure_run r) (fun past c path hallowed hpath => hallowed.reads hpath) hstart
  have hcalls : ran₁.calls = ran₂.calls := by
    rw [← map_call_exchanges, ← map_call_exchanges, hexchanges]
  have hwritten : ∀ before rest, ran₁.calls = before ++ rest → ∀ c ∈ before, ∀ path,
      c.written? = some path → (after Memory.handler before m₁).get? path
        = (after Memory.handler before m₂).get? path := by
    intro before rest hsplit c hc path hpath
    rw [← map_call_exchanges, List.map_eq_append_iff] at hsplit
    obtain ⟨front, more, hx, rfl, rfl⟩ := hsplit
    exact hmoments front more hx path (.inr (written_of_call hx hc hpath))
  refine ⟨hcalls, hresult, hevents, hexchanges, hwritten, fun c hc path hpath => ?_,
    fun path hpath => ⟨?_, ?_⟩⟩
  · have hend := hwritten ran₁.calls [] (List.append_nil _).symm c hc path hpath
    rw [state_run, state_run]
    rwa [hcalls] at hend ⊢
  · rw [state_run]
    exact Memory.get?_after_of_not_mem hpath m₁
  · rw [state_run]
    exact Memory.get?_after_of_not_mem (fun c hc => hpath c (hcalls ▸ hc)) m₂

/-- Headers that an earlier version of a package has left behind have no part in its next run. -/
theorem stale_headers_have_no_part :
    let r : Resolved := ⟨kitMetadata, (kit {} {}).plan⟩
    let stale := kitFiles.set ⟨"./build/lib/PKG-INFO"⟩ "Name: old".toUTF8
    kitFiles.get? ⟨"./build/lib/PKG-INFO"⟩ ≠ stale.get? ⟨"./build/lib/PKG-INFO"⟩
      ∧ (∀ path ∈ r.plan.inputs, kitFiles.get? path = stale.get? path)
      ∧ ((run r).run Memory.handler kitFiles).calls = ((run r).run Memory.handler stale).calls
      ∧ ((run r).run Memory.handler kitFiles).result
        = ((run r).run Memory.handler stale).result := by
  intro r stale
  have hinputs : ∀ path ∈ r.plan.inputs, kitFiles.get? path = stale.get? path := by
    decide +kernel
  obtain ⟨hcalls, hresult, -⟩ := run_depends_on_inputs_only r kitFiles stale hinputs
  exact ⟨by decide +kernel, hinputs, hcalls, hresult⟩

end Package
end ToolPack
