import ToolPack.Proofs.Package.Sample

/-!
# When copies are true to their sources

A run that ends well reports what it has copied, from where and how large.  At the end the report
may be wrong: a source may have been replaced before its turn came, and what was copied may have
been replaced since, by another copy or by a description.  Again the plan alone decides.

## What is here

* `Copying.get?_after`: what the first half of a run has put under a path;
* `Faithful`: a plan none of whose copies is disturbed by the others or by a description;
* `Delivered`: a file of the report is what it should be;
* `delivers_iff`: the plans whose runs deliver everything they report;
* `script_is_not_delivered`: a manifest that is accepted and whose run reports what is not so.
-/

set_option autoImplicit false

namespace ToolPack
namespace Package

open Storage ToolPack.Action

/-! ## What stands under a path at the end -/

/-- After a part of the first half every path holds what its origin held at the start. -/
theorem Copying.get?_after {plan : Plan} {report : Report} {before rest : List Exchange}
    {m : Memory} (h : Copying plan report (before ++ rest)) (hm : Sound plan m) (path : Path) :
    (after Memory.handler (before.map (·.call)) m).get? path
      = m.get? (origin (copiesOf before) path) := by
  have hcopies : (before.map (·.call)).filterMap Call.copied? = copiesOf before := by
    rw [List.filterMap_map]
    rfl
  rw [← hcopies]
  refine Memory.get?_after_eq_origin (fun c hc hcopied => ?_) (fun c hc => ?_) path
  · obtain ⟨x, hx, rfl⟩ := List.mem_map.mp hc
    rcases h.reported x (List.mem_append_left _ hx) with hwritten | ⟨source, file, -, rfl⟩
    · exact hwritten
    · cases hcopied
  · rw [hcopies] at hc
    refine hm.present _ (Plan.source_mem_inputs (c := c) ?_)
    rw [← h.copies, copiesOf_append]
    exact List.mem_append_left _ hc

/-- A path that is not described keeps what the first half has put there. -/
theorem Describing.get?_after_of_not_mem {r : Resolved} {back : List Exchange} {path : Path}
    (h : Describing r back) (hpath : path ∉ r.described) (m : Memory) :
    (after Memory.handler (back.map (·.call)) m).get? path = m.get? path := by
  refine Memory.get?_after_of_not_mem (fun c hc hwritten => ?_) m
  obtain ⟨x, hx, rfl⟩ := List.mem_map.mp hc
  rcases h.writes x hx with hquiet | ⟨other, data, hcall, hother, -⟩
  · rw [Call.written?_of_not_changes hquiet] at hwritten
    cases hwritten
  · rw [hcall] at hwritten
    exact hpath (Option.some.inj hwritten ▸ hother)

/-- A path that is described holds a description. -/
theorem Describing.get?_after_of_mem {r : Resolved} {back : List Exchange} {path : Path}
    (h : Describing r back) (hpath : path ∈ r.described) (m : Memory) :
    ∃ data, Description r data
      ∧ (after Memory.handler (back.map (·.call)) m).get? path = some data := by
  refine Memory.get?_after_of_writes (fun c hc => ?_) ?_ m
  · obtain ⟨x, hx, rfl⟩ := List.mem_map.mp hc
    rcases h.writes x hx with hquiet | ⟨other, data, hcall, -, hdata⟩
    · exact .inl hquiet
    · exact .inr ⟨other, data, hcall, hdata⟩
  · obtain ⟨x, hx, hwritten⟩ := h.written path hpath
    exact ⟨x.call, List.mem_map_of_mem hx, hwritten⟩

/-- A copy of the first half tells the size of what its source holds at its turn. -/
theorem Copying.size_eq {r : Resolved} {report : Report} {before rest back : List Exchange}
    {m : Memory} {source target : Path} {size : Nat} (hm : Sound r.plan m)
    (h : Copying r.plan report (before ++ ⟨.copy source target, .ok size⟩ :: rest))
    (hx : (run r).exchanges Memory.handler m
      = before ++ ⟨.copy source target, .ok size⟩ :: rest ++ back) :
    ∃ data, m.get? (origin (copiesOf before) source) = some data ∧ size = data.size := by
  rw [List.append_assoc, List.cons_append] at hx
  have hanswer := (answer_of_exchanges hx).symm
  obtain ⟨data, hdata, hsize⟩ := Memory.answer_copy_eq_ok_iff.mp hanswer
  rw [h.get?_after hm] at hdata
  exact ⟨data, hdata, hsize⟩

/-! ## Delivered files -/

/-- No copy is disturbed: none replaces the source of a later one, two with one target have one
source, and no description has the path of a target. -/
structure Faithful (r : Resolved) : Prop where
  sources : r.plan.copies.Pairwise fun a b => a.2 = b.1 → a.1 = b.1
  targets : TargetsAgree r.plan.copies
  described : ∀ c ∈ r.plan.copies, c.2 ∉ r.described

instance (r : Resolved) : Decidable (Faithful r) :=
  decidable_of_iff ((r.plan.copies.Pairwise fun a b => a.2 = b.1 → a.1 = b.1)
      ∧ (∀ a ∈ r.plan.copies, ∀ b ∈ r.plan.copies, a.2 = b.2 → a.1 = b.1)
      ∧ ∀ c ∈ r.plan.copies, c.2 ∉ r.described)
    ⟨fun ⟨hsources, htargets, hdescribed⟩ => ⟨hsources, htargets, hdescribed⟩,
      fun h => ⟨h.sources, h.targets, h.described⟩⟩

/-- A file of a report is at the end what its source was at the start, and has its size. -/
def Delivered (start final : Memory) (source : Path) (file : StagedFile) : Prop :=
  ∃ data, start.get? source = some data ∧ final.get? file.destination = some data
    ∧ file.size = data.size

/-- The state at the end is where the second half leads from where the first one has led. -/
theorem state_of_halves {r : Resolved} {m : Memory} {front back : List Exchange}
    (hx : (run r).exchanges Memory.handler m = front ++ back) :
    ((run r).run Memory.handler m).state
      = after Memory.handler (back.map (·.call))
          (after Memory.handler (front.map (·.call)) m) := by
  rw [state_run, ← map_call_exchanges, hx, List.map_append, after_append]

/-- A path that is not described holds at the end what its origin held at the start. -/
theorem get?_state_of_halves {r : Resolved} {m : Memory} {report : Report}
    {front back : List Exchange} {path : Path} (hm : Sound r.plan m)
    (hcopying : Copying r.plan report front) (hdescribing : Describing r back)
    (hx : (run r).exchanges Memory.handler m = front ++ back) (hpath : path ∉ r.described) :
    ((run r).run Memory.handler m).state.get? path = m.get? (origin r.plan.copies path) := by
  rw [state_of_halves hx, hdescribing.get?_after_of_not_mem hpath]
  rw [← List.append_nil front] at hcopying
  rw [hcopying.get?_after hm, ← hcopying.copies, List.append_nil]

/-- A run of a faithful plan that gets through delivers every file that it reports. -/
theorem Faithful.delivered {r : Resolved} (h : Faithful r) {m : Memory} (hm : Sound r.plan m)
    {report : Report} {front back : List Exchange} (hcopying : Copying r.plan report front)
    (hdescribing : Describing r back)
    (hx : (run r).exchanges Memory.handler m = front ++ back) {source : Path}
    {file : StagedFile} (hfile : Reported r.plan report source file) :
    Delivered m ((run r).run Memory.handler m).state source file := by
  obtain ⟨before, rest, hsplit⟩ := List.append_of_mem (hcopying.copied source file hfile)
  have hcopies : r.plan.copies
      = copiesOf before ++ (source, file.destination) :: copiesOf rest := by
    rw [← hcopying.copies, hsplit, copiesOf_append]
    rfl
  have hmem : (source, file.destination) ∈ r.plan.copies := by simp [hcopies]
  have hsources := sourcesKept_of_pairwise h.sources
  obtain ⟨data, hdata, hsize⟩ := (hsplit ▸ hcopying).size_eq hm (hsplit ▸ hx)
  rw [hsources _ _ _ hcopies] at hdata
  refine ⟨data, hdata, ?_, hsize⟩
  rw [get?_state_of_halves hm hcopying hdescribing hx (h.described _ hmem),
    origin_target hsources h.targets _ hmem]
  exact hdata

/-- A plan whose run on the sample delivers every file that it reports is faithful. -/
theorem faithful_of_delivered {r : Resolved} {report : Report} {front back : List Exchange}
    (hcopying : Copying r.plan report front) (hdescribing : Describing r back)
    (hx : (run r).exchanges Memory.handler (sample r.plan) = front ++ back)
    (h : ∀ source file, Reported r.plan report source file → Delivered (sample r.plan)
      ((run r).run Memory.handler (sample r.plan)).state source file) : Faithful r := by
  have hm := sound_sample r.plan
  have hdelivered : ∀ c ∈ r.plan.copies, ∃ data, (sample r.plan).get? c.1 = some data
      ∧ ((run r).run Memory.handler (sample r.plan)).state.get? c.2 = some data := by
    intro c hc
    obtain ⟨before, rest, hcopies⟩ := List.append_of_mem hc
    obtain ⟨-, file, -, -, -, hfile, htarget⟩ := hcopying.split hcopies
    obtain ⟨data, hsource, hget, -⟩ := h c.1 file hfile
    exact ⟨data, hsource, htarget ▸ hget⟩
  have hdescribed : ∀ c ∈ r.plan.copies, c.2 ∉ r.described := by
    intro c hc hmem
    obtain ⟨data, hsource, htarget⟩ := hdelivered c hc
    obtain ⟨found, hfound, hget⟩ := hdescribing.get?_after_of_mem hmem
      (after Memory.handler (front.map (·.call)) (sample r.plan))
    rw [state_of_halves hx, hget] at htarget
    rw [← htarget] at hsource
    exact not_description hsource hfound
  have hend : ∀ c ∈ r.plan.copies, origin r.plan.copies c.2 = c.1 := by
    intro c hc
    obtain ⟨data, hsource, htarget⟩ := hdelivered c hc
    rw [get?_state_of_halves hm hcopying hdescribing hx (hdescribed c hc)] at htarget
    exact eq_of_size htarget hsource rfl
  have htargets : TargetsAgree r.plan.copies := by
    intro a ha b hb hab
    rw [← hend a ha, ← hend b hb, hab]
  -- the reported size is that of what a copy has found, so it tells which file that was
  have hsources : SourcesKept r.plan.copies := by
    intro before c rest hcopies
    obtain ⟨first, file, later, rfl, hfirst, hfile, -⟩ := hcopying.split hcopies
    obtain ⟨data, hsource, -, hsize⟩ := h c.1 file hfile
    obtain ⟨found, hfound, hfoundSize⟩ := hcopying.size_eq hm hx
    rw [hfirst] at hfound
    exact eq_of_size hfound hsource (hfoundSize.symm.trans hsize)
  exact ⟨pairwise_of_origin hsources htargets, htargets, hdescribed⟩

/-- **A run that ends well delivers every file that it reports, on every storage, exactly if its
plan is faithful**, or if no run of the plan ends well because the archive that is wanted cannot
be built. -/
theorem delivers_iff (r : Resolved) :
    (∀ (m : Memory) (o : Outcome), ((run r).run Memory.handler m).result = .ok o →
        let final := ((run r).run Memory.handler m).state
        (∀ file ∈ o.report.binaries, Delivered m final (r.plan.binDir.join file.name) file)
          ∧ ∀ file ∈ o.report.scripts,
            Delivered m final (r.plan.scriptsSourceDir.join file.name) file)
      ↔ Faithful r ∨ (r.plan.distDir ≠ none ∧ ¬ r.archiveNames.Nodup) := by
  constructor
  · intro h
    by_cases hnames : r.plan.distDir = none ∨ r.archiveNames.Nodup
    · left
      obtain ⟨report, archive, hphases, hresult⟩ := threePhases_of_sound (sound_sample r.plan)
      obtain ⟨path, rfl⟩ := hphases.ok_iff.mpr hnames
      obtain ⟨front, back, hx, hcopying, hdescribing⟩ := hphases.halves
      obtain ⟨hbinaries, hscripts⟩ := h (sample r.plan) (outcome r report path) hresult
      refine faithful_of_delivered hcopying hdescribing hx ?_
      rintro source file (hfile | hfile)
      · exact hbinaries _ hfile
      · exact hscripts _ hfile
    · right
      exact not_or.mp hnames
  · intro h m o hresult
    have hm := sound_of_ok hresult
    obtain ⟨report, path, hphases, rfl⟩ := threePhases_of_ok hresult
    obtain ⟨front, back, hx, hcopying, hdescribing⟩ := hphases.halves
    rcases h with hfaithful | ⟨hdist, hnames⟩
    · exact ⟨fun file hfile => hfaithful.delivered hm hcopying hdescribing hx (.binary hfile),
        fun file hfile => hfaithful.delivered hm hcopying hdescribing hx (.script hfile)⟩
    · rcases hphases.ok_iff.mp ⟨path, rfl⟩ with hnone | hnodup
      · exact absurd hnone hdist
      · exact absurd hnodup hnames

/-- A package that gives no directories is faithful. -/
example : Faithful ⟨kitMetadata, (kit {} {}).plan⟩ := by decide +kernel

/-- A manifest that is accepted and whose binaries go where its scripts are: the script that the
run reports holds the binary. -/
theorem script_is_not_delivered :
    let m := kit { outputDir := "scripts" } {}
    let r : Resolved := ⟨m.package, m.plan⟩
    let ran := (run r).run Memory.handler kitFiles
    m.resolve (fun _ => none) = .ok r
      ∧ ∃ o, ran.result = .ok o ∧ ∃ file ∈ o.report.scripts,
        ran.state.get? file.destination
          ≠ kitFiles.get? (r.plan.scriptsSourceDir.join file.name) := by
  intro m r ran
  have hscript : (match ran.result with
      | .ok o => decide (∃ file ∈ o.report.scripts, ran.state.get? file.destination
          ≠ kitFiles.get? (r.plan.scriptsSourceDir.join file.name))
      | .error _ => false) = true := by
    decide +kernel
  refine ⟨Manifest.resolve_eq_of_isOk (by decide +kernel), ?_⟩
  cases hresult : ran.result with
  | error e =>
    rw [hresult] at hscript
    cases hscript
  | ok o =>
    rw [hresult] at hscript
    exact ⟨o, rfl, of_decide_eq_true hscript⟩

end Package
end ToolPack
