import ToolPack.Proofs.Package.Sample

/-!
# What a run touches

A run writes to the targets of its copies and to the files that describe the package, and nowhere
else; it takes nothing away, and it makes nothing executable but its scripts.  This holds whichever
calls fail: a run with failing calls stops on the way of the run without, and every call of that
one keeps to it.  A run that ends well has written all of these paths, and has marked every script,
each one behind the last copy.

## What is here

* `Plan.scriptTargets`, `Resolved.outputs`: where the scripts go, and all paths that a run writes;
* `Allowed.written`, `Allowed.marked`: a call of a run writes and marks nothing else;
* `ThreePhases.marks`: what a run that gets through marks, and when;
* `run_touches_outputs_only`: the frame of a run.
-/

set_option autoImplicit false

namespace ToolPack

open Storage ToolPack.Action

/-- Where the scripts go. -/
def Plan.scriptTargets (plan : Plan) : List Path := plan.scripts.map plan.scriptsOutputDir.join

/-- The paths that a run writes: those of the binaries, the scripts, the headers, the list of
scripts, and of the archive if one is wanted. -/
def Resolved.outputs (r : Resolved) : List Path :=
  r.plan.binaries.map r.plan.outputDir.join ++ r.plan.scriptTargets
    ++ [r.plan.outputDir.join PkgInfo.fileName, r.plan.outputDir.join Package.scriptListName]
    ++ (r.plan.distDir.map (Package.archivePath r)).toList

namespace Package

/-! ## The paths of a plan -/

theorem map_target_copies (plan : Plan) :
    plan.copies.map (·.2) = plan.binaries.map plan.outputDir.join ++ plan.scriptTargets := by
  simp only [Plan.copies, List.map_append, List.map_map]
  rfl

theorem target_mem_outputs {r : Resolved} {c : Path × Path} (h : c ∈ r.plan.copies) :
    c.2 ∈ r.outputs := by
  have htarget : c.2 ∈ r.plan.copies.map (·.2) := List.mem_map_of_mem h
  rw [map_target_copies] at htarget
  exact List.mem_append_left _ (List.mem_append_left _ htarget)

theorem described_subset_outputs (r : Resolved) : ∀ path ∈ r.described, path ∈ r.outputs := by
  intro path hpath
  rcases List.mem_append.mp hpath with hfixed | harchive
  · exact List.mem_append_left _ (List.mem_append_right _ hfixed)
  · split at harchive
    · exact List.mem_append_right _ harchive
    · exact absurd harchive List.not_mem_nil

/-- If the archive can be built, every output is the target of a copy or a description. -/
theorem mem_outputs {r : Resolved} {path : Path}
    (hnames : r.plan.distDir = none ∨ r.archiveNames.Nodup) (h : path ∈ r.outputs) :
    (∃ c ∈ r.plan.copies, c.2 = path) ∨ path ∈ r.described := by
  rw [Resolved.outputs, ← map_target_copies] at h
  rcases List.mem_append.mp h with h | harchive
  · rcases List.mem_append.mp h with htarget | hfixed
    · exact .inl (List.mem_map.mp htarget)
    · exact .inr (List.mem_append_left _ hfixed)
  · right
    obtain ⟨dir, hdir, rfl⟩ := Option.map_eq_some_iff.mp (Option.mem_toList.mp harchive)
    rcases hnames with hnone | hnodup
    · rw [hdir] at hnone
      cases hnone
    · exact archivePath_mem_described hdir hnodup

/-! ## Every call -/

/-- A call of a run puts bytes under the target of a copy or under the path of a description. -/
theorem Allowed.target_or_described {r : Resolved} {past : List Exchange} {c : Call} {path : Path}
    (h : Allowed r past c) (hpath : c.written? = some path) :
    (∃ copy ∈ r.plan.copies, copy.2 = path) ∨ path ∈ r.described := by
  cases h with
  | look hquiet hlook =>
    rw [Call.written?_of_not_changes hlook.not_changes] at hpath
    cases hpath
  | stage hseen hstage =>
    cases hstage with
    | makeDirs hdir => cases hpath
    | copy hcopy => exact .inl ⟨_, hcopy, Option.some.inj hpath⟩
    | mark hname => cases hpath
  | describe hseen hdescribe =>
    rcases hdescribe.isDescribing with hquiet | ⟨other, data, rfl, hother, -⟩
    · rw [Call.written?_of_not_changes hquiet] at hpath
      cases hpath
    · obtain rfl := Option.some.inj hpath
      exact .inr hother

/-- So it puts bytes under its outputs only. -/
theorem Allowed.written {r : Resolved} {past : List Exchange} {c : Call} {path : Path}
    (h : Allowed r past c) (hpath : c.written? = some path) : path ∈ r.outputs := by
  rcases h.target_or_described hpath with ⟨copy, hcopy, rfl⟩ | hdescribed
  · exact target_mem_outputs hcopy
  · exact described_subset_outputs r path hdescribed

theorem marked?_of_not_changes {c : Call} (h : c.changes = false) : c.marked? = none := by
  obtain ⟨path, rfl | rfl⟩ := Call.changes_eq_false_iff.mp h
  · rfl
  · rfl

theorem marked?_of_describing {r : Resolved} {c : Call}
    (h : c.changes = false ∨ IsDescribing r c) : c.marked? = none := by
  rcases h with hquiet | ⟨path, data, rfl, -, -⟩
  · exact marked?_of_not_changes hquiet
  · rfl

/-- A call of a run marks scripts only. -/
theorem Allowed.marked {r : Resolved} {past : List Exchange} {c : Call} {path : Path}
    (h : Allowed r past c) (hpath : c.marked? = some path) : path ∈ r.plan.scriptTargets := by
  cases h with
  | look hquiet hlook =>
    rw [marked?_of_not_changes hlook.not_changes] at hpath
    cases hpath
  | stage hseen hstage =>
    cases hstage with
    | makeDirs hdir => cases hpath
    | copy hcopy => cases hpath
    | mark hname =>
      obtain rfl := Option.some.inj hpath
      exact List.mem_map_of_mem hname
  | describe hseen hdescribe =>
    rw [marked?_of_describing hdescribe.isDescribing] at hpath
    cases hpath

theorem allowed_of_mem_calls {σ : Type} {handler : Handler σ} {r : Resolved} {state : σ}
    {c : Call} (hc : c ∈ ((run r).run handler state).calls) : ∃ past, Allowed r past c := by
  rw [← map_call_exchanges] at hc
  obtain ⟨x, hx, rfl⟩ := List.mem_map.mp hc
  obtain ⟨before, rest, hsplit⟩ := List.append_of_mem hx
  exact ⟨_, allowed_of_exchanges hsplit⟩

/-! ## Runs that get through -/

theorem Copied.map_destination {dest : Path} {artifacts : List Artifact} {files : List StagedFile}
    {past : List Exchange} (h : Copied dest artifacts files past) :
    files.map (·.destination) = (artifacts.map (·.name)).map dest.join := by
  induction h with
  | nil => rfl
  | cons artifact size _ ih => rw [List.map_cons, List.map_cons, List.map_cons, ih]

theorem map_call_marking (files : List StagedFile) :
    (marking files).map (·.call) = (files.map (·.destination)).map Call.markExecutable := by
  rw [marking, List.map_map, List.map_map]
  rfl

/-- The second phase ends with marking the scripts, and marks nothing before. -/
theorem Staged.marks {plan : Plan} {inputs : Inputs} {report : Report}
    {seen done : List Exchange} (hseen : Verified plan inputs seen)
    (h : Staged plan inputs report done) :
    ∃ early, done = early ++ marking report.scripts ∧ (∀ x ∈ early, x.call.marked? = none)
      ∧ report.scripts.map (·.destination) = plan.scriptTargets := by
  obtain ⟨size, -, hscr, -⟩ := hseen
  obtain ⟨hbinaries, hscripts⟩ := h
  refine ⟨_, rfl, fun x hx => ?_, ?_⟩
  · simp only [List.mem_append, List.mem_cons] at hx
    rcases hx with (rfl | hx) | rfl | hx
    · rfl
    · obtain ⟨artifact, -, file, -, -, rfl⟩ := hbinaries.entry x hx
      rfl
    · rfl
    · obtain ⟨artifact, -, file, -, -, rfl⟩ := hscripts.entry x hx
      rfl
  · rw [hscripts.map_destination, hscr.map_name]
    rfl

/-- A run that gets through marks its scripts, in order, once all copies have been made. -/
theorem ThreePhases.marks {r : Resolved} {report : Report}
    {archive : Except PackError (Option Path)} {past : List Exchange}
    (h : ThreePhases r report archive past) :
    ∃ front back, past.map (·.call)
        = front ++ r.plan.scriptTargets.map Call.markExecutable ++ back
      ∧ (∀ c ∈ front, c.marked? = none) ∧ (∀ c ∈ back, c.marked? = none)
      ∧ ∀ c ∈ r.plan.copies, Call.copy c.1 c.2 ∈ front := by
  obtain ⟨hseen, hdone, hwritten⟩ := h
  rename_i inputs seen done written
  have hcopies := (Copying.of_phases hseen hdone).copies
  obtain ⟨-, hlate⟩ := hwritten.describing (hdone.traced hseen)
  obtain ⟨early, rfl, hearly, htargets⟩ := hdone.marks hseen
  refine ⟨(seen ++ early).map (·.call),
    (describing r report.longDescription ++ written).map (·.call), ?_, ?_, ?_, ?_⟩
  · rw [List.map_append, ← List.append_assoc, List.map_append, map_call_marking, htargets]
  · simp only [List.forall_mem_map, List.mem_append]
    rintro x (hx | hx)
    · exact marked?_of_not_changes (hseen.quiet x hx)
    · exact hearly x hx
  · simp only [List.forall_mem_map, List.mem_append, describing, List.mem_cons, List.not_mem_nil,
      or_false]
    rintro x ((rfl | rfl) | hx)
    · rfl
    · rfl
    · exact marked?_of_describing (hlate x hx)
  · intro c hc
    rw [← hcopies, ← List.append_assoc, copiesOf_append, copiesOf_marking, List.append_nil] at hc
    obtain ⟨x, hx, hcopied⟩ := List.mem_filterMap.mp hc
    exact List.mem_map.mpr ⟨x, hx, Call.copied?_eq_some_iff.mp hcopied⟩

/-- What stands in front of an entry of a row, if no such entry is in the first part of the row,
has that part in it. -/
theorem subset_of_append_eq {front back before rest : List Call} {c : Call} (hc : c ∉ front)
    (h : front ++ back = before ++ c :: rest) : ∀ d ∈ front, d ∈ before := by
  rcases List.append_eq_append_iff.mp h with ⟨more, rfl, -⟩ | ⟨more, rfl, hmore⟩
  · exact fun d hd => List.mem_append_left _ hd
  · cases more with
    | nil => exact fun d hd => by simpa using hd
    | cons first more =>
      obtain ⟨rfl, -⟩ := List.cons.inj hmore
      exact absurd (List.mem_append_right _ List.mem_cons_self) hc

/-- A run that gets through has put bytes under the target of every copy and under the path of
every description. -/
theorem ThreePhases.isSome_get? {r : Resolved} {m : Memory} {report : Report}
    {archive : Except PackError (Option Path)}
    (h : ThreePhases r report archive ((run r).exchanges Memory.handler m)) {path : Path}
    (hpath : (∃ c ∈ r.plan.copies, c.2 = path) ∨ path ∈ r.described) :
    (((run r).run Memory.handler m).state.get? path).isSome := by
  obtain ⟨front, back, hx, hcopying, hdescribing⟩ := h.halves
  have hwritten : ∃ x ∈ front ++ back, x.call.written? = some path := by
    rcases hpath with ⟨c, hc, rfl⟩ | hdescribed
    · obtain ⟨earlier, later, hcopies⟩ := List.append_of_mem hc
      obtain ⟨first, file, last, rfl, -⟩ := hcopying.split hcopies
      exact ⟨⟨.copy c.1 c.2, .ok file.size⟩, by simp, rfl⟩
    · obtain ⟨x, hmem, hwritten⟩ := hdescribing.written path hdescribed
      exact ⟨x, List.mem_append_right _ hmem, hwritten⟩
  obtain ⟨x, hmem, hwritten⟩ := hwritten
  refine isSome_get?_of_call (c := x.call) ?_ hwritten
  rw [← map_call_exchanges, hx]
  exact List.mem_map_of_mem hmem

/-- What a run that ends well has done: every output is there, and exactly the scripts have been
marked, in order and behind all copies. -/
theorem finished_of_ok {r : Resolved} {m : Memory} {o : Outcome}
    (h : ((run r).run Memory.handler m).result = .ok o) :
    let ran := (run r).run Memory.handler m
    (∀ path ∈ r.outputs, (ran.state.get? path).isSome)
      ∧ ran.calls.filterMap Call.marked? = r.plan.scriptTargets
      ∧ ∀ before path rest, ran.calls = before ++ .markExecutable path :: rest →
        ∀ c ∈ r.plan.copies, Call.copy c.1 c.2 ∈ before := by
  intro ran
  obtain ⟨report, archive, hphases, -⟩ := threePhases_of_ok h
  have hcalls : ((run r).exchanges Memory.handler m).map (·.call) = ran.calls :=
    map_call_exchanges Memory.handler (run r) m
  refine ⟨fun path hpath => ?_, ?_, ?_⟩
  · exact hphases.isSome_get? (mem_outputs (hphases.ok_iff.mp ⟨archive, rfl⟩) hpath)
  · obtain ⟨front, back, hsplit, hfront, hback, -⟩ := hphases.marks
    rw [hcalls] at hsplit
    rw [hsplit, List.filterMap_append, List.filterMap_append, List.filterMap_eq_nil_iff.mpr hfront,
      List.filterMap_eq_nil_iff.mpr hback, List.filterMap_map]
    simp [Function.comp_def, Call.marked?]
  · intro before path rest hbefore c hc
    obtain ⟨front, back, hsplit, hfront, -, hcopies⟩ := hphases.marks
    rw [hcalls, hbefore, List.append_assoc] at hsplit
    refine subset_of_append_eq (fun hmem => ?_) hsplit.symm _ (hcopies c hc)
    cases hfront _ hmem

/-- **A run touches nothing but its outputs**, whatever the storage holds and whichever calls
fail.  All other paths keep what they held, no file goes away, and what becomes executable is a
script in its place.  When the run ends well, every output is there, and exactly the scripts have
been marked, in order, each one behind all copies. -/
theorem run_touches_outputs_only (r : Resolved) (m : Memory) (schedule : Schedule) :
    let ran := (run r).run (failing schedule Memory.handler) ⟨m, []⟩
    let final := ran.state.storage
    (∀ path, path ∉ r.outputs → final.get? path = m.get? path)
    ∧ (∀ path, (m.get? path).isSome → (final.get? path).isSome)
    ∧ (∀ path ∈ m.executable, path ∈ final.executable)
    ∧ (∀ path ∈ final.executable, path ∈ m.executable ∨ path ∈ r.plan.scriptTargets)
    ∧ ∀ o, ran.result = .ok o →
        (∀ path ∈ r.outputs, (final.get? path).isSome)
        ∧ ran.calls.filterMap Call.marked? = r.plan.scriptTargets
        ∧ (∀ path, path ∈ final.executable
            ↔ path ∈ m.executable ∨ path ∈ r.plan.scriptTargets)
        ∧ ∀ before path rest, ran.calls = before ++ .markExecutable path :: rest →
            ∀ c ∈ r.plan.copies, Call.copy c.1 c.2 ∈ before := by
  intro ran final
  obtain ⟨before, rest, hcalls, hstop⟩ :=
    exists_storage_eq_after (stopsOnFailure_run r) schedule Memory.handler m
  have hfinal : final = after Memory.handler before m := hstop
  have hallowed : ∀ c ∈ before, ∃ past, Allowed r past c := fun c hc =>
    allowed_of_mem_calls (by rw [hcalls]; exact List.mem_append_left _ hc)
  have hmarked : ∀ path ∈ before.filterMap Call.marked?, path ∈ r.plan.scriptTargets := by
    intro path hpath
    obtain ⟨c, hc, hmark⟩ := List.mem_filterMap.mp hpath
    obtain ⟨past, hpast⟩ := hallowed c hc
    exact hpast.marked hmark
  refine ⟨fun path hpath => ?_, fun path hpath => ?_, fun path hpath => ?_, fun path hpath => ?_,
    fun o hok => ?_⟩
  · rw [hfinal]
    refine Memory.get?_after_of_not_mem (fun c hc hwritten => ?_) m
    obtain ⟨past, hpast⟩ := hallowed c hc
    exact hpath (hpast.written hwritten)
  · rw [hfinal]
    exact Memory.isSome_get?_after hpath before
  · rw [hfinal]
    exact Memory.mem_executable_after.mpr (.inl hpath)
  · rw [hfinal] at hpath
    exact (Memory.mem_executable_after.mp hpath).imp_right (hmarked path)
  · obtain ⟨hresult, hran, -, hstate, -⟩ :=
      run_failing_of_spares (w := ⟨m, []⟩) (spares_of_ok (stopsOnFailure_run r) hok)
    obtain ⟨houtputs, hmarks, horder⟩ := finished_of_ok (hresult.symm.trans hok)
    have hstorage : final = ((run r).run Memory.handler m).state := congrArg Watched.storage hstate
    rw [hran, hstorage]
    refine ⟨houtputs, hmarks, fun path => ?_, horder⟩
    rw [state_run, Memory.mem_executable_after, hmarks]

end Package
end ToolPack
