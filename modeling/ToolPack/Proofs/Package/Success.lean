import ToolPack.Proofs.Package.FailFast
import ToolPack.Proofs.Storage.Agreement

/-!
# Runs that find everything

On a storage in memory that holds every input and a readable long description, no call fails and
a run gets through: everything is staged and described, and only the archive can still be refused,
for the names of its entries.

## What is here

* `Allowed.reads`: a run reads inputs, and what it has put in place itself;
* `answered_of_present`: no call fails;
* `threePhases_of_sound`: the run gets through;
* `sound_of_verify`, `sound_of_ok`, `threePhases_of_ok`: a first phase or a run that ends well
  started from such a storage;
* `written_of_call`, `isSome_get?_of_call`: what such a run is to put in place is put there.
-/

set_option autoImplicit false

namespace ToolPack
namespace Package

open Storage ToolPack.Action

/-- A run reads inputs, and copies that it has made itself. -/
theorem Allowed.reads {r : Resolved} {past : List Exchange} {c : Call} {path : Path}
    (h : Allowed r past c) (hpath : c.read? = some path) : Known r.plan.inputs past path := by
  cases h with
  | look hquiet hlook =>
    cases hlook with
    | size hmem =>
      obtain rfl := Option.some.inj hpath
      exact .inl hmem
    | read =>
      obtain rfl := Option.some.inj hpath
      exact .inl r.plan.readme_mem_inputs
  | stage hseen hstage =>
    cases hstage with
    | copy hcopy =>
      obtain rfl := Option.some.inj hpath
      exact .inl (Plan.source_mem_inputs hcopy)
    | makeDirs hdir => cases hpath
    | mark hname => cases hpath
  | describe hseen hdescribe =>
    cases hdescribe with
    | readBack hcopy hcopied =>
      obtain rfl := Option.some.inj hpath
      exact .inr ⟨_, List.mem_append_right _ hcopied, rfl⟩
    | headers => cases hpath
    | list => cases hpath
    | archive hdir hnames hbytes => cases hpath

/-- On a storage that holds every input no call fails. -/
theorem answered_of_present {r : Resolved} {m : Memory}
    (h : ∀ path ∈ r.plan.inputs, (m.get? path).isSome) {x : Exchange}
    (hx : x ∈ (run r).exchanges Memory.handler m) : ∃ reply, x.answer = .ok reply := by
  obtain ⟨before, rest, hsplit⟩ := List.append_of_mem hx
  rw [answer_of_exchanges hsplit]
  exact Memory.answer_ok fun path hpath =>
    isSome_get?_of_known h hsplit ((allowed_of_exchanges hsplit).reads hpath)

/-- All that a first phase can lack when every input is there is a long description that is text. -/
theorem Refused.notText_of_present {α : Type} {plan : Plan} {m : Memory} {schedule : Schedule}
    {action : Action α} {e : PackError} {seen rest : List Exchange}
    (hx : action.exchanges (failing schedule Memory.handler) ⟨m, []⟩ = seen ++ rest)
    (h : Refused plan e seen) (hpresent : ∀ path ∈ plan.inputs, (m.get? path).isSome) :
    ∃ bytes, m.get? plan.readme = some bytes ∧ String.fromUTF8? bytes = none
      ∧ e = Package.notText plan.readme bytes := by
  have hthere : ∀ path ∈ plan.inputs, ⟨.size path, .ok none⟩ ∉ seen := by
    intro path hpath hmem
    have hanswer := Memory.ok_of_not_changes hx h.quiet hmem
    have hsome := hpresent path hpath
    rw [← Option.isSome_map, Except.ok.inj hanswer] at hsome
    cases hsome
  have hread : ∀ bytes, ⟨.read plan.readme, .ok bytes⟩ ∈ seen →
      m.get? plan.readme = some bytes := fun bytes hmem =>
    Memory.answer_read_eq_ok_iff.mp (Memory.ok_of_not_changes hx h.quiet hmem)
  cases h with
  | @binary front rest name found past hnames hfound =>
    have hname : name ∈ plan.binaries := by simp [hnames]
    exact absurd (by simp) (hthere _ (Plan.binary_mem_inputs hname))
  | @script binaries front rest name found past past' hbinaries hnames hfound =>
    have hname : name ∈ plan.scripts := by simp [hnames]
    exact absurd (by simp) (hthere _ (Plan.script_mem_inputs hname))
  | noReadme hbinaries hscripts => exact absurd (by simp) (hthere _ plan.readme_mem_inputs)
  | notText size hbinaries hscripts htext => exact ⟨_, hread _ (by simp), htext, rfl⟩

/-- A first phase that lacks something did not start from a sound storage. -/
theorem Refused.not_sound {α : Type} {plan : Plan} {m : Memory} {schedule : Schedule}
    {action : Action α} {e : PackError} {seen rest : List Exchange}
    (hx : action.exchanges (failing schedule Memory.handler) ⟨m, []⟩ = seen ++ rest)
    (h : Refused plan e seen) : ¬ Sound plan m := by
  intro hsound
  obtain ⟨bytes, hbytes, hnone, -⟩ := h.notText_of_present hx hsound.present
  exact hsound.isText bytes hbytes hnone

theorem exchanges_never {α : Type} (action : Action α) (m : Memory) :
    action.exchanges (failing never Memory.handler) ⟨m, []⟩
      = action.exchanges Memory.handler m :=
  (run_failing_of_spares (w := ⟨m, []⟩) (spares_never _ _)).2.2.2.2

/-- A run on a sound storage gets through all its phases. -/
theorem threePhases_of_sound {r : Resolved} {m : Memory} (h : Sound r.plan m) :
    ∃ report archive, ThreePhases r report archive ((run r).exchanges Memory.handler m)
      ∧ ((run r).run Memory.handler m).result = archive.map (outcome r report) := by
  rcases failed_or_ended r Memory.handler m with ⟨before, c, e, hx, -⟩ | hend
  · obtain ⟨reply, hreply⟩ := answered_of_present h.present (x := ⟨c, .error e⟩) (by simp [hx])
    cases hreply
  · have hseen := exchanges_never (run r) m
    generalize (run r).exchanges Memory.handler m = past at hend hseen ⊢
    generalize ((run r).run Memory.handler m).result = result at hend ⊢
    cases hend with
    | refused hrefused =>
      rw [← List.append_nil past] at hseen
      exact absurd h (hrefused.not_sound hseen)
    | threePhases hphases => exact ⟨_, _, hphases, rfl⟩

/-- What a run changes, it changes on a sound storage. -/
theorem sound_of_call_changes {r : Resolved} {m : Memory} {c : Call}
    (hc : c ∈ ((run r).run Memory.handler m).calls) (hchanges : c.changes = true) :
    Sound r.plan m := by
  rw [← map_call_exchanges] at hc
  obtain ⟨x, hx, rfl⟩ := List.mem_map.mp hc
  rw [← exchanges_never] at hx
  exact sound_of_changes hx hchanges

/-- A first phase that ends well started from a sound storage. -/
theorem sound_of_verify {plan : Plan} {m : Memory} {inputs : Inputs}
    (h : ((verify plan).run Memory.handler m).result = .ok inputs) : Sound plan m := by
  have hends : (verify plan).Ensures (fun _ _ => True)
      (fun past result => ∀ inputs, result = .ok inputs → Verified plan inputs past) [] := by
    refine ensures_verify (fun _ _ _ _ => trivial) (fun found seen hseen other hother => ?_)
      fun e seen _ _ he => nomatch he
    obtain rfl := Except.ok.inj hother
    exact hseen
  rcases hends.ends_of_run (stopsOnFailure_verify plan) Memory.handler m with
    ⟨before, c, e, -, hresult⟩ | hend
  · rw [h] at hresult
    cases hresult
  · have hseen : Verified plan inputs ((verify plan).exchanges Memory.handler m) := hend inputs h
    have hx := exchanges_never (verify plan) m
    rw [← List.append_nil ((verify plan).exchanges Memory.handler m)] at hx
    exact hseen.confirmed.sound hx hseen.quiet

/-- A run that ends well started from a sound storage. -/
theorem sound_of_ok {r : Resolved} {m : Memory} {o : Outcome}
    (h : ((run r).run Memory.handler m).result = .ok o) : Sound r.plan m := by
  refine Classical.byContradiction fun hsound => ?_
  have hquiet : Quiet ((run r).exchanges (failing never Memory.handler) ⟨m, []⟩) :=
    quiet_of_lacking (.inl hsound)
  rw [exchanges_never] at hquiet
  obtain ⟨e, he⟩ := error_of_quiet hquiet
  rw [he] at h
  cases h

/-- A run that ends well got through all its phases, and its archive could be built if one was
wanted, whatever the storage. -/
theorem threePhases_of_ok {σ : Type} {handler : Handler σ} {state : σ} {r : Resolved} {o : Outcome}
    (h : ((run r).run handler state).result = .ok o) :
    ∃ report path, ThreePhases r report (.ok path) ((run r).exchanges handler state)
      ∧ o = outcome r report path := by
  rcases failed_or_ended r handler state with ⟨before, c, e, -, herror⟩ | hend
  · rw [h] at herror
    cases herror
  · rw [h] at hend
    generalize hresult : Except.ok o = result at hend
    cases hend with
    | refused hrefused => cases hresult
    | @threePhases report archive past hphases =>
      cases archive with
      | error e => cases hresult
      | ok path => exact ⟨report, path, hphases, Except.ok.inj hresult⟩

/-- A call that puts bytes in place was answered well, so it did. -/
theorem written_of_call {r : Resolved} {m : Memory} {c : Call} {path : Path}
    {before rest : List Exchange} (hx : (run r).exchanges Memory.handler m = before ++ rest)
    (hc : c ∈ before.map (·.call)) (hpath : c.written? = some path) :
    ∃ x ∈ before, x.written? = some path := by
  obtain ⟨x, hmem, rfl⟩ := List.mem_map.mp hc
  have hrun : x ∈ (run r).exchanges Memory.handler m := by
    rw [hx]
    exact List.mem_append_left _ hmem
  have hchanges : x.call.changes = true := by
    cases hcall : x.call <;> simp_all [Call.written?, Call.changes]
  have hcall : x.call ∈ ((run r).run Memory.handler m).calls := by
    rw [← map_call_exchanges]
    exact List.mem_map_of_mem hrun
  obtain ⟨reply, hreply⟩ := answered_of_present (sound_of_call_changes hcall hchanges).present hrun
  refine ⟨x, hmem, ?_⟩
  rw [Exchange.written?, hreply]
  exact hpath

/-- Every path that such a run writes has bytes at the end. -/
theorem isSome_get?_of_call {r : Resolved} {m : Memory} {c : Call} {path : Path}
    (hc : c ∈ ((run r).run Memory.handler m).calls) (hpath : c.written? = some path) :
    (((run r).run Memory.handler m).state.get? path).isSome := by
  have hx := (List.append_nil ((run r).exchanges Memory.handler m)).symm
  rw [← map_call_exchanges] at hc
  obtain ⟨x, hmem, hwritten⟩ := written_of_call hx hc hpath
  rw [state_run, ← map_call_exchanges]
  exact isSome_get?_of_known (fun _ h => absurd h List.not_mem_nil) hx (.inr ⟨x, hmem, hwritten⟩)

end Package
end ToolPack
