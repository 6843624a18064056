import ToolPack.Proofs.Package.Course

/-!
# Nothing is touched before everything is verified

A run changes something only once it has seen every binary, every script and the long description,
and has read the long description as text.  Until then its storage is the one that it started
with, so what it has been answered is the truth about that storage; a run that lacks something
never gets to a call that changes something.

## What is here

* `Confirmed`: what has to be among the exchanges before anything changes;
* `Allowed.confirmed`: a call that changes something has it behind itself;
* `quiet_of_lacking`: a run that lacks something changes nothing;
* `nothing_changes_before_verification`: both, for every plan, storage and schedule of failing
  calls.
-/

set_option autoImplicit false

namespace ToolPack
namespace Package

open Storage ToolPack.Action

/-- Every input was found, and the long description was read and is text. -/
structure Confirmed (plan : Plan) (past : List Exchange) : Prop where
  sighted : ∀ path ∈ plan.inputs, ∃ size, ⟨.size path, .ok (some size)⟩ ∈ past
  isText : ∃ bytes text, ⟨.read plan.readme, .ok bytes⟩ ∈ past
    ∧ String.fromUTF8? bytes = some text

/-- What a storage has to hold for a run to get past its first phase. -/
structure Sound (plan : Plan) (m : Memory) : Prop where
  present : ∀ path ∈ plan.inputs, (m.get? path).isSome
  isText : ∀ bytes, m.get? plan.readme = some bytes → String.fromUTF8? bytes ≠ none

/-- What was confirmed before anything changed holds of the storage at the start. -/
theorem Confirmed.sound {α : Type} {plan : Plan} {m : Memory} {schedule : Schedule}
    {action : Action α} {seen rest : List Exchange}
    (hx : action.exchanges (failing schedule Memory.handler) ⟨m, []⟩ = seen ++ rest)
    (hquiet : Quiet seen) (h : Confirmed plan seen) : Sound plan m := by
  refine ⟨fun path hpath => ?_, fun bytes hbytes hnone => ?_⟩
  · obtain ⟨size, hsize⟩ := h.sighted path hpath
    have hanswer := Memory.ok_of_not_changes hx hquiet hsize
    rw [← Option.isSome_map, Except.ok.inj hanswer]
    rfl
  · obtain ⟨found, text, hfound, htext⟩ := h.isText
    have hanswer := Memory.ok_of_not_changes hx hquiet hfound
    simp only [Memory.handler, hbytes, Except.ok.injEq] at hanswer
    rw [hanswer, htext] at hnone
    cases hnone

theorem Confirmed.append {plan : Plan} {past : List Exchange} (h : Confirmed plan past)
    (more : List Exchange) : Confirmed plan (past ++ more) := by
  refine ⟨fun path hpath => ?_, ?_⟩
  · obtain ⟨size, hsize⟩ := h.sighted path hpath
    exact ⟨size, List.mem_append_left _ hsize⟩
  · obtain ⟨bytes, text, hbytes, htext⟩ := h.isText
    exact ⟨bytes, text, List.mem_append_left _ hbytes, htext⟩

/-- A first phase that ends well has confirmed everything. -/
theorem Verified.confirmed {plan : Plan} {inputs : Inputs} {seen : List Exchange}
    (h : Verified plan inputs seen) : Confirmed plan seen := by
  obtain ⟨size, hbinaries, hscripts, htext⟩ := h
  refine ⟨fun path hpath => ?_, _, _, by simp, htext⟩
  rcases Plan.mem_inputs.mp hpath with ⟨name, hname, rfl⟩ | ⟨name, hname, rfl⟩ | rfl
  · obtain ⟨n, hn⟩ := hbinaries.sighted name hname
    exact ⟨n, by simp [hn]⟩
  · obtain ⟨n, hn⟩ := hscripts.sighted name hname
    exact ⟨n, by simp [hn]⟩
  · exact ⟨size, by simp⟩

/-- A call that changes something comes after a first phase that ended well. -/
theorem Allowed.verified {r : Resolved} {past : List Exchange} {c : Call} (h : Allowed r past c)
    (hc : c.changes = true) :
    ∃ inputs seen done, Verified r.plan inputs seen ∧ past = seen ++ done := by
  cases h with
  | look hquiet hlook => exact absurd (hlook.not_changes.symm.trans hc) Bool.false_ne_true
  | stage hseen hstage => exact ⟨_, _, _, hseen, rfl⟩
  | describe hseen hdescribe => exact ⟨_, _, _, hseen, rfl⟩

theorem Allowed.confirmed {r : Resolved} {past : List Exchange} {c : Call} (h : Allowed r past c)
    (hc : c.changes = true) : Confirmed r.plan past := by
  obtain ⟨inputs, seen, done, hseen, rfl⟩ := h.verified hc
  exact hseen.confirmed.append done

/-! ## Runs that lack something -/

/-- The exchanges of a run start with those of its first phase, and there are no others when that
phase ends with an error. -/
theorem exchanges_run {σ : Type} (handler : Handler σ) (r : Resolved) (state : σ) :
    ∃ rest, (run r).exchanges handler state = (verify r.plan).exchanges handler state ++ rest
      ∧ ∀ e, ((verify r.plan).run handler state).result = .error e → rest = [] := by
  refine ⟨_, exchanges_bind handler (verify r.plan) _ state, fun e he => ?_⟩
  rw [he]

/-- A first phase changes nothing, whatever it is answered. -/
theorem quiet_verify {σ : Type} (handler : Handler σ) (plan : Plan) (state : σ) :
    Quiet ((verify plan).exchanges handler state) := by
  intro x hx
  obtain ⟨before, rest, hsplit⟩ := List.append_of_mem hx
  have h : (verify plan).Ensures (fun _ c => Looks plan c) (fun _ _ => True) [] :=
    ensures_verify (fun _ _ _ hc => hc) (fun _ _ _ => trivial) fun _ _ _ => trivial
  exact (h.asks_of_exchanges (stopsOnFailure_verify plan) hsplit).not_changes

/-- A run that gets to a call that changes something started from a sound storage, and its first
phase ended well. -/
theorem sound_of_changes {r : Resolved} {m : Memory} {schedule : Schedule} {x : Exchange}
    (hx : x ∈ (run r).exchanges (failing schedule Memory.handler) ⟨m, []⟩)
    (hc : x.call.changes = true) : Sound r.plan m := by
  obtain ⟨before, rest, hsplit⟩ := List.append_of_mem hx
  obtain ⟨inputs, seen, done, hseen, rfl⟩ := (allowed_of_exchanges hsplit).verified hc
  rw [List.append_assoc] at hsplit
  exact hseen.confirmed.sound hsplit hseen.quiet

/-- What makes a run change nothing: the storage is not sound, or a call of the first phase
fails. -/
theorem quiet_of_lacking {r : Resolved} {m : Memory} {schedule : Schedule}
    (h : ¬ Sound r.plan m ∨ ∃ x ∈ (verify r.plan).exchanges (failing schedule Memory.handler)
      ⟨m, []⟩, ∃ e, x.answer = .error e) :
    Quiet ((run r).exchanges (failing schedule Memory.handler) ⟨m, []⟩) := by
  rcases h with hsound | ⟨x, hx, e, he⟩
  · intro x hx
    rw [← Bool.not_eq_true]
    exact fun hc => hsound (sound_of_changes hx hc)
  · obtain ⟨rest, hrun, herror⟩ := exchanges_run (failing schedule Memory.handler) r ⟨m, []⟩
    obtain ⟨before, more, hsplit⟩ := List.append_of_mem hx
    have hstops := stopsOnFailure_verify r.plan
    rw [hrun, herror _ (hstops.rest_eq_nil_of_error hsplit he).2, List.append_nil]
    exact quiet_verify _ _ _

/-- A run that changes nothing ends with an error: a run that ends well has written the package
headers. -/
theorem error_of_quiet {σ : Type} {handler : Handler σ} {r : Resolved} {state : σ}
    (h : Quiet ((run r).exchanges handler state)) :
    ∃ e, ((run r).run handler state).result = .error e := by
  rcases failed_or_ended r handler state with ⟨before, c, e, -, hresult⟩ | hend
  · exact ⟨.io e, hresult⟩
  · generalize (run r).exchanges handler state = past at h hend
    generalize ((run r).run handler state).result = result at hend ⊢
    cases hend with
    | refused hrefused => exact ⟨_, rfl⟩
    | @threePhases report archive past hphases =>
      obtain ⟨hseen, hdone, hwritten⟩ := hphases
      cases h ⟨writeHeaders r report.longDescription, .ok ()⟩ (by simp [describing])

theorem changes_of_quiet {σ : Type} {handler : Handler σ} {r : Resolved} {state : σ}
    (h : Quiet ((run r).exchanges handler state)) :
    ∀ c ∈ ((run r).run handler state).calls, c.changes = false := by
  intro c hc
  rw [← map_call_exchanges] at hc
  obtain ⟨x, hx, rfl⟩ := List.mem_map.mp hc
  exact h x hx

/-- **A run changes nothing before it has found every input and read the long description as
text.**  If an input is not there, if the long description is no text or if a call of the first
phase fails, then the run ends with an error, has asked for sizes and bytes only, and its storage
is the one that it started with: files and executable paths. -/
theorem nothing_changes_before_verification (r : Resolved) (m : Memory) (schedule : Schedule) :
    let handler := failing schedule Memory.handler
    let start : Watched Memory := ⟨m, []⟩
    let ran := (run r).run handler start
    ((run r).exchanges handler start).map (·.call) = ran.calls
    ∧ (∀ before x rest, (run r).exchanges handler start = before ++ x :: rest →
        x.call.changes = true → Confirmed r.plan before)
    ∧ ((∃ path ∈ r.plan.inputs, m.get? path = none)
        ∨ (∃ bytes, m.get? r.plan.readme = some bytes ∧ String.fromUTF8? bytes = none)
        ∨ (∃ x ∈ (verify r.plan).exchanges handler start, ∃ e, x.answer = .error e) →
      (∃ e, ran.result = .error e)
        ∧ (∀ c ∈ ran.calls, ∃ path, c = .size path ∨ c = .read path)
        ∧ ran.state.storage = m) := by
  intro handler start ran
  refine ⟨map_call_exchanges handler (run r) start, fun before x rest hx hc => ?_, fun hlacks => ?_⟩
  · exact (allowed_of_exchanges hx).confirmed hc
  · have hquiet : Quiet ((run r).exchanges handler start) := by
      refine quiet_of_lacking ?_
      rcases hlacks with ⟨path, hpath, habsent⟩ | ⟨bytes, hbytes, hnone⟩ | hfails
      · exact .inl fun hsound => by simpa [habsent] using hsound.present path hpath
      · exact .inl fun hsound => hsound.isText bytes hbytes hnone
      · exact .inr hfails
    have hcalls := changes_of_quiet hquiet
    refine ⟨error_of_quiet hquiet, fun c hc => Call.changes_eq_false_iff.mp (hcalls c hc), ?_⟩
    show ((run r).run handler start).state.storage = m
    rw [state_run]
    exact Memory.storage_after_of_not_changes hcalls start

end Package
end ToolPack
