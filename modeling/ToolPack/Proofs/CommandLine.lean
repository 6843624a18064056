import Mathlib.Data.List.Basic
import ToolPack.CommandLine
import ToolPack.Proofs.Steps

/-!
# One switch more or less

Arguments are read one after the other, and a switch is only kept, to be seen again if it is given
twice.  So putting a switch in or taking it out changes nothing about what the other arguments are
read as: reading goes along with any change of the switches that were read which leaves the other
switches as they are.

The one thing that a switch does beside is to have a waiting setting looked at.  Every argument that
can follow a complete setting does the same, and so does the end.

## What is here

* `Reading.step`, `all_cons`: one argument;
* `Spares`, `step_reswitch`, `all_reswitch`: changes of the switches that spare the others;
* `all_of_settle`: a setting that waits with its value may as well be looked at before;
* `all_without`: the arguments without the switch, in all of its places;
* `Options.ofArguments_dry_cons`, `Options.ofArguments_without`, `Options.dryRun_iff`: a dry run and
  the same arguments without it.
-/

set_option autoImplicit false

namespace ToolPack
namespace CommandLine

/-- The argument that asks for a dry run. -/
def dryArgument : String := "--dry-run"

/-- A change of the switches that were read which leaves those others than the dry run as they
are. -/
structure Spares (f : List Switch → List Switch) : Prop where
  cons : ∀ s switches, s ≠ .dryRun → f (s :: switches) = s :: f switches
  contains : ∀ s switches, s ≠ .dryRun → (f switches).contains s = switches.contains s

theorem spares_add : Spares (· ++ [.dryRun]) := by
  refine ⟨fun s switches _ => rfl, fun s switches hs => ?_⟩
  simp [hs]

theorem spares_remove : Spares (·.filter (· != .dryRun)) := by
  refine ⟨fun s switches hs => ?_, fun s switches hs => ?_⟩
  · simp [hs]
  · simp [List.contains_eq_mem, hs]

/-- Only one long name is that of the dry run. -/
theorem eq_dryRun_of_long? {name : String} (h : long? name = some (.switch .dryRun)) :
    name = "dry-run" := by
  unfold long? at h
  split at h <;> simp_all

/-- No letter is. -/
theorem short?_ne_dryRun (c : Char) : short? c ≠ some (.switch .dryRun) := by
  intro h
  unfold short? at h
  split at h <;> simp_all

/-- The value that is behind the letter of a setting. -/
def letterValue : List Char → Option String
  | [] => none
  | '=' :: cs => some (String.ofList cs)
  | cs => some (String.ofList cs)

namespace Reading

/-- The reading with other switches. -/
def reswitch (f : List Switch → List Switch) (r : Reading) : Reading :=
  { r with switches := f r.switches }

/-- Reads one argument that does not end them. -/
def step (r : Reading) (argument : String) : Except UsageError Reading :=
  match argument.toList with
  | '-' :: '-' :: cs => r.long cs
  | '-' :: c :: cs => r.short (c :: cs)
  | _ => r.plain argument

theorem all_cons {argument : String} (h : argument ≠ "--") (r : Reading)
    (arguments : List String) :
    r.all (argument :: arguments) = r.step argument >>= fun r => r.all arguments := by
  have hend : argument.toList ≠ ['-', '-'] := fun heq => h (String.toList_inj.mp heq)
  rw [all, step]
  generalize argument.toList = cs at hend
  split
  · exact absurd rfl hend
  · rfl
  · rename_i hother
    split
    · rename_i heq
      exact absurd (List.cons.inj (List.cons.inj heq).2).1 hother
    · rename_i heq
      rw [(List.cons.inj heq).2]
    · rename_i hshort
      exact absurd rfl (hshort _ _)
  · rename_i hlong hshort
    split
    · exact absurd rfl (hlong _)
    · exact absurd rfl (hshort _ _)
    · rfl

/-- Arguments that are understood are read one after the other. -/
theorem exists_step {argument : String} (hend : argument ≠ "--") {r s : Reading}
    {arguments : List String} (h : r.all (argument :: arguments) = .ok s) :
    ∃ next, r.step argument = .ok next ∧ next.all arguments = .ok s := by
  rw [all_cons hend] at h
  exact exists_of_bind_eq_ok h

theorem short_cons (r : Reading) (c : Char) (cs : List Char) :
    r.short (c :: cs) = match short? c with
      | none => .error .unknownArgument
      | some (.setting s) => r.setting s (letterValue cs)
      | some (.switch s) => r.switch s >>= fun r => r.short cs := by
  rw [short.eq_def]
  dsimp only
  cases short? c with
  | none => rfl
  | some known => cases known <;> rfl

theorem all_end (r : Reading) (arguments : List String) :
    r.all ("--" :: arguments)
      = if arguments.isEmpty then r.settle else .error .unknownArgument := rfl

/-! ## Reading with other switches -/

section Reswitch

variable {f : List Switch → List Switch} (r : Reading)

theorem take_reswitch (s : Setting) (value : String) :
    (r.reswitch f).take s value = (r.take s value).map (reswitch f) := by
  rw [take, take]
  show (if (r.values.lookup s).isSome then _ else _) = _
  split_ifs <;> rfl

theorem settle_reswitch : (r.reswitch f).settle = r.settle.map (reswitch f) := by
  obtain ⟨values, switches, waiting⟩ := r
  match waiting with
  | none => rfl
  | some (_, none) => rfl
  | some (s, some value) => exact take_reswitch ⟨values, switches, none⟩ s value

theorem setting_reswitch (s : Setting) (value : Option String) :
    (r.reswitch f).setting s value = (r.setting s value).map (reswitch f) := by
  rw [setting, setting, settle_reswitch]
  cases r.settle with
  | error e => rfl
  | ok q =>
    cases value with
    | none => rfl
    | some value => exact take_reswitch q s value

theorem plain_reswitch (value : String) :
    (r.reswitch f).plain value = (r.plain value).map (reswitch f) := by
  obtain ⟨values, switches, waiting⟩ := r
  match waiting with
  | none => rfl
  | some (_, none) => rfl
  | some (_, some _) => rfl

variable (hf : Spares f)
include hf

theorem switch_reswitch {s : Switch} (hs : s ≠ .dryRun) :
    (r.reswitch f).switch s = (r.switch s).map (reswitch f) := by
  rw [switch, switch, settle_reswitch]
  cases r.settle with
  | error e => rfl
  | ok q =>
    show (if (f q.switches).contains s then _ else _ : Except UsageError Reading)
      = Except.map (reswitch f) (if q.switches.contains s then _ else _)
    rw [hf.contains s q.switches hs]
    split
    · rfl
    · split
      · rfl
      · exact congrArg Except.ok (congrArg (Reading.mk _ · _) (hf.cons s q.switches hs).symm)

theorem long_reswitch {cs : List Char} (hcs : cs ≠ "dry-run".toList) :
    (r.reswitch f).long cs = (r.long cs).map (reswitch f) := by
  rw [long, long]
  cases hname : long? (String.ofList (cs.takeWhile (· != '='))) with
  | none => rfl
  | some known =>
    cases known with
    | setting s => exact setting_reswitch r s _
    | switch s =>
      cases hrest : cs.dropWhile (· != '=') with
      | cons c rest => rfl
      | nil =>
        refine switch_reswitch r hf ?_
        rintro rfl
        have htext := eq_dryRun_of_long? hname
        have hall : cs.takeWhile (· != '=') = cs := by
          have hsplit := List.takeWhile_append_dropWhile (p := (· != '=')) (l := cs)
          rwa [hrest, List.append_nil] at hsplit
        rw [hall] at htext
        exact hcs (by rw [← htext, String.toList_ofList])

theorem short_reswitch (cs : List Char) :
    (r.reswitch f).short cs = (r.short cs).map (reswitch f) := by
  induction cs generalizing r with
  | nil => rfl
  | cons c cs ih =>
    rw [short_cons, short_cons]
    cases hc : short? c with
    | none => rfl
    | some known =>
      cases known with
      | setting s => exact setting_reswitch r s _
      | switch s =>
        have hs : s ≠ .dryRun := by
          rintro rfl
          exact short?_ne_dryRun c hc
        simp only [switch_reswitch r hf hs]
        cases r.switch s with
        | error e => rfl
        | ok q => exact ih q

theorem step_reswitch {argument : String} (h : argument ≠ dryArgument) :
    (r.reswitch f).step argument = (r.step argument).map (reswitch f) := by
  have hchars : argument.toList ≠ dryArgument.toList := fun heq => h (String.toList_inj.mp heq)
  rw [step, step]
  split
  · rename_i cs heq
    refine long_reswitch r hf fun hcs => hchars ?_
    rw [heq, hcs]
    rfl
  · exact short_reswitch r hf _
  · exact plain_reswitch r _

/-- Arguments among which the switch is not are read as they are with other switches. -/
theorem all_reswitch {arguments : List String} (h : dryArgument ∉ arguments) :
    (r.reswitch f).all arguments = (r.all arguments).map (reswitch f) := by
  induction arguments generalizing r with
  | nil => exact settle_reswitch r
  | cons argument arguments ih =>
    obtain ⟨hfirst, hrest⟩ := not_or.mp (List.mem_cons.not.mp h)
    by_cases hend : argument = "--"
    · rw [hend, all_end, all_end, settle_reswitch]
      split <;> rfl
    · rw [all_cons hend, all_cons hend, step_reswitch r hf (Ne.symm hfirst)]
      cases r.step argument with
      | error e => rfl
      | ok q => exact ih q hrest

end Reswitch

/-! ## Settings that wait with their value -/

section Settle

variable {r q : Reading}

/-- Nothing waits behind a look at what waits. -/
theorem waiting_of_settle (h : r.settle = .ok q) : q.waiting = none := by
  rw [settle] at h
  split at h
  · rename_i hnone
    exact Except.ok.inj h ▸ hnone
  · cases h
  · rw [take] at h
    split_ifs at h
    exact Except.ok.inj h ▸ rfl

theorem settle_of_settle (h : r.settle = .ok q) : q.settle = .ok q := by
  rw [settle, waiting_of_settle h]

theorem setting_of_settle (h : r.settle = .ok q) (s : Setting) (value : Option String) :
    r.setting s value = q.setting s value := by
  rw [setting, setting, h, settle_of_settle h]

theorem switch_of_settle (h : r.settle = .ok q) (s : Switch) : r.switch s = q.switch s := by
  rw [switch, switch, h, settle_of_settle h]

/-- Behind a complete setting no value is taken. -/
theorem plain_of_settle (h : r.settle = .ok q) (value : String) :
    r.plain value = q.plain value := by
  obtain ⟨values, switches, waiting⟩ := r
  match waiting with
  | none => exact congrArg (plain · value) (Except.ok.inj h)
  | some (_, none) => cases h
  | some (s, some other) =>
    rw [plain, plain, waiting_of_settle h]

theorem step_of_settle (h : r.settle = .ok q) (argument : String) :
    r.step argument = q.step argument := by
  rw [step, step]
  split
  · rw [long, long]
    simp only [setting_of_settle h, switch_of_settle h]
  · rw [short_cons, short_cons]
    simp only [setting_of_settle h, switch_of_settle h]
  · exact plain_of_settle h argument

/-- A setting that waits with its value may as well be looked at before the arguments behind it. -/
theorem all_of_settle (h : r.settle = .ok q) (arguments : List String) :
    r.all arguments = q.all arguments := by
  cases arguments with
  | nil => exact h.trans (settle_of_settle h).symm
  | cons argument arguments =>
    by_cases hend : argument = "--"
    · rw [hend, all_end, all_end, h, settle_of_settle h]
    · rw [all_cons hend, all_cons hend, step_of_settle h]

end Settle

/-! ## Without the switch -/

/-- The reading without the dry run. -/
def withoutDry (r : Reading) : Reading := r.reswitch (·.filter (· != .dryRun))

/-- A switch is kept in front of those that were read, if the setting that waits is in order. -/
theorem switch_eq_ok {r next : Reading} {s : Switch} (h : r.switch s = .ok next) :
    ∃ q, r.settle = .ok q ∧ next = { q with switches := s :: q.switches } := by
  rw [switch] at h
  obtain ⟨q, hsettle, hnext⟩ := exists_of_bind_eq_ok h
  refine ⟨q, hsettle, ?_⟩
  simp only [bind, Except.bind, throw, throwThe, MonadExceptOf.throw, pure, Except.pure] at hnext
  split_ifs at hnext
  exact (Except.ok.inj hnext).symm

theorem switches_of_take {r q : Reading} {s : Setting} {value : String}
    (h : r.take s value = .ok q) : q.switches = r.switches := by
  rw [take] at h
  split_ifs at h
  exact Except.ok.inj h ▸ rfl

theorem switches_of_settle {r q : Reading} (h : r.settle = .ok q) : q.switches = r.switches := by
  rw [settle] at h
  split at h
  · exact Except.ok.inj h ▸ rfl
  · cases h
  · exact (switches_of_take h).trans rfl

theorem switches_of_setting {r q : Reading} {s : Setting} {value : Option String}
    (h : r.setting s value = .ok q) : q.switches = r.switches := by
  rw [setting] at h
  obtain ⟨next, hsettle, hnext⟩ := exists_of_bind_eq_ok h
  rw [← switches_of_settle hsettle]
  cases value with
  | none => exact Except.ok.inj hnext ▸ rfl
  | some value => exact switches_of_take hnext

theorem switches_of_switch {r q : Reading} {s : Switch} (h : r.switch s = .ok q) :
    q.switches = s :: r.switches := by
  obtain ⟨next, hsettle, rfl⟩ := switch_eq_ok h
  rw [← switches_of_settle hsettle]

theorem subset_of_short {r q : Reading} {cs : List Char} (h : r.short cs = .ok q) :
    r.switches ⊆ q.switches := by
  induction cs generalizing r with
  | nil =>
    obtain rfl := Except.ok.inj h
    exact List.Subset.refl _
  | cons c cs ih =>
    rw [short_cons] at h
    split at h
    · cases h
    · exact (switches_of_setting h).symm ▸ List.Subset.refl _
    · obtain ⟨next, hswitch, hshort⟩ := exists_of_bind_eq_ok h
      have hnext := ih hshort
      rw [switches_of_switch hswitch] at hnext
      exact (List.cons_subset.mp hnext).2

/-- No argument takes a switch back. -/
theorem subset_of_step {r q : Reading} {argument : String} (h : r.step argument = .ok q) :
    r.switches ⊆ q.switches := by
  rw [step] at h
  split at h
  · rw [long] at h
    split at h
    · cases h
    · exact (switches_of_setting h).symm ▸ List.Subset.refl _
    · split at h
      · cases h
      · exact (switches_of_switch h).symm ▸ List.subset_cons_self _ _
  · exact subset_of_short h
  · rw [plain] at h
    split at h
    · exact Except.ok.inj h ▸ List.Subset.refl _
    · cases h

theorem subset_of_all {r s : Reading} {arguments : List String} (h : r.all arguments = .ok s) :
    r.switches ⊆ s.switches := by
  induction arguments generalizing r with
  | nil => exact (switches_of_settle h).symm ▸ List.Subset.refl _
  | cons argument arguments ih =>
    by_cases hend : argument = "--"
    · rw [hend, all_end] at h
      split at h
      · exact (switches_of_settle h).symm ▸ List.Subset.refl _
      · cases h
    · obtain ⟨next, hstep, hnext⟩ := exists_step hend h
      exact List.Subset.trans (subset_of_step hstep) (ih hnext)

theorem step_dryArgument (r : Reading) : r.step dryArgument = r.switch .dryRun := rfl

/-- Without the switch the other arguments are read as they are with it. -/
theorem all_without {r s : Reading} {arguments : List String} (h : r.all arguments = .ok s) :
    r.withoutDry.all (arguments.filter (· ≠ dryArgument)) = .ok s.withoutDry := by
  induction arguments generalizing r with
  | nil =>
    show r.withoutDry.settle = _
    rw [withoutDry, settle_reswitch]
    exact congrArg (Except.map _) h
  | cons argument arguments ih =>
    by_cases hend : argument = "--"
    · rw [hend, all_end] at h
      split at h
      · rename_i hempty
        rw [List.isEmpty_iff.mp hempty, hend]
        show r.withoutDry.settle = _
        rw [withoutDry, settle_reswitch, h]
        rfl
      · cases h
    obtain ⟨next, hstep, hnext⟩ := exists_step hend h
    by_cases hdry : argument = dryArgument
    · rw [hdry, step_dryArgument] at hstep
      obtain ⟨q, hsettle, rfl⟩ := switch_eq_ok hstep
      have hq : r.withoutDry.settle = .ok q.withoutDry := by
        rw [withoutDry, settle_reswitch, hsettle]
        rfl
      have hrest := ih hnext
      rw [List.filter_cons_of_neg (by simpa using hdry), all_of_settle hq]
      exact hrest
    · have hstep' : r.withoutDry.step argument = .ok next.withoutDry := by
        rw [withoutDry, step_reswitch r spares_remove hdry, hstep]
        rfl
      rw [List.filter_cons_of_pos (by simpa using hdry), all_cons hend, hstep']
      exact ih hnext

/-- Arguments that are understood, and the switch among them, have it kept. -/
theorem dryRun_mem_of_all {r s : Reading} {arguments : List String} (h : r.all arguments = .ok s)
    (hdry : dryArgument ∈ arguments) : .dryRun ∈ s.switches := by
  induction arguments generalizing r with
  | nil => cases hdry
  | cons argument arguments ih =>
    by_cases hend : argument = "--"
    · rw [hend, all_end] at h
      split at h
      · rename_i hempty
        rw [hend, List.isEmpty_iff.mp hempty, List.mem_singleton] at hdry
        exact absurd hdry (by decide)
      · cases h
    obtain ⟨next, hstep, hnext⟩ := exists_step hend h
    rcases List.mem_cons.mp hdry with rfl | hlater
    · rw [step_dryArgument] at hstep
      refine subset_of_all hnext ?_
      rw [switches_of_switch hstep]
      exact List.mem_cons_self
    · exact ih hnext hlater

/-! ## Options -/

theorem options_reswitch {f : List Switch → List Switch} (hf : Spares f) (r : Reading) :
    (r.reswitch f).options = { r.options with dryRun := (f r.switches).contains .dryRun } := by
  have hdist := hf.contains .dist r.switches (by decide)
  have hverbose := hf.contains .verbose r.switches (by decide)
  simp only [options, reswitch, hdist, hverbose]

end Reading
end CommandLine

namespace Options

open CommandLine

/-- **A dry run of arguments is understood exactly if they are, and it asks for the same beside;
otherwise it is refused for the same reason.** -/
theorem ofArguments_dry_cons {arguments : List String} (h : dryArgument ∉ arguments) :
    ofArguments (dryArgument :: arguments)
      = (ofArguments arguments).map fun o => { o with dryRun := true } := by
  have hend : dryArgument ≠ "--" := by decide
  have hstart : Reading.all ⟨[], [], none⟩ (dryArgument :: arguments)
      = (Reading.all ⟨[], [], none⟩ arguments).map (Reading.reswitch (· ++ [.dryRun])) := by
    rw [Reading.all_cons hend, ← Reading.all_reswitch _ spares_add h]
    rfl
  rw [ofArguments, ofArguments, hstart]
  cases Reading.all ⟨[], [], none⟩ arguments with
  | error e => rfl
  | ok s =>
    refine congrArg Except.ok ((s.options_reswitch spares_add).trans ?_)
    simp

variable {arguments : List String} {o : Options}

theorem exists_reading (h : ofArguments arguments = .ok o) :
    ∃ s, Reading.all ⟨[], [], none⟩ arguments = .ok s ∧ s.options = o := by
  rw [ofArguments] at h
  exact exists_of_map_eq_ok h

/-- **Arguments that are understood are so without the dry run, and ask for the same beside.** -/
theorem ofArguments_without (h : ofArguments arguments = .ok o) :
    ofArguments (arguments.filter (· ≠ dryArgument)) = .ok { o with dryRun := false } := by
  obtain ⟨s, hall, rfl⟩ := exists_reading h
  have hwithout := Reading.all_without hall
  have hstart : Reading.withoutDry ⟨[], [], none⟩ = ⟨[], [], none⟩ := rfl
  rw [hstart] at hwithout
  rw [ofArguments, hwithout]
  refine congrArg Except.ok ((s.options_reswitch spares_remove).trans ?_)
  simp

/-- A dry run is asked for by its own argument and in no other way. -/
theorem dryRun_iff (h : ofArguments arguments = .ok o) :
    o.dryRun = true ↔ dryArgument ∈ arguments := by
  constructor
  · intro hdry
    by_contra hnone
    have hothers : ∀ argument ∈ arguments, argument ≠ dryArgument :=
      fun argument hmem heq => hnone (heq ▸ hmem)
    have hsame : arguments.filter (· ≠ dryArgument) = arguments :=
      List.filter_eq_self.mpr (by simpa using hothers)
    have hwithout := ofArguments_without h
    rw [hsame, h] at hwithout
    rw [Except.ok.inj hwithout] at hdry
    cases hdry
  · intro hmem
    obtain ⟨s, hall, rfl⟩ := exists_reading h
    simpa [Reading.options] using Reading.dryRun_mem_of_all hall hmem

end Options
end ToolPack
