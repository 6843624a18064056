import ToolPack.Proofs.CommandLine
import ToolPack.Proofs.Json.Grammar
import ToolPack.Proofs.Manifest.References
import ToolPack.Proofs.OsPath
import ToolPack.Proofs.Package.Apart
import ToolPack.Proofs.Package.ExitStatus
import ToolPack.Proofs.Steps

/-!
# What a dry run tells

A dry run goes as far as the plan, shows it and ends.  The same arguments without the dry run lead
to the same plan and carry it out, or end with the same error on the way to it.  What is shown is a
JSON text of the fields of the plan, and any reader of JSON finds them in it: names with quotes and
line feeds, and paths with any characters, are read as they were written.

Only texts can be shown.  A plan that starts from a directory whose name is no text is carried out
like any other, but the dry run of it ends with an error of its own.  And a dry run is asked for
once: a command line that asks for it twice is not understood, though it is without.

## What is here

* `Plan.reading`, `Shows`: the fields of a plan, and a text that says these and nothing else;
  `Shows.unique`: it shows one plan at most;
* `planned`: the plan that the options lead to, or the error that they lead to;
* `Announces`: what the preparations of a dry run tell of those without, whatever is around them;
* `Foretells`: what a dry run on a tree tells of the run that it goes with;
* `announces_prepare`, `foretells_onTree`: any dry run does;
* `dry_run_foretells`: so does that of any command line;
* `kit_dry_run_is_carried_out`: a small project, with a manifest that is read from its tree;
* `dry_run_is_refused`: dry runs that are refused where the run without is not.
-/

set_option autoImplicit false

namespace ToolPack

open Storage ToolPack.Action

/-! ## What a text shows -/

/-- A plan, as a reader of JSON finds it. -/
def Plan.reading (p : Plan) : Json.Reading :=
  .record
    [("package", .text p.package),
     ("version", .text p.version),
     ("bin_dir", .text p.binDir.text),
     ("binaries", .list (p.binaries.map .text)),
     ("output_dir", .text p.outputDir.text),
     ("scripts_source_dir", .text p.scriptsSourceDir.text),
     ("scripts", .list (p.scripts.map .text)),
     ("scripts_output_dir", .text p.scriptsOutputDir.text),
     ("readme", .text p.readme.text),
     ("dist_dir", match p.distDir with
       | some dir => .text dir.text
       | none => .null)]

theorem texts_injective {names names' : List String}
    (h : names.map Json.Reading.text = names'.map .text) : names = names' :=
  List.map_injective_iff.mpr (fun _ _ heq => Json.Reading.text.inj heq) h

/-- Nothing of a plan is lost in its fields. -/
theorem Plan.reading_injective {p q : Plan} (h : p.reading = q.reading) : p = q := by
  obtain ⟨_, _, ⟨_⟩, _, ⟨_⟩, ⟨_⟩, _, ⟨_⟩, ⟨_⟩, dist⟩ := p
  obtain ⟨_, _, ⟨_⟩, _, ⟨_⟩, ⟨_⟩, _, ⟨_⟩, ⟨_⟩, dist'⟩ := q
  simp only [reading, Json.Reading.record.injEq, List.cons.injEq, Prod.mk.injEq, true_and,
    Json.Reading.text.injEq, Json.Reading.list.injEq, and_true] at h
  obtain ⟨rfl, rfl, rfl, hbinaries, rfl, rfl, hscripts, rfl, rfl, hdist⟩ := h
  obtain rfl := texts_injective hbinaries
  obtain rfl := texts_injective hscripts
  match dist, dist' with
  | none, none => rfl
  | some ⟨_⟩, some ⟨_⟩ =>
    obtain rfl := Json.Reading.text.inj hdist
    rfl

theorem Plan.reading_json (p : Plan) : Json.reading p.json = p.reading := by
  rw [json, reading]
  cases p.distDir with
  | none => simp [Json.reading, Json.fieldReadings, Json.fieldReading, Json.reading_texts]
  | some dir => simp [Json.reading, Json.fieldReadings, Json.fieldReading, Json.reading_texts]

/-- A text that stands for the fields of a plan and for nothing else. -/
def Shows (text : String) (p : Plan) : Prop := ∀ w, Json.Document text w ↔ w = p.reading

theorem shows_pretty (p : Plan) : Shows p.json.pretty p := by
  intro w
  rw [Json.document_pretty_iff, Plan.reading_json]

/-- A text shows one plan at most. -/
theorem Shows.unique {text : String} {p q : Plan} (hp : Shows text p) (hq : Shows text q) :
    p = q :=
  Plan.reading_injective ((hq p.reading).mp ((hp p.reading).mpr rfl))

namespace Program

open Package

/-! ## The way to the plan -/

/-- The plan that the options lead to, with the description of the package; or the error that they
lead to. -/
def planned (o : Options) (s : Surroundings) : Except PackError Resolved :=
  manifest o s >>= resolve o s

theorem resolve_of_ok {o : Options} {s : Surroundings} {m : Manifest} {r : Resolved}
    (h : m.resolve (canonicalFrom o.base s) = .ok r) : resolve o s m = .ok r := by
  rw [resolve, h]
  rfl

theorem planned_of_text {o : Options} {s : Surroundings} {text : String} {m : Manifest}
    (htext : s.manifestText = .ok text) (hm : Manifest.ofText s.env text = .ok m) :
    planned o s = override o s { m with baseDir := textBase o.base } >>= resolve o s := by
  rw [planned, manifest, load, htext]
  simp only [hm]
  rfl

/-- The lines in front of an error: they tell whether the manifest could be read. -/
def front (o : Options) (s : Surroundings) : List String :=
  match load o s with
  | .error _ => ["❌ Failed to load manifest '" ++ o.config.lossy ++ "'"]
  | .ok _ => []

/-- On the way to the plan it does not count whether it is shown or carried out. -/
theorem prepare_of_error {o : Options} {s : Surroundings} {e : PackError}
    (h : planned o s = .error e) :
    ∃ events, prepare o s = .ended (failed e (front o s) events) := by
  rw [planned, manifest] at h
  rw [prepare, front]
  cases hload : load o s with
  | error e' =>
    rw [hload] at h
    obtain rfl := Except.error.inj h
    exact ⟨_, rfl⟩
  | ok m =>
    rw [hload] at h
    simp only [bind, Except.bind] at h ⊢
    cases hoverride : override o s m with
    | error e' =>
      rw [hoverride] at h
      obtain rfl := Except.error.inj h
      exact ⟨_, rfl⟩
    | ok m' =>
      rw [hoverride] at h
      simp only [h]
      exact ⟨_, rfl⟩

theorem prepare_of_ok {o : Options} {s : Surroundings} {r : Resolved} (h : planned o s = .ok r) :
    ∃ events, prepare o s
      = if o.dryRun then .ended (shown o.base r.plan events) else .ready r events := by
  obtain ⟨m', hmanifest, hresolve⟩ := exists_of_bind_eq_ok h
  obtain ⟨m, hload, hoverride⟩ := exists_of_bind_eq_ok hmanifest
  exact ⟨openingEvents o ++ overrideEvents o, by
    simp only [prepare, hload, hoverride, hresolve]⟩

section Shown

variable {base : OsPath} {p : Plan}

theorem shown_of_showable (h : Showable base p) (events : List Log.Event) :
    ∃ text, (shown base p events).exit = 0 ∧ (shown base p events).out = [text]
      ∧ (shown base p events).err = [] ∧ Shows text p := by
  rw [shown, if_pos h]
  exact ⟨p.json.pretty, rfl, rfl, rfl, shows_pretty p⟩

theorem shown_of_not_showable (h : ¬ Showable base p) (events : List Log.Event) :
    (shown base p events).exit = 1 ∧ (shown base p events).out = [] := by
  rw [shown, if_neg h]
  exact ⟨rfl, rfl⟩

end Shown

/-- What the preparations of a dry run tell of those of the run that it goes with. -/
structure Announces (planned : Except PackError Resolved) (base : OsPath) (dry real : Prepared) :
    Prop where
  /-- Without a plan both end with the error that there is in its place, in the same words. -/
  refused : ∀ e, planned = .error e → ∃ front events events',
    dry = .ended (failed e front events) ∧ real = .ended (failed e front events')
  /-- The other run carries out the plan. -/
  ready : ∀ r, planned = .ok r → ∃ events, real = .ready r events
  /-- A plan that can be shown is shown, and nothing else is. -/
  shows : ∀ r, planned = .ok r → Showable base r.plan → ∃ console text,
    dry = .ended console ∧ console.exit = 0 ∧ console.out = [text] ∧ console.err = []
      ∧ Shows text r.plan
  /-- A plan that cannot be shown has an error of its own. -/
  hides : ∀ r, planned = .ok r → ¬ Showable base r.plan → ∃ console,
    dry = .ended console ∧ console.exit = 1 ∧ console.out = []

/-- The preparations of any dry run tell of those without. -/
theorem announces_prepare {o : Options} (hdry : o.dryRun = true) (s : Surroundings) :
    let o' : Options := { o with dryRun := false }
    Announces (planned o' s) o.base (prepare o s) (prepare o' s) := by
  intro o'
  have hsame : planned o s = planned o' s := rfl
  have hshown : ∀ r, planned o' s = .ok r →
      ∃ events, prepare o s = .ended (shown o.base r.plan events) := by
    intro r hr
    obtain ⟨events, hprepare⟩ := prepare_of_ok (hsame.trans hr)
    exact ⟨events, hprepare.trans (if_pos hdry)⟩
  refine ⟨fun e he => ?_, fun r hr => prepare_of_ok hr, fun r hr hshowable => ?_,
    fun r hr hshowable => ?_⟩
  · obtain ⟨events, hended⟩ := prepare_of_error (hsame.trans he)
    obtain ⟨events', hreal⟩ := prepare_of_error he
    exact ⟨front o s, events, events', hended, hreal⟩
  · obtain ⟨events, hended⟩ := hshown r hr
    obtain ⟨text, hplan⟩ := shown_of_showable hshowable events
    exact ⟨_, text, hended, hplan⟩
  · obtain ⟨events, hended⟩ := hshown r hr
    exact ⟨_, hended, shown_of_not_showable hshowable events⟩

section OnTree

variable {o : Options} {env : Environment} {t : FileTree}

theorem onTree_of_ended {console : Console}
    (h : prepare o (surroundings o env t) = .ended console) : onTree o env t = (console, t) := by
  rw [onTree, h]

theorem onTree_of_ready {r : Resolved} {events : List Log.Event}
    (h : prepare o (surroundings o env t) = .ready r events) :
    let ran := (run r).run FileTree.handler t
    onTree o env t = (finish ran.result (events ++ ran.events), ran.state) := by
  intro ran
  rw [onTree, h]

end OnTree

/-! ## A dry run and the run that it goes with

In a tree all names are texts, so a manifest can only be read at a path that is one, and its plan
can be shown. -/

/-- What a dry run tells of the run that it goes with. -/
structure Foretells (planned : Except PackError Resolved) (t : FileTree)
    (dry real : Console × FileTree) : Prop where
  /-- Everything is as it was. -/
  tree : dry.2 = t
  /-- The dry run ends well exactly if there is a plan. -/
  exit_iff : dry.1.exit = 0 ↔ ∃ r, planned = .ok r
  /-- Without a plan both runs end with the error that there is in its place, in the same words and
  with the status of that error, and the other one leaves everything as it was, too. -/
  refused : ∀ e, planned = .error e → ∃ front events events',
    dry.1 = failed e front events ∧ real.1 = failed e front events' ∧ real.2 = t
  /-- What is printed shows the plan, and nothing else is. -/
  shows : ∀ r, planned = .ok r → ∃ text, dry.1.out = [text] ∧ dry.1.err = [] ∧ Shows text r.plan
  /-- The plan that is shown is carried out by the other run. -/
  carried : ∀ r, planned = .ok r → ∀ text ∈ dry.1.out, ∀ p, Shows text p →
    let ran := (run ⟨r.metadata, p⟩).run FileTree.handler t
    real.2 = ran.state ∧ ∃ events, real.1 = finish ran.result (events ++ ran.events)

theorem showable_of_isText {base : OsPath} (h : base.IsText) (p : Plan) : Showable base p := by
  intro path _
  rw [located, if_pos h]
  exact OsPath.isText_ofPath path

/-- A plan that starts from a text leads where its paths lead in the tree. -/
theorem canonicalFrom_of_isText {base : OsPath} (h : base.IsText) (o : Options) (env : Environment)
    (t : FileTree) : canonicalFrom base (surroundings o env t) = t.canonical := by
  funext path
  rw [canonicalFrom, located, if_pos h]
  exact congrArg (·.bind t.canonical) (OsPath.path?_ofPath path)

/-- What is planned on a tree starts from a text. -/
theorem isText_base_of_planned {o : Options} {env : Environment} {t : FileTree} {r : Resolved}
    (h : planned o (surroundings o env t) = .ok r) : o.base.IsText := by
  obtain ⟨m', hmanifest, -⟩ := exists_of_bind_eq_ok h
  obtain ⟨m, hload, -⟩ := exists_of_bind_eq_ok hmanifest
  cases hpath : o.config.path? with
  | none =>
    simp only [load, surroundings, hpath] at hload
    cases hload
  | some path =>
    rw [Options.base, OsPath.path?_eq_some_iff.mp hpath, OsPath.parentOrEmpty_ofPath]
    exact OsPath.isText_ofPath _

/-- Any dry run on a tree tells of the run without. -/
theorem foretells_onTree {o : Options} (hdry : o.dryRun = true) (env : Environment)
    (t : FileTree) :
    let o' : Options := { o with dryRun := false }
    Foretells (planned o' (surroundings o' env t)) t (onTree o env t) (onTree o' env t) := by
  intro o'
  have hannounces := announces_prepare hdry (surroundings o env t)
  cases hplanned : planned o' (surroundings o' env t) with
  | error e =>
    obtain ⟨front, events, events', hended, hreal⟩ := hannounces.refused e hplanned
    rw [onTree_of_ended hended, onTree_of_ended hreal]
    refine ⟨rfl, iff_of_false (exit_failed_ne_zero e front events) nofun, fun e' he => ?_, nofun,
      nofun⟩
    obtain rfl := Except.error.inj he
    exact ⟨front, events, events', rfl, rfl, rfl⟩
  | ok r =>
    have hbase : o.base.IsText := isText_base_of_planned hplanned
    obtain ⟨console, text, hended, hexit, hout, herr, hshows⟩ :=
      hannounces.shows r hplanned (showable_of_isText hbase r.plan)
    obtain ⟨events, hreal⟩ := hannounces.ready r hplanned
    rw [onTree_of_ended hended, onTree_of_ready hreal]
    refine ⟨rfl, iff_of_true hexit ⟨r, rfl⟩, nofun, fun r' hr => ?_,
      fun r' hr text' htext p hp => ?_⟩
    · obtain rfl := Except.ok.inj hr
      exact ⟨text, hout, herr, hshows⟩
    · obtain rfl := Except.ok.inj hr
      obtain rfl := List.mem_singleton.mp (hout ▸ htext)
      obtain rfl := hp.unique hshows
      exact ⟨rfl, events, rfl⟩

/-- **A dry run tells exactly what the run without will do, and does nothing.**  For arguments
without it, the dry run is understood exactly if they are, and is refused for the same reason
otherwise.  And wherever the dry run stands in arguments that are understood, they are understood
without it as well, and ask for the same beside.  The two runs then find the same plan, which the
one shows and the other carries out; or they end with the same error.

That is so on a tree, where all names are texts.  Whatever paths are among the options and whatever
is around them, the two find the same plan or the same error, and the one without carries the plan
out; but the dry run shows it exactly if all of its paths are texts, and ends with an error
otherwise. -/
theorem dry_run_foretells (arguments : List String) (env : Environment) (t : FileTree) :
    let without := arguments.filter (· ≠ CommandLine.dryArgument)
    Options.ofArguments (CommandLine.dryArgument :: without)
        = (Options.ofArguments without).map (fun o => { o with dryRun := true })
      ∧ (∀ o, Options.ofArguments arguments = .ok o → CommandLine.dryArgument ∈ arguments →
        let o' : Options := { o with dryRun := false }
        o.dryRun = true ∧ Options.ofArguments without = .ok o'
          ∧ Foretells (planned o' (surroundings o' env t)) t (onTree o env t) (onTree o' env t))
      ∧ ∀ (o : Options) (s : Surroundings), o.dryRun = true →
        let o' : Options := { o with dryRun := false }
        Announces (planned o' s) o.base (prepare o s) (prepare o' s) := by
  intro without
  refine ⟨Options.ofArguments_dry_cons (by simp [without]), fun o ho hmem => ?_,
    fun o s hdry => announces_prepare hdry s⟩
  have hdry : o.dryRun = true := (Options.dryRun_iff ho).mpr hmem
  exact ⟨hdry, Options.ofArguments_without ho, foretells_onTree hdry env t⟩

/-! ## A project with its manifest -/

/-- A manifest of the small package, as it is written. -/
def kitManifest : String :=
  "[build]\nbinaries = [\"tool\"]\n"
    ++ "[package]\nauthor = \"A\"\nauthor_email = \"a@b.c\"\ndescription = \"D\"\nname = \"kit\"\n"
    ++ "python_requires = \">=3.6\"\nurl = \"https://x.y\"\nversion = \"1.0\"\n"

/-- Entries are put in order unless they are. -/
theorem sorted_eq_ite (entries : Toml.Entries) :
    entries.sorted = if entries.Pairwise (fun a b => decide (a.1 ≤ b.1) = true) then entries
      else entries.mergeSort fun a b => decide (a.1 ≤ b.1) := by
  split_ifs with h
  · exact List.mergeSort_of_pairwise h
  · rfl

theorem ofText_kitManifest :
    Manifest.ofText (fun _ => none) kitManifest = .ok (kit {} {}) := by
  have hplain : Template.expandText (fun _ => none) kitManifest = kitManifest := by
    rw [Template.expandText, Template.expand_of_not_mem (by decide +kernel), String.ofList_toList]
  rw [Manifest.ofText, hplain]
  -- The keys are in order already, so that reading them comes down to evaluation.
  simp only [Manifest.ofDocument, Manifest.layout, Metadata.layout, BuildSection.layout,
    Toml.Layout.read, Toml.Layout.readTable, sorted_eq_ite]
  decide +kernel

/-- The small package in a directory of its own, with its manifest. -/
def kitProject : FileTree :=
  kitTree.put ["package.toml", "w"] (.file kitManifest.toUTF8 false)

theorem readText_kitProject : readText kitProject ⟨"package.toml"⟩ = .ok kitManifest := by
  have h : (readText kitProject ⟨"package.toml"⟩).toOption = some kitManifest := by decide +kernel
  cases hread : readText kitProject ⟨"package.toml"⟩ with
  | error e =>
    rw [hread] at h
    cases h
  | ok text =>
    rw [hread] at h
    exact congrArg Except.ok (Option.some.inj h)

theorem planned_kitProject :
    planned { dist := true } (surroundings { dist := true } (fun _ => none) kitProject)
      = .ok ⟨kitMetadata, (kit {} {}).withDist.plan⟩ := by
  have hbase : Options.base { dist := true } = .ofPath ⟨""⟩ := by
    have hparent : (Path.mk "package.toml").parentOrEmpty = ⟨""⟩ :=
      of_decide_eq_true (by decide +kernel)
    rw [Options.base, OsPath.parentOrEmpty_ofPath, hparent]
  have htext : (surroundings { dist := true } (fun _ => none) kitProject).manifestText
      = .ok kitManifest := by
    rw [surroundings, OsPath.path?_ofPath]
    exact readText_kitProject
  have hresolve : resolve { dist := true }
      (surroundings { dist := true } (fun _ => none) kitProject) (kit {} {}).withDist
      = .ok ⟨kitMetadata, (kit {} {}).withDist.plan⟩ := by
    refine resolve_of_ok ?_
    rw [hbase, canonicalFrom_of_isText (OsPath.isText_ofPath _)]
    exact Manifest.resolve_eq_of_isOk (by decide +kernel)
  rw [planned_of_text htext ofText_kitManifest, hbase, textBase, OsPath.path?_ofPath]
  exact hresolve

/-- The small package with an archive: the dry run shows its plan, and the same arguments without it
carry that plan out. -/
theorem kit_dry_run_is_carried_out :
    let o : Options := { dist := true }
    let s := surroundings o (fun _ => none) kitProject
    let r : Resolved := ⟨kitMetadata, (kit {} {}).withDist.plan⟩
    let dry := onTree { o with dryRun := true } (fun _ => none) kitProject
    let real := onTree o (fun _ => none) kitProject
    Options.ofArguments ["--dist", CommandLine.dryArgument] = .ok { o with dryRun := true }
      ∧ Options.ofArguments ["--dist"] = .ok o
      ∧ (∃ events, prepare o s = .ready r events)
      ∧ dry.2 = kitProject ∧ dry.1.exit = 0
      ∧ (∃ text, dry.1.out = [text] ∧ Shows text r.plan)
      ∧ real.2 = ((run r).run FileTree.handler kitProject).state := by
  intro o s r dry real
  have harguments : Options.ofArguments ["--dist", CommandLine.dryArgument]
      = .ok { o with dryRun := true } := by decide +kernel
  obtain ⟨-, htold, hannounced⟩ :=
    dry_run_foretells ["--dist", CommandLine.dryArgument] (fun _ => none) kitProject
  obtain ⟨-, hwithout, hforetells⟩ := htold _ harguments (by decide)
  -- With its types written out, as the kernel would carry both runs out to compare them.
  have h : Foretells (planned o s) kitProject dry real := hforetells
  have hready := (hannounced { o with dryRun := true } s rfl).ready r planned_kitProject
  obtain ⟨text, hout, -, hshows⟩ := h.shows r planned_kitProject
  have hmem : text ∈ dry.1.out := hout ▸ List.mem_singleton_self text
  obtain ⟨hstate, -⟩ := h.carried r planned_kitProject text hmem r.plan hshows
  exact ⟨harguments, hwithout, hready, h.tree, h.exit_iff.mpr ⟨r, planned_kitProject⟩,
    ⟨text, hout, hshows⟩, hstate⟩

/-- Dry runs that are refused, of options and of arguments that lead to a plan.  The directory of
the one has a name that is no text, and the others ask for a dry run twice. -/
theorem dry_run_is_refused :
    let o : Options := { config := ⟨"d".toUTF8.data.toList ++ 0xFF :: "/kit".toUTF8.data.toList⟩ }
    let s : Surroundings := ⟨.ok (.ofPath ⟨"/"⟩), fun _ => none, fun _ => none, .ok kitManifest⟩
    let r : Resolved := ⟨kitMetadata, (kit {} {}).plan⟩
    (planned o s = .ok r ∧ (∃ events, prepare o s = .ready r events)
        ∧ ∃ console, prepare { o with dryRun := true } s = .ended console ∧ console.exit = 1
          ∧ console.out = [])
      ∧ Options.ofArguments ["--dist", CommandLine.dryArgument, CommandLine.dryArgument]
        = .error .conflict
      ∧ UsageError.conflict.exitStatus = 2
      ∧ Options.ofArguments ["--dist"] = .ok { dist := true }
      ∧ ∃ r', planned { dist := true } (surroundings { dist := true } (fun _ => none) kitProject)
        = .ok r' := by
  intro o s r
  have hplanned : planned o s = .ok r := by
    have hbase : textBase o.base = ⟨""⟩ := by decide +kernel
    have hresolve : resolve o s (kit {} {}) = .ok r :=
      resolve_of_ok (Manifest.resolve_eq_of_isOk (by decide +kernel))
    have htext : s.manifestText = .ok kitManifest := rfl
    have hm : Manifest.ofText s.env kitManifest = .ok (kit {} {}) := ofText_kitManifest
    have hoverride : override o s { kit {} {} with baseDir := ⟨""⟩ } = .ok (kit {} {}) := rfl
    rw [planned_of_text htext hm, hbase, hoverride]
    exact hresolve
  have hhidden : ¬ Showable o.base r.plan := by decide +kernel
  have hannounced := announces_prepare (rfl : { o with dryRun := true }.dryRun = true) s
  exact ⟨⟨hplanned, hannounced.ready r hplanned, hannounced.hides r hplanned hhidden⟩,
    by decide +kernel, rfl, by decide +kernel, _, planned_kitProject⟩

end Program
end ToolPack
