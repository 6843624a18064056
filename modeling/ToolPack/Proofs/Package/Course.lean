import ToolPack.Proofs.Package.Loops
import ToolPack.Proofs.Storage.Contents

/-!
# The course of a run

A run looks, stages and describes, in this order.  This file says what each phase exchanges with
the storage, what it makes of that and with which errors it ends by itself, and from that what a
run may ask for after the exchanges so far.

## What is here

* `Verified`, `Refused`: the first phase, when everything is there and when something is not;
* `Staged`: the second phase;
* `Archived`, `Describes`: the third phase, with the archive that may or may not be built;
* `Allowed`: the calls that a run may make;
* `ThreePhases`, `Ended`: the exchanges of a run that goes through its phases, and the ends of runs;
* `ensures_run`: a run keeps to them, whatever the storage answers.  Statements about all runs are
  case analyses of `Allowed` and `Ended` (`allowed_of_exchanges`, `failed_or_ended`).
-/

set_option autoImplicit false

namespace ToolPack

open Storage ToolPack.Action

/-- The names of the entries of an archive. -/
def Resolved.archiveNames (r : Resolved) : List String :=
  r.plan.binaries ++ r.plan.scripts.map (Package.scriptEntryName r.metadata)
    ++ [PkgInfo.fileName, Record.fileName]

namespace Package

/-! ## The first phase -/

/-- What the first phase asks for. -/
inductive Looks (plan : Plan) : Call → Prop
  | size {path : Path} (h : path ∈ plan.inputs) : Looks plan (.size path)
  | read : Looks plan (.read plan.readme)

theorem Looks.not_changes {plan : Plan} {c : Call} (h : Looks plan c) : c.changes = false := by
  cases h <;> rfl

/-- The exchanges of a first phase that finds everything. -/
inductive Verified (plan : Plan) : Inputs → List Exchange → Prop
  | intro {binaries scripts : List Artifact} {past past' : List Exchange} {bytes : ByteArray}
      {text : String} (size : Nat) (hbinaries : Found plan.binDir plan.binaries binaries past)
      (hscripts : Found plan.scriptsSourceDir plan.scripts scripts past')
      (htext : String.fromUTF8? bytes = some text) :
      Verified plan ⟨binaries, scripts, text⟩
        (past ++ past' ++ [⟨.size plan.readme, .ok (some size)⟩, ⟨.read plan.readme, .ok bytes⟩])

/-- The exchanges of a first phase that lacks something, and its error. -/
inductive Refused (plan : Plan) : PackError → List Exchange → Prop
  | binary {front rest : List String} {name : String} {found : List Artifact}
      {past : List Exchange} (hnames : plan.binaries = front ++ name :: rest)
      (hfound : Found plan.binDir front found past) :
      Refused plan (.missingArtifact (plan.binDir.join name))
        (past ++ [⟨.size (plan.binDir.join name), .ok none⟩])
  | script {binaries : List Artifact} {front rest : List String} {name : String}
      {found : List Artifact} {past past' : List Exchange}
      (hbinaries : Found plan.binDir plan.binaries binaries past)
      (hnames : plan.scripts = front ++ name :: rest)
      (hfound : Found plan.scriptsSourceDir front found past') :
      Refused plan (.missingScript (plan.scriptsSourceDir.join name))
        (past ++ past' ++ [⟨.size (plan.scriptsSourceDir.join name), .ok none⟩])
  | noReadme {binaries scripts : List Artifact} {past past' : List Exchange}
      (hbinaries : Found plan.binDir plan.binaries binaries past)
      (hscripts : Found plan.scriptsSourceDir plan.scripts scripts past') :
      Refused plan (noLongDescription plan.readme)
        (past ++ past' ++ [⟨.size plan.readme, .ok none⟩])
  | notText {binaries scripts : List Artifact} {past past' : List Exchange} {bytes : ByteArray}
      (size : Nat) (hbinaries : Found plan.binDir plan.binaries binaries past)
      (hscripts : Found plan.scriptsSourceDir plan.scripts scripts past')
      (htext : String.fromUTF8? bytes = none) :
      Refused plan (Package.notText plan.readme bytes)
        (past ++ past' ++ [⟨.size plan.readme, .ok (some size)⟩, ⟨.read plan.readme, .ok bytes⟩])

theorem Verified.quiet {plan : Plan} {inputs : Inputs} {past : List Exchange}
    (h : Verified plan inputs past) : Quiet past := by
  obtain ⟨size, hbinaries, hscripts, -⟩ := h
  refine (hbinaries.quiet.append hscripts.quiet).append fun x hx => ?_
  simp only [List.mem_cons, List.not_mem_nil, or_false] at hx
  rcases hx with rfl | rfl <;> rfl

theorem Refused.quiet {plan : Plan} {e : PackError} {past : List Exchange}
    (h : Refused plan e past) : Quiet past := by
  have hsize : ∀ path, Quiet [⟨.size path, .ok none⟩] := fun path x hx => by
    rw [List.mem_singleton.mp hx]
    rfl
  cases h with
  | binary hnames hfound => exact hfound.quiet.append (hsize _)
  | script hbinaries hnames hfound =>
    exact (hbinaries.quiet.append hfound.quiet).append (hsize _)
  | noReadme hbinaries hscripts =>
    exact (hbinaries.quiet.append hscripts.quiet).append (hsize _)
  | notText size hbinaries hscripts htext =>
    refine (hbinaries.quiet.append hscripts.quiet).append fun x hx => ?_
    simp only [List.mem_cons, List.not_mem_nil, or_false] at hx
    rcases hx with rfl | rfl <;> rfl

/-- The long description is read, and is text or not. -/
theorem ensures_readLongDescription {asks : List Exchange → Call → Prop}
    {ends : List Exchange → Except PackError String → Prop} {path : Path} {past : List Exchange}
    (hread : asks past (.read path))
    (htext : ∀ bytes text, String.fromUTF8? bytes = some text →
      ends (past ++ [⟨.read path, .ok bytes⟩]) (.ok text))
    (hnone : ∀ bytes, String.fromUTF8? bytes = none →
      ends (past ++ [⟨.read path, .ok bytes⟩]) (.error (notText path bytes))) :
    (readLongDescription path).Ensures asks ends past := by
  refine (ensures_call_bind _ _).mpr ⟨hread, fun bytes => ?_⟩
  cases h : String.fromUTF8? bytes with
  | some text => exact htext bytes text h
  | none => exact hnone bytes h

/-- The first phase looks until something is lacking. -/
theorem ensures_verify {asks : List Exchange → Call → Prop}
    {ends : List Exchange → Except PackError Inputs → Prop} {plan : Plan} {past : List Exchange}
    (hlook : ∀ seen c, Quiet seen → Looks plan c → asks (past ++ seen) c)
    (hend : ∀ inputs seen, Verified plan inputs seen → ends (past ++ seen) (.ok inputs))
    (hrefused : ∀ e seen, Refused plan e seen → ends (past ++ seen) (.error e)) :
    (verify plan).Ensures asks ends past := by
  refine (ensures_report_bind _ _ _ _).mpr ((ensures_bind _ _).mpr ?_)
  refine ensures_verifyArtifacts (fun front name rest found seen hnames hfound => ?_)
    fun binaries seen hbinaries => ?_
  · have hname : name ∈ plan.binaries := by simp [hnames]
    refine ⟨hlook _ _ hfound.quiet (.size (Plan.binary_mem_inputs hname)), ?_⟩
    rw [List.append_assoc]
    exact hrefused _ _ (.binary hnames hfound)
  refine (ensures_bind _ _).mpr (ensures_verifyArtifacts
    (fun front name rest found seen' hnames hfound => ?_) fun scripts seen' hscripts => ?_)
  · have hname : name ∈ plan.scripts := by simp [hnames]
    rw [List.append_assoc, List.append_assoc]
    refine ⟨hlook _ _ (hbinaries.quiet.append hfound.quiet)
      (.size (Plan.script_mem_inputs hname)), ?_⟩
    exact hrefused _ _ (.script hbinaries hnames hfound)
  have hquiet := hbinaries.quiet.append hscripts.quiet
  rw [List.append_assoc]
  refine ⟨hlook _ _ hquiet (.size plan.readme_mem_inputs), fun reply => ?_⟩
  cases reply with
  | none =>
    rw [List.append_assoc]
    exact hrefused _ _ (.noReadme hbinaries hscripts)
  | some size =>
    show (readLongDescription plan.readme >>= fun text =>
      pure ⟨binaries, scripts, text⟩).Ensures asks ends _
    refine (ensures_bind _ _).mpr (ensures_readLongDescription ?_ (fun bytes text htext => ?_)
      fun bytes htext => ?_)
    · rw [List.append_assoc]
      refine hlook _ _ (hquiet.append fun x hx => ?_) .read
      rw [List.mem_singleton.mp hx]
      rfl
    · rw [List.append_assoc, List.append_assoc]
      exact hend _ _ (.intro size hbinaries hscripts htext)
    · rw [List.append_assoc, List.append_assoc]
      exact hrefused _ _ (.notText size hbinaries hscripts htext)

/-! ## The second phase -/

/-- The exchanges of a second phase, and what was copied. -/
inductive Staged (plan : Plan) (inputs : Inputs) : Report → List Exchange → Prop
  | intro {binaries scripts : List StagedFile} {done done' : List Exchange}
      (hbinaries : Copied plan.outputDir inputs.binaries binaries done)
      (hscripts : Copied plan.scriptsOutputDir inputs.scripts scripts done') :
      Staged plan inputs ⟨binaries, scripts, inputs.longDescription⟩
        (⟨.makeDirs plan.outputDir, .ok ()⟩ :: done
          ++ ⟨.makeDirs plan.scriptsOutputDir, .ok ()⟩ :: done' ++ marking scripts)

/-- What the second phase asks for. -/
inductive Stages (plan : Plan) : Call → Prop
  | makeDirs {dir : Path} (h : dir = plan.outputDir ∨ dir = plan.scriptsOutputDir) :
      Stages plan (.makeDirs dir)
  | copy {c : Path × Path} (h : c ∈ plan.copies) : Stages plan (.copy c.1 c.2)
  | mark {name : String} (h : name ∈ plan.scripts) :
      Stages plan (.markExecutable (plan.scriptsOutputDir.join name))

theorem Verified.source_binary {plan : Plan} {inputs : Inputs} {past : List Exchange}
    (h : Verified plan inputs past) {artifact : Artifact} (ha : artifact ∈ inputs.binaries) :
    artifact.name ∈ plan.binaries ∧ artifact.source = plan.binDir.join artifact.name := by
  obtain ⟨size, hbinaries, -, -⟩ := h
  exact hbinaries.source artifact ha

theorem Verified.source_script {plan : Plan} {inputs : Inputs} {past : List Exchange}
    (h : Verified plan inputs past) {artifact : Artifact} (ha : artifact ∈ inputs.scripts) :
    artifact.name ∈ plan.scripts ∧ artifact.source = plan.scriptsSourceDir.join artifact.name := by
  obtain ⟨size, -, hscripts, -⟩ := h
  exact hscripts.source artifact ha

/-- The second phase copies what the first one found. -/
theorem ensures_stage {asks : List Exchange → Call → Prop}
    {ends : List Exchange → Except PackError Report → Prop} {plan : Plan} {inputs : Inputs}
    {seen past : List Exchange} (hinputs : Verified plan inputs seen)
    (hstage : ∀ done c, Stages plan c → asks (past ++ done) c)
    (hend : ∀ report done, Staged plan inputs report done → ends (past ++ done) (.ok report)) :
    (stage plan inputs).Ensures asks ends past := by
  have hbinary : ∀ artifact ∈ inputs.binaries, Stages plan
      (.copy artifact.source (plan.outputDir.join artifact.name)) := by
    intro artifact ha
    obtain ⟨hname, hsource⟩ := hinputs.source_binary ha
    rw [hsource]
    exact .copy (Plan.binaryCopy_mem hname)
  have hscript : ∀ artifact ∈ inputs.scripts, Stages plan
      (.copy artifact.source (plan.scriptsOutputDir.join artifact.name)) := by
    intro artifact ha
    obtain ⟨hname, hsource⟩ := hinputs.source_script ha
    rw [hsource]
    exact .copy (Plan.scriptCopy_mem hname)
  refine (ensures_bind _ _).mpr ⟨?_, fun _ => ?_⟩
  · simpa using hstage [] _ (.makeDirs (.inl rfl))
  refine ensures_copyEach (fun front artifact rest files done hsplit hcopied => ?_)
    fun binaries done hbinaries => ?_
  · rw [List.append_assoc]
    exact hstage _ _ (hbinary artifact (by simp [hsplit]))
  refine (ensures_bind _ _).mpr ((ensures_bind _ _).mpr ⟨?_, fun _ => ?_⟩)
  · rw [List.append_assoc]
    exact hstage _ _ (.makeDirs (.inr rfl))
  refine ensures_copyEach (fun front artifact rest files done' hsplit hcopied => ?_)
    fun scripts done' hscripts => ?_
  · simp only [List.append_assoc]
    exact hstage _ _ (hscript artifact (by simp [hsplit]))
  refine (ensures_bind _ _).mpr (ensures_markEach (fun front file rest hsplit => ?_) ?_)
  · obtain ⟨artifact, ha, hname, hdest, -⟩ := hscripts.origin file (by simp [hsplit])
    simp only [List.append_assoc]
    rw [hdest, ← hname]
    exact hstage _ _ (.mark (hinputs.source_script ha).1)
  · have h := hend _ _ (.intro hbinaries hscripts)
    simp only [List.append_assoc, List.cons_append, List.nil_append] at h ⊢
    exact h

/-! ## The third phase -/

/-- The exchanges of building an archive, with its bytes; of reading back when it cannot be
built. -/
inductive ReadBack (r : Resolved) (report : Report) (pkgInfo : String) :
    Except ArchiveError ByteArray → List Exchange → Prop
  | intro {binaries scripts : List (String × ByteArray)} {done done' : List Exchange}
      (hbinaries : Fetched id report.binaries binaries done)
      (hscripts : Fetched (scriptEntryName r.metadata) report.scripts scripts done') :
      ReadBack r report pkgInfo (Zip.build (archiveEntries (binaries ++ scripts) pkgInfo))
        (done ++ done')

theorem Gathered.readBack {r : Resolved} {report : Report} {files : List (String × ByteArray)}
    {past : List Exchange} (h : Gathered r.metadata report.binaries report.scripts files past)
    (pkgInfo : String) :
    ReadBack r report pkgInfo (Zip.build (archiveEntries files pkgInfo)) past := by
  obtain ⟨hbinaries, hscripts⟩ := h
  exact .intro hbinaries hscripts

/-- Where the archive goes in a directory. -/
def archivePath (r : Resolved) (dir : Path) : Path := dir.join (archiveName r.metadata)

/-- The exchanges of the archive, if there is one, and where it is. -/
inductive Archived (r : Resolved) (report : Report) (pkgInfo : String) :
    Except PackError (Option Path) → List Exchange → Prop
  | unwanted (h : r.plan.distDir = none) : Archived r report pkgInfo (.ok none) []
  | built {dir : Path} {bytes : ByteArray} {done : List Exchange}
      (hdir : r.plan.distDir = some dir) (hread : ReadBack r report pkgInfo (.ok bytes) done) :
      Archived r report pkgInfo (.ok (some (archivePath r dir)))
        (done ++ [⟨.write (archivePath r dir) bytes, .ok ()⟩])
  | blocked {dir : Path} {e : ArchiveError} {done : List Exchange}
      (hdir : r.plan.distDir = some dir) (hread : ReadBack r report pkgInfo (.error e) done) :
      Archived r report pkgInfo (.error (.archive e)) done

/-- The call that writes the package headers. -/
def writeHeaders (r : Resolved) (text : String) : Call :=
  .write (r.plan.outputDir.join PkgInfo.fileName) (PkgInfo.render r.metadata text).toUTF8

/-- The call that writes the list of scripts. -/
def writeList (r : Resolved) : Call :=
  .write (r.plan.outputDir.join scriptListName) (scriptList r.plan.scripts).toUTF8

/-- What the third phase asks for, after the exchanges since the first one. -/
inductive Describes (r : Resolved) (text : String) (done : List Exchange) : Call → Prop
  | headers : Describes r text done (writeHeaders r text)
  | list : Describes r text done (writeList r)
  | readBack {c : Path × Path} {size : Nat} (h : c ∈ r.plan.copies)
      (hcopied : ⟨.copy c.1 c.2, .ok size⟩ ∈ done) : Describes r text done (.read c.2)
  | archive {dir : Path} {entries : List Zip.Entry} {bytes : ByteArray}
      (hdir : r.plan.distDir = some dir) (hnames : entries.map (·.name) = r.archiveNames)
      (hbytes : Zip.build entries = .ok bytes) :
      Describes r text done (.write (archivePath r dir) bytes)

/-- What was staged of what was found: the names are those of the plan, and every file goes back
to the exchange that copied it. -/
structure Traced (plan : Plan) (report : Report) (done : List Exchange) : Prop where
  binaryNames : report.binaries.map (·.name) = plan.binaries
  scriptNames : report.scripts.map (·.name) = plan.scripts
  binary : ∀ file ∈ report.binaries, file.name ∈ plan.binaries
    ∧ file.destination = plan.outputDir.join file.name
    ∧ ⟨.copy (plan.binDir.join file.name) file.destination, .ok file.size⟩ ∈ done
  script : ∀ file ∈ report.scripts, file.name ∈ plan.scripts
    ∧ file.destination = plan.scriptsOutputDir.join file.name
    ∧ ⟨.copy (plan.scriptsSourceDir.join file.name) file.destination, .ok file.size⟩ ∈ done

theorem Staged.traced {plan : Plan} {inputs : Inputs} {report : Report}
    {seen done : List Exchange} (hinputs : Verified plan inputs seen)
    (h : Staged plan inputs report done) : Traced plan report done := by
  obtain ⟨size, hbin, hscr, -⟩ := hinputs
  obtain ⟨hbinaries, hscripts⟩ := h
  refine ⟨hbinaries.map_name.trans hbin.map_name, hscripts.map_name.trans hscr.map_name,
    fun file hfile => ?_, fun file hfile => ?_⟩
  · obtain ⟨artifact, ha, hname, hdest, hx⟩ := hbinaries.origin file hfile
    obtain ⟨hmem, hsource⟩ := hbin.source artifact ha
    rw [hsource, hname] at hx
    exact ⟨hname ▸ hmem, hdest, by simp [hx]⟩
  · obtain ⟨artifact, ha, hname, hdest, hx⟩ := hscripts.origin file hfile
    obtain ⟨hmem, hsource⟩ := hscr.source artifact ha
    rw [hsource, hname] at hx
    exact ⟨hname ▸ hmem, hdest, by simp [hx]⟩

/-- Every staged file comes from a copy of the plan. -/
theorem Traced.copied {plan : Plan} {report : Report} {done : List Exchange}
    (h : Traced plan report done) {file : StagedFile}
    (hfile : file ∈ report.binaries ++ report.scripts) :
    ∃ c ∈ plan.copies, c.2 = file.destination ∧ ⟨.copy c.1 c.2, .ok file.size⟩ ∈ done := by
  rcases List.mem_append.mp hfile with hfile | hfile
  · obtain ⟨hname, hdest, hx⟩ := h.binary file hfile
    rw [hdest] at hx ⊢
    exact ⟨_, Plan.binaryCopy_mem hname, rfl, hx⟩
  · obtain ⟨hname, hdest, hx⟩ := h.script file hfile
    rw [hdest] at hx ⊢
    exact ⟨_, Plan.scriptCopy_mem hname, rfl, hx⟩

/-- What is built is an archive of files under the names that the plan foresees. -/
theorem ReadBack.files {r : Resolved} {report : Report} {pkgInfo : String}
    {result : Except ArchiveError ByteArray} {done past : List Exchange}
    (htraced : Traced r.plan report done) (h : ReadBack r report pkgInfo result past) :
    ∃ files : List (String × ByteArray),
      files.map (·.1) = r.plan.binaries ++ r.plan.scripts.map (scriptEntryName r.metadata)
        ∧ Zip.build (archiveEntries files pkgInfo) = result := by
  obtain ⟨hbinaries, hscripts⟩ := h
  have hgathered : Gathered r.metadata report.binaries report.scripts _ _ :=
    .intro hbinaries hscripts
  refine ⟨_, ?_, rfl⟩
  rw [hgathered.map_name, htraced.binaryNames, ← htraced.scriptNames, List.map_map]
  rfl

/-- The entries of files have their names, and then there are the headers and the record. -/
theorem names_archiveEntries (files : List (String × ByteArray)) (pkgInfo : String) :
    (archiveEntries files pkgInfo).map (·.name)
      = files.map (·.1) ++ [PkgInfo.fileName, Record.fileName] := by
  rw [archiveEntries, List.map_append, List.map_map]
  rfl

/-- What is built is an archive of entries under the names that the plan foresees. -/
theorem ReadBack.entries {r : Resolved} {report : Report} {pkgInfo : String}
    {result : Except ArchiveError ByteArray} {done past : List Exchange}
    (htraced : Traced r.plan report done) (h : ReadBack r report pkgInfo result past) :
    ∃ entries : List Zip.Entry, entries.map (·.name) = r.archiveNames
      ∧ Zip.build entries = result := by
  obtain ⟨files, hnames, hbuilt⟩ := h.files htraced
  exact ⟨_, by rw [names_archiveEntries, hnames, Resolved.archiveNames], hbuilt⟩

/-- The archive is read together and written at once, or not at all. -/
theorem ensures_finalizeArchive {asks : List Exchange → Call → Prop}
    {ends : List Exchange → Except PackError (Option Path) → Prop} {r : Resolved}
    {report : Report} {pkgInfo : String} {past : List Exchange}
    (hread : ∀ done, ∀ file ∈ report.binaries ++ report.scripts,
      asks (past ++ done) (.read file.destination))
    (hwrite : ∀ dir done bytes, r.plan.distDir = some dir →
      ReadBack r report pkgInfo (.ok bytes) done →
        asks (past ++ done) (.write (archivePath r dir) bytes))
    (hend : ∀ result done, Archived r report pkgInfo result done → ends (past ++ done) result) :
    (finalizeArchive r report pkgInfo).Ensures asks ends past := by
  rw [finalizeArchive]
  cases hdir : r.plan.distDir with
  | none =>
    have h := hend _ _ (.unwanted hdir)
    rwa [List.append_nil] at h
  | some dir =>
    refine (ensures_bind _ _).mpr (ensures_buildArchive (fun done _ => hread done)
      (fun files done bytes hgathered hbuild => ?_) fun files done e hgathered hbuild => ?_)
    · have hback := hgathered.readBack (r := r) pkgInfo
      rw [hbuild] at hback
      exact ⟨hwrite dir done bytes hdir hback, hend _ _ (.built hdir hback)⟩
    · have hback := hgathered.readBack (r := r) pkgInfo
      rw [hbuild] at hback
      exact hend _ _ (.blocked hdir hback)

/-- The exchanges of writing the headers and the list of scripts. -/
def describing (r : Resolved) (text : String) : List Exchange :=
  [⟨writeHeaders r text, .ok ()⟩, ⟨writeList r, .ok ()⟩]

/-- What a run has made, once it is known what was staged and where the archive is. -/
def outcome (r : Resolved) (report : Report) (archive : Option Path) : Outcome :=
  ⟨r.plan.outputDir, r.plan.outputDir.join PkgInfo.fileName, report, archive⟩

/-- The third phase describes what was staged, and the archive holds it. -/
theorem ensures_finalize {asks : List Exchange → Call → Prop}
    {ends : List Exchange → Except PackError Outcome → Prop} {r : Resolved} {report : Report}
    {done past : List Exchange} (htraced : Traced r.plan report done)
    (hdescribe : ∀ written c, Describes r report.longDescription (done ++ written) c →
      asks (past ++ written) c)
    (hend : ∀ archive written,
      Archived r report (PkgInfo.render r.metadata report.longDescription) archive written →
        ends (past ++ (describing r report.longDescription ++ written))
          (archive.map (outcome r report))) :
    (finalize r report).Ensures asks ends past := by
  rw [finalize, writeScriptList, htraced.scriptNames]
  refine ⟨?_, fun _ => ⟨hdescribe _ _ .list, fun _ => ?_⟩⟩
  · have h := hdescribe [] _ .headers
    rwa [List.append_nil] at h
  show Ensures asks ends _ (finalizeArchive r report _ >>= fun archive =>
    pure (outcome r report archive))
  refine (ensures_bind _ _).mpr (ensures_finalizeArchive (fun written file hfile => ?_)
    (fun dir written bytes hdir hread => ?_) fun result written harchived => ?_)
  · obtain ⟨c, hc, hdest, hx⟩ := htraced.copied hfile
    rw [← hdest, List.append_assoc, List.append_assoc]
    exact hdescribe _ _ (.readBack hc (List.mem_append_left _ hx))
  · obtain ⟨entries, hnames, hbytes⟩ := hread.entries htraced
    rw [List.append_assoc, List.append_assoc]
    exact hdescribe _ _ (.archive hdir hnames hbytes)
  · rw [List.append_assoc, List.append_assoc]
    have h := hend result written harchived
    cases result with
    | ok archive => exact h
    | error e => exact h

/-! ## The whole run -/

/-- What a run may ask for after the exchanges so far: to look while nothing has changed, and to
change something only behind a first phase that found everything. -/
inductive Allowed (r : Resolved) : List Exchange → Call → Prop
  | look {past : List Exchange} {c : Call} (hquiet : Quiet past) (hc : Looks r.plan c) :
      Allowed r past c
  | stage {inputs : Inputs} {seen done : List Exchange} {c : Call}
      (hseen : Verified r.plan inputs seen) (hc : Stages r.plan c) : Allowed r (seen ++ done) c
  | describe {inputs : Inputs} {seen done : List Exchange} {c : Call}
      (hseen : Verified r.plan inputs seen) (hc : Describes r inputs.longDescription done c) :
      Allowed r (seen ++ done) c

/-- The exchanges of a run that goes through all three phases, since every input was there: what it
saw, what it staged and what it wrote to describe the package.  The archive comes last and can still
be refused, for a name that comes twice, so what comes of it is a parameter.  Facts about the files
that a run leaves are read off here, phase by phase. -/
inductive ThreePhases (r : Resolved) :
    Report → Except PackError (Option Path) → List Exchange → Prop
  | intro {inputs : Inputs} {report : Report} {archive : Except PackError (Option Path)}
      {seen done written : List Exchange} (hseen : Verified r.plan inputs seen)
      (hdone : Staged r.plan inputs report done)
      (hwritten : Archived r report (PkgInfo.render r.metadata report.longDescription)
        archive written) :
      ThreePhases r report archive
        (seen ++ done ++ (describing r report.longDescription ++ written))

/-- How a run ends by itself, and with which exchanges. -/
inductive Ended (r : Resolved) : Except PackError Outcome → List Exchange → Prop
  | refused {e : PackError} {seen : List Exchange} (h : Refused r.plan e seen) :
      Ended r (.error e) seen
  | threePhases {report : Report} {archive : Except PackError (Option Path)} {past : List Exchange}
      (h : ThreePhases r report archive past) : Ended r (archive.map (outcome r report)) past

theorem Staged.longDescription {plan : Plan} {inputs : Inputs} {report : Report}
    {done : List Exchange} (h : Staged plan inputs report done) :
    report.longDescription = inputs.longDescription := by
  cases h
  rfl

/-- Events change nothing, however many there are. -/
theorem ensures_reportStaged {asks : List Exchange → Call → Prop}
    {ends : List Exchange → Except PackError Unit → Prop} {past : List Exchange}
    (files : List StagedFile) (hend : ends past (.ok ())) :
    (reportStaged files).Ensures asks ends past := by
  induction files with
  | nil => exact hend
  | cons file files ih => exact ih

/-- **A run asks for nothing but what it may, and ends in no other way**, whatever the storage
answers. -/
theorem ensures_run (r : Resolved) :
    (run r).Ensures (Allowed r) (fun past result => Ended r result past) [] := by
  refine (ensures_report_bind _ _ _ _).mpr ((ensures_bind _ _).mpr (ensures_verify
    (fun seen c hquiet hc => .look hquiet hc) (fun inputs seen hseen => ?_)
    fun e seen hrefused => .refused hrefused))
  rw [List.nil_append]
  refine (ensures_report_bind _ _ _ _).mpr ((ensures_report_bind _ _ _ _).mpr
    ((ensures_bind _ _).mpr (ensures_stage hseen (fun done c hc => .stage hseen hc)
      fun report done hdone => ?_)))
  refine (ensures_bind _ _).mpr (ensures_reportStaged _ ?_)
  refine (ensures_report_bind _ _ _ _).mpr ((ensures_bind _ _).mpr
    (ensures_finalize (hdone.traced hseen) (fun written c hc => ?_)
      fun archive written harchived => ?_))
  · rw [hdone.longDescription] at hc
    rw [List.append_assoc]
    exact .describe hseen hc
  · have hphases := Ended.threePhases (.intro hseen hdone harchived)
    cases archive with
    | error e => exact hphases
    | ok path =>
      cases path with
      | none => exact hphases
      | some path => exact hphases

section

variable {σ : Type} {handler : Handler σ} {state : σ} {r : Resolved}

/-- Every call of a run is one that it may make after the exchanges before it. -/
theorem allowed_of_exchanges {before rest : List Exchange} {x : Exchange}
    (hx : (run r).exchanges handler state = before ++ x :: rest) : Allowed r before x.call :=
  (ensures_run r).asks_of_exchanges (stopsOnFailure_run r) hx

/-- The run of a plan ends with the error of a call that fails, which is its last one, or it ends by
itself. -/
theorem failed_or_ended (r : Resolved) (handler : Handler σ) (state : σ) :
    (∃ before c e, (run r).exchanges handler state = before ++ [⟨c, .error e⟩]
        ∧ ((run r).run handler state).result = .error (.io e))
      ∨ Ended r ((run r).run handler state).result ((run r).exchanges handler state) :=
  (ensures_run r).ends_of_run (stopsOnFailure_run r) handler state

end

end Package
end ToolPack
