import ToolPack.Proofs.Package.Stops
import ToolPack.Proofs.Storage.Ensures

/-!
# The loops of a run

Files are looked for, copied, marked and read back one after the other.  Each of these loops is a
row of like exchanges: what it has exchanged, and what it makes of that, is an inductive relation
with one constructor for a step.

## What is here

* `Plan.inputs`, `Plan.copies`: the files that a plan reads, and the copies that it makes;
* `Found`, `Copied`, `marking`, `Fetched`: the exchanges of the loops;
* `ensures_verifyArtifacts`, `ensures_copyEach`, `ensures_markEach`, `ensures_readEach`: a loop
  keeps to them, whatever the storage answers;
* `Gathered`, `ensures_buildArchive`: the files of an archive are read, and then it is written.
-/

set_option autoImplicit false

namespace ToolPack

open Storage ToolPack.Action

/-! ## What a plan names -/

namespace Plan

/-- The files that a run reads: the binaries, the scripts and the long description. -/
def inputs (plan : Plan) : List Path :=
  plan.binaries.map plan.binDir.join ++ plan.scripts.map plan.scriptsSourceDir.join
    ++ [plan.readme]

/-- Where a binary is copied from and to. -/
def binaryCopy (plan : Plan) (name : String) : Path × Path :=
  (plan.binDir.join name, plan.outputDir.join name)

/-- Where a script is copied from and to. -/
def scriptCopy (plan : Plan) (name : String) : Path × Path :=
  (plan.scriptsSourceDir.join name, plan.scriptsOutputDir.join name)

/-- The copies of a run in order, each with its source and its target. -/
def copies (plan : Plan) : List (Path × Path) :=
  plan.binaries.map plan.binaryCopy ++ plan.scripts.map plan.scriptCopy

theorem binary_mem_inputs {plan : Plan} {name : String} (h : name ∈ plan.binaries) :
    plan.binDir.join name ∈ plan.inputs := by
  simp only [inputs, List.mem_append, List.mem_map]
  exact .inl (.inl ⟨name, h, rfl⟩)

theorem script_mem_inputs {plan : Plan} {name : String} (h : name ∈ plan.scripts) :
    plan.scriptsSourceDir.join name ∈ plan.inputs := by
  simp only [inputs, List.mem_append, List.mem_map]
  exact .inl (.inr ⟨name, h, rfl⟩)

theorem readme_mem_inputs (plan : Plan) : plan.readme ∈ plan.inputs := by
  simp [inputs]

theorem mem_inputs {plan : Plan} {path : Path} :
    path ∈ plan.inputs ↔ (∃ name ∈ plan.binaries, plan.binDir.join name = path)
      ∨ (∃ name ∈ plan.scripts, plan.scriptsSourceDir.join name = path) ∨ path = plan.readme := by
  simp only [inputs, List.mem_append, List.mem_map, List.mem_singleton, or_assoc]

theorem binaryCopy_mem {plan : Plan} {name : String} (h : name ∈ plan.binaries) :
    plan.binaryCopy name ∈ plan.copies :=
  List.mem_append_left _ (List.mem_map_of_mem h)

theorem scriptCopy_mem {plan : Plan} {name : String} (h : name ∈ plan.scripts) :
    plan.scriptCopy name ∈ plan.copies :=
  List.mem_append_right _ (List.mem_map_of_mem h)

/-- What is copied is an input. -/
theorem source_mem_inputs {plan : Plan} {c : Path × Path} (h : c ∈ plan.copies) :
    c.1 ∈ plan.inputs := by
  simp only [copies, List.mem_append, List.mem_map] at h
  rcases h with ⟨name, hname, rfl⟩ | ⟨name, hname, rfl⟩
  · exact binary_mem_inputs hname
  · exact script_mem_inputs hname

end Plan

namespace Package

/-- Exchanges that change nothing. -/
def Quiet (past : List Exchange) : Prop := ∀ x ∈ past, x.call.changes = false

theorem Quiet.append {past more : List Exchange} (h : Quiet past) (h' : Quiet more) :
    Quiet (past ++ more) := by
  intro x hx
  rcases List.mem_append.mp hx with hx | hx
  · exact h x hx
  · exact h' x hx

/-! ## Looking for files -/

/-- The exchanges of looking for files that are all there, and what was found. -/
inductive Found (dir : Path) : List String → List Artifact → List Exchange → Prop
  | nil : Found dir [] [] []
  | cons {names : List String} {found : List Artifact} {past : List Exchange} (name : String)
      (size : Nat) (h : Found dir names found past) :
      Found dir (name :: names) (⟨name, dir.join name, size⟩ :: found)
        (⟨.size (dir.join name), .ok (some size)⟩ :: past)

theorem Found.quiet {dir : Path} {names : List String} {found : List Artifact}
    {past : List Exchange} (h : Found dir names found past) : Quiet past := by
  induction h with
  | nil => exact fun x hx => absurd hx List.not_mem_nil
  | cons name size _ ih => exact List.forall_mem_cons.mpr ⟨rfl, ih⟩

theorem Found.map_name {dir : Path} {names : List String} {found : List Artifact}
    {past : List Exchange} (h : Found dir names found past) : found.map (·.name) = names := by
  induction h with
  | nil => rfl
  | cons name size _ ih => rw [List.map_cons, ih]

theorem Found.source {dir : Path} {names : List String} {found : List Artifact}
    {past : List Exchange} (h : Found dir names found past) :
    ∀ artifact ∈ found, artifact.name ∈ names ∧ artifact.source = dir.join artifact.name := by
  induction h with
  | nil => exact fun artifact ha => absurd ha List.not_mem_nil
  | cons name size _ ih =>
    refine List.forall_mem_cons.mpr ⟨⟨List.mem_cons_self, rfl⟩, fun artifact ha => ?_⟩
    exact ⟨List.mem_cons_of_mem _ (ih artifact ha).1, (ih artifact ha).2⟩

theorem Found.sighted {dir : Path} {names : List String} {found : List Artifact}
    {past : List Exchange} (h : Found dir names found past) :
    ∀ name ∈ names, ∃ size, ⟨.size (dir.join name), .ok (some size)⟩ ∈ past := by
  induction h with
  | nil => exact fun name hname => absurd hname List.not_mem_nil
  | cons name size _ ih =>
    refine List.forall_mem_cons.mpr ⟨⟨size, List.mem_cons_self⟩, fun other hother => ?_⟩
    obtain ⟨n, hn⟩ := ih other hother
    exact ⟨n, List.mem_cons_of_mem _ hn⟩

/-- Files are looked for one after the other, until one is not there. -/
theorem ensures_verifyArtifacts {asks : List Exchange → Call → Prop}
    {ends : List Exchange → Except PackError (List Artifact) → Prop}
    {missing : Path → PackError} {dir : Path} {names : List String} {past : List Exchange}
    (hlook : ∀ front name rest found seen, names = front ++ name :: rest →
      Found dir front found seen → asks (past ++ seen) (.size (dir.join name))
        ∧ ends (past ++ seen ++ [⟨.size (dir.join name), .ok none⟩])
            (.error (missing (dir.join name))))
    (hend : ∀ found seen, Found dir names found seen → ends (past ++ seen) (.ok found)) :
    (verifyArtifacts missing dir names).Ensures asks ends past := by
  induction names generalizing past ends with
  | nil =>
    have h := hend [] [] .nil
    rwa [List.append_nil] at h
  | cons name names ih =>
    have hfirst := hlook [] name names [] [] rfl .nil
    rw [List.append_nil] at hfirst
    refine ⟨hfirst.1, fun reply => ?_⟩
    cases reply with
    | none => exact hfirst.2
    | some size =>
      show (verifyArtifacts missing dir names >>= fun found =>
        pure (⟨name, dir.join name, size⟩ :: found)).Ensures asks ends _
      refine (ensures_bind _ _).mpr (ih (fun front next rest found seen hnames hfound => ?_)
        fun found seen hfound => ?_)
      · rw [← List.append_cons]
        exact hlook (name :: front) next rest _ _ (by rw [hnames, List.cons_append])
          (hfound.cons name size)
      · rw [← List.append_cons]
        exact hend _ _ (hfound.cons name size)

/-! ## Copying -/

/-- The exchanges of copying files to a directory, and what was copied. -/
inductive Copied (dest : Path) : List Artifact → List StagedFile → List Exchange → Prop
  | nil : Copied dest [] [] []
  | cons {artifacts : List Artifact} {files : List StagedFile} {past : List Exchange}
      (artifact : Artifact) (size : Nat) (h : Copied dest artifacts files past) :
      Copied dest (artifact :: artifacts) (⟨artifact.name, dest.join artifact.name, size⟩ :: files)
        (⟨.copy artifact.source (dest.join artifact.name), .ok size⟩ :: past)

theorem Copied.map_name {dest : Path} {artifacts : List Artifact} {files : List StagedFile}
    {past : List Exchange} (h : Copied dest artifacts files past) :
    files.map (·.name) = artifacts.map (·.name) := by
  induction h with
  | nil => rfl
  | cons artifact size _ ih => rw [List.map_cons, List.map_cons, ih]

/-- Every copied file goes back to the exchange that copied it. -/
theorem Copied.origin {dest : Path} {artifacts : List Artifact} {files : List StagedFile}
    {past : List Exchange} (h : Copied dest artifacts files past) :
    ∀ file ∈ files, ∃ artifact ∈ artifacts, artifact.name = file.name
      ∧ file.destination = dest.join file.name
      ∧ ⟨.copy artifact.source file.destination, .ok file.size⟩ ∈ past := by
  induction h with
  | nil => exact fun file hfile => absurd hfile List.not_mem_nil
  | cons artifact size _ ih =>
    refine List.forall_mem_cons.mpr
      ⟨⟨artifact, List.mem_cons_self, rfl, rfl, List.mem_cons_self⟩, fun file hfile => ?_⟩
    obtain ⟨a, ha, hname, hdest, hx⟩ := ih file hfile
    exact ⟨a, List.mem_cons_of_mem _ ha, hname, hdest, List.mem_cons_of_mem _ hx⟩

theorem ensures_copyEach {asks : List Exchange → Call → Prop}
    {ends : List Exchange → Except PackError (List StagedFile) → Prop} {dest : Path}
    {artifacts : List Artifact} {past : List Exchange}
    (hcopy : ∀ front artifact rest files done, artifacts = front ++ artifact :: rest →
      Copied dest front files done →
        asks (past ++ done) (.copy artifact.source (dest.join artifact.name)))
    (hend : ∀ files done, Copied dest artifacts files done → ends (past ++ done) (.ok files)) :
    (copyEach dest artifacts).Ensures asks ends past := by
  induction artifacts generalizing past ends with
  | nil =>
    have h := hend [] [] .nil
    rwa [List.append_nil] at h
  | cons artifact artifacts ih =>
    have hfirst := hcopy [] artifact artifacts [] [] rfl .nil
    rw [List.append_nil] at hfirst
    refine ⟨hfirst, fun size => ?_⟩
    show (copyEach dest artifacts >>= fun files =>
      pure (⟨artifact.name, dest.join artifact.name, size⟩ :: files)).Ensures asks ends _
    refine (ensures_bind _ _).mpr (ih (fun front next rest files done hnames hcopied => ?_)
      fun files done hcopied => ?_)
    · rw [← List.append_cons]
      exact hcopy (artifact :: front) next rest _ _ (by rw [hnames, List.cons_append])
        (hcopied.cons artifact size)
    · rw [← List.append_cons]
      exact hend _ _ (hcopied.cons artifact size)

/-- The exchanges of making files executable. -/
def marking (files : List StagedFile) : List Exchange :=
  files.map fun file => ⟨.markExecutable file.destination, .ok ()⟩

theorem ensures_markEach {asks : List Exchange → Call → Prop}
    {ends : List Exchange → Except PackError Unit → Prop} {files : List StagedFile}
    {past : List Exchange}
    (hmark : ∀ front file rest, files = front ++ file :: rest →
      asks (past ++ marking front) (.markExecutable file.destination))
    (hend : ends (past ++ marking files) (.ok ())) :
    (markEach files).Ensures asks ends past := by
  induction files generalizing past with
  | nil => rwa [marking, List.map_nil, List.append_nil] at hend
  | cons file files ih =>
    have hfirst := hmark [] file files rfl
    rw [marking, List.map_nil, List.append_nil] at hfirst
    refine ⟨hfirst, fun _ => ih (fun front next rest hfiles => ?_) ?_⟩
    · rw [← List.append_cons]
      exact hmark (file :: front) next rest (by rw [hfiles, List.cons_append])
    · rw [← List.append_cons]
      exact hend

/-! ## Reading copies -/

/-- The exchanges of reading files, and their bytes under the names that they have in the
archive. -/
inductive Fetched (entryName : String → String) :
    List StagedFile → List (String × ByteArray) → List Exchange → Prop
  | nil : Fetched entryName [] [] []
  | cons {files : List StagedFile} {data : List (String × ByteArray)} {past : List Exchange}
      (file : StagedFile) (bytes : ByteArray) (h : Fetched entryName files data past) :
      Fetched entryName (file :: files) ((entryName file.name, bytes) :: data)
        (⟨.read file.destination, .ok bytes⟩ :: past)

theorem Fetched.map_name {entryName : String → String} {files : List StagedFile}
    {data : List (String × ByteArray)} {past : List Exchange}
    (h : Fetched entryName files data past) :
    data.map (·.1) = files.map fun file => entryName file.name := by
  induction h with
  | nil => rfl
  | cons file bytes _ ih => rw [List.map_cons, List.map_cons, ih]

theorem Fetched.map_call {entryName : String → String} {files : List StagedFile}
    {data : List (String × ByteArray)} {past : List Exchange}
    (h : Fetched entryName files data past) :
    past.map (·.call) = files.map fun file => .read file.destination := by
  induction h with
  | nil => rfl
  | cons file bytes _ ih => rw [List.map_cons, List.map_cons, ih]

theorem Fetched.quiet {entryName : String → String} {files : List StagedFile}
    {data : List (String × ByteArray)} {past : List Exchange}
    (h : Fetched entryName files data past) : Quiet past := by
  induction h with
  | nil => exact fun x hx => absurd hx List.not_mem_nil
  | cons file bytes _ ih => exact List.forall_mem_cons.mpr ⟨rfl, ih⟩

theorem ensures_readEach {asks : List Exchange → Call → Prop}
    {ends : List Exchange → Except PackError (List (String × ByteArray)) → Prop}
    {entryName : String → String} {files : List StagedFile} {past : List Exchange}
    (hread : ∀ front file rest data done, files = front ++ file :: rest →
      Fetched entryName front data done → asks (past ++ done) (.read file.destination))
    (hend : ∀ data done, Fetched entryName files data done → ends (past ++ done) (.ok data)) :
    (readEach entryName files).Ensures asks ends past := by
  induction files generalizing past ends with
  | nil =>
    have h := hend [] [] .nil
    rwa [List.append_nil] at h
  | cons file files ih =>
    have hfirst := hread [] file files [] [] rfl .nil
    rw [List.append_nil] at hfirst
    refine ⟨hfirst, fun bytes => ?_⟩
    show (readEach entryName files >>= fun data =>
      pure ((entryName file.name, bytes) :: data)).Ensures asks ends _
    refine (ensures_bind _ _).mpr (ih (fun front next rest data done hfiles hfetched => ?_)
      fun data done hfetched => ?_)
    · rw [← List.append_cons]
      exact hread (file :: front) next rest _ _ (by rw [hfiles, List.cons_append])
        (hfetched.cons file bytes)
    · rw [← List.append_cons]
      exact hend _ _ (hfetched.cons file bytes)

/-! ## Building an archive -/

/-- The exchanges of reading the files of an archive, and their bytes under their names in it. -/
inductive Gathered (m : ToolPack.Metadata) (binaries scripts : List StagedFile) :
    List (String × ByteArray) → List Exchange → Prop
  | intro {data data' : List (String × ByteArray)} {done done' : List Exchange}
      (hbinaries : Fetched id binaries data done)
      (hscripts : Fetched (scriptEntryName m) scripts data' done') :
      Gathered m binaries scripts (data ++ data') (done ++ done')

theorem Gathered.map_name {m : ToolPack.Metadata} {binaries scripts : List StagedFile}
    {files : List (String × ByteArray)} {past : List Exchange}
    (h : Gathered m binaries scripts files past) :
    files.map (·.1)
      = binaries.map (·.name) ++ scripts.map fun file => scriptEntryName m file.name := by
  obtain ⟨hbinaries, hscripts⟩ := h
  rw [List.map_append, hbinaries.map_name, hscripts.map_name]
  rfl

theorem Gathered.map_call {m : ToolPack.Metadata} {binaries scripts : List StagedFile}
    {files : List (String × ByteArray)} {past : List Exchange}
    (h : Gathered m binaries scripts files past) :
    past.map (·.call) = (binaries ++ scripts).map fun file => .read file.destination := by
  obtain ⟨hbinaries, hscripts⟩ := h
  rw [List.map_append, hbinaries.map_call, hscripts.map_call, List.map_append]

theorem Gathered.quiet {m : ToolPack.Metadata} {binaries scripts : List StagedFile}
    {files : List (String × ByteArray)} {past : List Exchange}
    (h : Gathered m binaries scripts files past) : Quiet past := by
  obtain ⟨hbinaries, hscripts⟩ := h
  exact hbinaries.quiet.append hscripts.quiet

/-- All files are read, and then the archive is written at once, or it cannot be built. -/
theorem ensures_buildArchive {asks : List Exchange → Call → Prop}
    {ends : List Exchange → Except PackError Path → Prop} {dir : Path} {m : ToolPack.Metadata}
    {binaries scripts : List StagedFile} {pkgInfo : String} {past : List Exchange}
    (hread : ∀ done, Quiet done → ∀ file ∈ binaries ++ scripts,
      asks (past ++ done) (.read file.destination))
    (hwrite : ∀ files done bytes, Gathered m binaries scripts files done →
      Zip.build (archiveEntries files pkgInfo) = .ok bytes →
        asks (past ++ done) (.write (dir.join (archiveName m)) bytes)
          ∧ ends (past ++ (done ++ [⟨.write (dir.join (archiveName m)) bytes, .ok ()⟩]))
            (.ok (dir.join (archiveName m))))
    (hblocked : ∀ files done e, Gathered m binaries scripts files done →
      Zip.build (archiveEntries files pkgInfo) = .error e →
        ends (past ++ done) (.error (.archive e))) :
    (buildArchive dir m binaries scripts pkgInfo).Ensures asks ends past := by
  refine (ensures_bind _ _).mpr (ensures_readEach
    (fun front file rest data done hsplit hfetched => ?_) fun data done hbinaries => ?_)
  · exact hread _ hfetched.quiet file (by simp [hsplit])
  refine (ensures_bind _ _).mpr (ensures_readEach
    (fun front file rest data' done' hsplit hfetched => ?_) fun data' done' hscripts => ?_)
  · rw [List.append_assoc]
    exact hread _ (hbinaries.quiet.append hfetched.quiet) file (by simp [hsplit])
  rw [List.append_assoc]
  have hgathered : Gathered m binaries scripts _ _ := .intro hbinaries hscripts
  dsimp only
  cases hbuild : Zip.build (archiveEntries (data ++ data') pkgInfo) with
  | error e => exact hblocked _ _ e hgathered hbuild
  | ok bytes =>
    obtain ⟨hasks, hends⟩ := hwrite _ _ bytes hgathered hbuild
    refine ⟨hasks, fun _ => ?_⟩
    rw [List.append_assoc]
    exact hends

end Package
end ToolPack
