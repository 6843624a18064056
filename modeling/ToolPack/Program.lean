import ToolPack.CommandLine
import ToolPack.Json.Value
import ToolPack.Manifest.Read
import ToolPack.Package.Run
import ToolPack.Storage.Local

/-!
# The program

From the options to what the user sees: the manifest is read, the options change it, it becomes a
plan, and the plan is shown or carried out.  What the program asks of its surroundings is a value
here, so the program itself is a function.

## What is here

* `Surroundings`: the current directory, the environment, where paths lead, and the manifest;
* `Program.located`: a path of a plan, as the system has it;
* `Plan.json`: a plan as it is shown;
* `Program.prepare`: all that comes before the storage is touched;
* `Program.finish`: all that comes after it;
* `Program.onTree`: the whole program on a tree of files.
-/

set_option autoImplicit false

namespace ToolPack

/-- What the program finds around it. -/
structure Surroundings where
  /-- The directory that it runs in, if that can be told. -/
  here : Except IoError OsPath
  env : Environment
  /-- Where a path leads, if it leads anywhere. -/
  canonical : OsPath → Option Location
  /-- The text of the manifest that the options name. -/
  manifestText : Except IoError String

/-- What the user sees of a run: the exit status, lines on the two outputs, and events. -/
structure Console where
  exit : Nat
  out : List String
  err : List String
  events : List Log.Event

/-- A plan, field by field. -/
def Plan.json (p : Plan) : Json :=
  .record
    [("package", .text p.package),
     ("version", .text p.version),
     ("bin_dir", .text p.binDir.text),
     ("binaries", .texts p.binaries),
     ("output_dir", .text p.outputDir.text),
     ("scripts_source_dir", .text p.scriptsSourceDir.text),
     ("scripts", .texts p.scripts),
     ("scripts_output_dir", .text p.scriptsOutputDir.text),
     ("readme", .text p.readme.text),
     ("dist_dir", match p.distDir with
       | some dir => .text dir.text
       | none => .null)]

/-- The directory of the manifest that the options name. -/
def Options.base (o : Options) : OsPath := o.config.parentOrEmpty

namespace Program

/-- An event of the program's own part. -/
def event (level : Log.Level) (message : String) : Log.Event := ⟨level, .command, message⟩

/-- A run that ends with an error, after the lines and the events so far. -/
def failed (e : PackError) (err : List String) (events : List Log.Event) : Console where
  exit := e.exitCode
  out := []
  err := err ++ ["❌ " ++ e.friendly, "💡 " ++ e.hint]
  events := events ++
    [event .error ("❌ Packaging failed: " ++ e.message ++ " (Category: " ++ e.category.name
      ++ ", Severity: " ++ e.severity.name ++ ")"),
     event .error ("💡 Recovery suggestion: " ++ e.hint)]

/-! ## Where the paths of a plan start

A manifest and its plan are texts.  If the directory of the manifest is a text as well, the paths of
the plan start with it.  If it is not, they are kept as they are seen from there: of two relative
ones the directory is a common start, and an absolute one has no part in it. -/

/-- The directory that the paths of the plan start with. -/
def textBase (base : OsPath) : Path := base.path?.getD ⟨""⟩

/-- A path of a plan, as the system has it. -/
def located (base : OsPath) (path : Path) : OsPath :=
  if base.IsText then .ofPath path else base.append (.ofPath path)

/-- Where the paths of a plan lead. -/
def canonicalFrom (base : OsPath) (s : Surroundings) : Canonical := fun path =>
  s.canonical (located base path)

/-- An error as it is shown.  Directories that are one are shown as the system has them. -/
def shownFrom (base : OsPath) : PackError → PackError
  | .invalidValue field dir (.sameAsSource source) =>
    .invalidValue field (located base ⟨dir⟩).lossy (.sameAsSource ⟨(located base source).lossy⟩)
  | e => e

/-! ## Before the storage -/

/-- The manifest of the options' file, as it is written. -/
def load (o : Options) (s : Surroundings) : Except PackError Manifest :=
  match s.manifestText with
  | .error e => .error (.io e)
  | .ok text => (Manifest.ofText s.env text).map fun m => { m with baseDir := textBase o.base }

/-- The manifest as the options change it. -/
def override (o : Options) (s : Surroundings) (m : Manifest) : Except PackError Manifest := do
  let m ← match o.outputDir with
    | some dir => m.withOutputDir s.here dir
    | none => .ok m
  return if o.dist then m.withDist else m

/-- The plan of a manifest. -/
def resolve (o : Options) (s : Surroundings) (m : Manifest) : Except PackError Resolved :=
  (m.resolve (canonicalFrom o.base s)).mapError (shownFrom o.base)

/-- The directories that are compared before a run; none when there is no plan. -/
def comparedDirs (o : Options) (s : Surroundings) : List OsPath :=
  match load o s >>= override o s with
  | .error _ => []
  | .ok m =>
    [m.plan.outputDir, m.plan.binDir, m.plan.scriptsOutputDir, m.plan.scriptsSourceDir].map
      (located o.base)

/-- The events before the manifest is read. -/
def openingEvents (o : Options) : List Log.Event :=
  [event .info ("Loading manifest from: " ++ o.config.lossy),
   event .debug ("CLI config: " ++ o.describe)]

/-- The events after the options have changed the manifest. -/
def overrideEvents (o : Options) : List Log.Event :=
  match o.outputDir with
  | some dir => [event .info ("🔧 Output directory overridden to: " ++ dir.lossy)]
  | none => []

/-- What comes of the preparations: the end, or a plan to carry out and the events so far. -/
inductive Prepared where
  | ended (console : Console)
  /-- The paths of the plan are `located` from the directory of the manifest. -/
  | ready (resolved : Resolved) (events : List Log.Event)

/-- Whether a plan can be shown: what is shown is a text, so all its paths have to be texts. -/
def Showable (base : OsPath) (p : Plan) : Prop := ∀ path ∈ p.paths, (located base path).IsText

instance (base : OsPath) (p : Plan) : Decidable (Showable base p) :=
  inferInstanceAs (Decidable (∀ path ∈ p.paths, (located base path).IsText))

/-- A plan that is shown and not carried out. -/
def shown (base : OsPath) (p : Plan) (events : List Log.Event) : Console :=
  let events := events ++ [event .info "🔍 DRY RUN MODE - nothing will be copied"]
  if Showable base p then { exit := 0, out := [p.json.pretty], err := [], events := events }
  else
    { exit := 1, out := []
      err := ["Error: failed to serialize staging plan", "", "Caused by:",
        "    path contains invalid UTF-8 characters"]
      events := events }

/-- Reads the manifest and makes the plan. -/
def prepare (o : Options) (s : Surroundings) : Prepared :=
  match load o s with
  | .error e =>
    .ended (failed e ["❌ Failed to load manifest '" ++ o.config.lossy ++ "'"] (openingEvents o))
  | .ok m =>
    match override o s m with
    | .error e => .ended (failed e [] (openingEvents o))
    | .ok m =>
      let events := openingEvents o ++ overrideEvents o
      match resolve o s m with
      | .error e => .ended (failed e [] events)
      | .ok r => if o.dryRun then .ended (shown o.base r.plan events) else .ready r events

/-! ## After the storage -/

/-- What is shown of a run that succeeded. -/
def summary (outcome : Package.Outcome) : List String :=
  ["✅ Staged " ++ toString outcome.report.binaries.length ++ " binaries and "
    ++ toString outcome.report.scripts.length ++ " scripts into " ++ outcome.outputDir.text]
    ++ match outcome.archivePath with
      | some path => ["📦 " ++ path.text]
      | none => []

/-- The console after a run, from its result and all events so far. -/
def finish (result : Except PackError Package.Outcome) (events : List Log.Event) : Console :=
  match result with
  | .error e => failed e [] events
  | .ok outcome =>
    { exit := 0, out := summary outcome, err := []
      events := events ++ [event .info "✅ Packaging completed"] }

/-! ## On a tree of files

The names in a tree are texts, so a path that is no text leads nowhere in it. -/

/-- The error for a file that is no text. -/
def notText : IoError := ⟨.invalidData, "stream did not contain valid UTF-8"⟩

/-- The text of a file. -/
def readText (t : Storage.FileTree) (path : Path) : Except IoError String := do
  match String.fromUTF8? (← t.readFile path) with
  | some text => return text
  | none => throw notText

/-- The path of a location. -/
def locationPath (place : Location) : Path := ⟨"/" ++ "/".intercalate place.reverse⟩

/-- The directory that a program in a tree runs in, which has no path once it has been removed. -/
def currentDir (t : Storage.FileTree) : Except IoError OsPath :=
  if t.isDir t.here then .ok (.ofPath (locationPath t.here)) else .error OsError.noEntry.toIoError

/-- What the program finds around it in a tree. -/
def surroundings (o : Options) (env : Environment) (t : Storage.FileTree) : Surroundings where
  here := currentDir t
  env := env
  canonical := fun p => p.path?.bind t.canonical
  manifestText := match o.config.path? with
    | some path => readText t path
    | none => .error OsError.noEntry.toIoError

/-- The program on a tree of files. -/
def onTree (o : Options) (env : Environment) (t : Storage.FileTree) :
    Console × Storage.FileTree :=
  match prepare o (surroundings o env t) with
  | .ended console => (console, t)
  | .ready r events =>
    let run := (Package.run r).run Storage.FileTree.handler t
    (finish run.result (events ++ run.events), run.state)

end Program
end ToolPack
