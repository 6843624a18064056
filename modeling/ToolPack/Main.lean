import ToolPack.Log.Filter
import ToolPack.Program

/-!
# The command

The outer layer of the program: it reads arguments, variables and files, hands them to
`Program.prepare`, carries out the calls of the run on the files of the computer, and writes what
the user sees.

In one thing the files of the computer are treated otherwise than those of a `Storage.FileTree`: the
permissions of a file cannot be read here.  So a copy does not have the permissions of its source.
What is copied are programs, and so it is made executable, also where its source is not.  Arguments
come as texts, and so do the directory that the command runs in and the variables.

## What is here

* `Command.carryOut`: an action on the files of the computer;
* `main`: the command.
-/

set_option autoImplicit false

namespace ToolPack
namespace Command

open Storage

/-! ## Files -/

/-- The number of a system's error, if it has one.  Some are given with a minus sign. -/
def errorNumber? (e : IO.Error) : Option Nat :=
  let code := match e with
    | .alreadyExists _ n _ | .resourceExhausted _ n _ | .permissionDenied _ n _
    | .inappropriateType _ n _ | .noSuchThing _ n _ | .invalidArgument _ n _
    | .noFileOrDirectory _ n _ => some n
    | .otherError n _ | .unsatisfiedConstraints n _ | .resourceBusy n _ => some n
    | _ => none
  code.map fun n => n.toInt32.toInt.natAbs

/-- A system's error as an error of a storage call. -/
def ioError (e : IO.Error) : IoError :=
  match (errorNumber? e).bind OsError.ofNumber? with
  | some e => e.toIoError
  | none => ⟨.other, toString e⟩

/-- What an effect gives, or the error that it ends with. -/
def attempt {α : Type} (effect : IO α) : IO (Except IoError α) := do
  try return .ok (← effect) catch e => return .error (ioError e)

/-- What is known of the file at the end of a path. -/
def metadata (path : Path) : IO IO.FS.Metadata := (System.mkFilePath [path.text]).metadata

/-- The size of a regular file; nothing where there is none. -/
def fileSize (path : Path) : IO (Except IoError (Option Nat)) := do
  match ← attempt (metadata path) with
  | .ok found => return .ok (if found.type == .file then some found.byteSize.toNat else none)
  | .error e => return if e.kind = .notFound then .ok none else .error e

/-- Where a path leads, if it leads anywhere. -/
def location? (path : Path) : IO (Option Location) := do
  match ← attempt (IO.FS.realPath path.text) with
  | .ok place => return some (Path.segments ⟨place.toString⟩).reverse
  | .error _ => return none

/-- Writes a file, after the directories above it. -/
def writeFile (path : Path) (data : ByteArray) : IO Unit := do
  match path.parent? with
  | some parent => if !parent.text.isEmpty then IO.FS.createDirAll parent.text
  | none => pure ()
  IO.FS.writeBinFile path.text data

/-- Lets everybody execute a file, and its owner write it. -/
def setExecutable (path : Path) : IO Unit :=
  IO.setAccessRights path.text
    { user := ⟨true, true, true⟩, group := ⟨true, false, true⟩, other := ⟨true, false, true⟩ }

/-- Copies a file, and makes the copy executable.  The target is emptied before the source is
read. -/
def copyFile (source target : Path) : IO (Except IoError Nat) := do
  match ← location? source, ← location? target with
  | some a, some b =>
    if a = b then return .error (FileTree.sameFile source target)
  | _, _ => pure ()
  match ← attempt (metadata source) with
  | .error e => return .error e
  | .ok found =>
    if found.type != .file then return .error FileTree.notRegular
    attempt do
      let reader ← IO.FS.Handle.mk source.text .read
      let writer ← IO.FS.Handle.mk target.text .write
      let data ← reader.readBinToEnd
      writer.write data
      setExecutable target
      return data.size

/-- Carries out a call on the files of the computer. -/
def carryOutCall : (c : Call) → IO (Except IoError c.Reply)
  | .size path => fileSize path
  | .read path => attempt (IO.FS.readBinFile path.text)
  | .write path data => attempt (writeFile path data)
  | .makeDirs path => attempt (if path.text.isEmpty then pure () else IO.FS.createDirAll path.text)
  | .copy source target => copyFile source target
  | .markExecutable path => attempt (setExecutable path)

/-- Carries out an action on the files of the computer, and hands its events to `log`. -/
def carryOut {α : Type} (log : Log.Event → IO Unit) : Action α → IO (Except PackError α)
  | .done value => return .ok value
  | .fail e => return .error e
  | .note event next => do
    log event
    carryOut log next
  | .ask c next => do
    carryOut log (next (← carryOutCall c))

/-! ## What the user sees -/

/-- A log line. -/
def logLine (format : LogFormat) (event : Log.Event) : String :=
  match format with
  | .compact => event.level.name ++ " " ++ event.message
  | .json =>
    (Json.record [("level", .text event.level.name),
      ("fields", .record [("message", .text event.message)])]).compact

/-- Writes a log line if the filter lets the event through. -/
def logEvent (filter : Log.Filter) (format : LogFormat) (event : Log.Event) : IO Unit := do
  if filter.enables event then IO.println (logLine format event)

/-- Writes the log lines and the lines of a console, and gives the exit status. -/
def present (log : Log.Event → IO Unit) (console : Console) : IO UInt32 := do
  console.events.forM log
  console.out.forM IO.println
  console.err.forM IO.eprintln
  return console.exit.toUInt32

/-- What the command can do, for the user who asks. -/
def usage : List String :=
  ["Stage pre-built CIRCT binaries into a Python package layout",
   "",
   "Usage: hgdb-circt-pack [OPTIONS]",
   "",
   "Options:",
   "  -c, --config <CONFIG>          Path to the package manifest [default: package.toml]",
   "  -o, --output-dir <OUTPUT_DIR>  Override the staging output directory",
   "      --dist                     Also build the distribution archive",
   "      --dry-run                  Print the resolved plan as JSON without touching the filesystem",
   "  -v, --verbose                  Enable verbose output",
   "      --log-format <LOG_FORMAT>  [default: compact] [possible values: compact, json]",
   "  -h, --help                     Print help"]

/-- What is wrong with a command line, in words. -/
def usageMessage : UsageError → String
  | .unknownArgument => "error: unexpected argument found"
  | .invalidValue => "error: a value is missing or not possible"
  | .conflict => "error: an argument cannot be used multiple times"
  | .needlessValue => "error: unexpected value for an argument that takes none"
  | .help => ""

/-! ## Surroundings -/

/-- The text of a file. -/
def readText (path : OsPath) : IO (Except IoError String) := do
  match ← attempt (IO.FS.readBinFile path.lossy) with
  | .error e => return .error e
  | .ok data =>
    match String.fromUTF8? data with
    | some text => return .ok text
    | none => return .error Program.notText

/-- The variables that a text asks for. -/
def environment (text : String) : IO Environment := do
  let names := Template.names text.toList
  let values ← names.mapM fun name => do return (name, ← IO.getEnv name)
  return fun name => (values.lookup name).join

/-- What the program finds around it. -/
def surroundings (o : Options) : IO Surroundings := do
  let text ← readText o.config
  let env ← environment (match text with | .ok text => text | .error _ => "")
  let here ← attempt IO.currentDir
  let s : Surroundings :=
    { here := here.map fun dir => .ofPath ⟨dir.toString⟩, env := env, canonical := fun _ => none
      manifestText := text }
  let places ← (Program.comparedDirs o s).mapM fun dir => do return (dir, ← location? ⟨dir.lossy⟩)
  return { s with canonical := fun dir => (places.lookup dir).join }

/-- Does what the options ask for. -/
def follow (o : Options) : IO UInt32 := do
  let filter := Log.Filter.ofSetting (← IO.getEnv "RUST_LOG") o.verbose
  let log := logEvent filter o.logFormat
  match Program.prepare o (← surroundings o) with
  | .ended console => present log console
  | .ready r events =>
    events.forM log
    let result ← carryOut log (Package.run r)
    present log (Program.finish result [])

end Command
end ToolPack

open ToolPack in
/-- The command: its exit status tells how it went. -/
def main (arguments : List String) : IO UInt32 := do
  match Options.ofArguments arguments with
  | .ok o => Command.follow o
  | .error e =>
    match e with
    | .help => Command.usage.forM IO.println
    | _ => IO.eprintln (Command.usageMessage e)
    return e.exitStatus.toUInt32
