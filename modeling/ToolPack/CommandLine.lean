import ToolPack.OsPath

/-!
# The command line

Arguments are settings, which take a value, and switches, which do not.  A long one starts with two
dashes; the value of a setting follows it behind `=` or as the next argument.  Short ones are one
letter behind one dash; several switches may share a dash, and what is behind the letter of a
setting is its value.  Each of them may be given once, and there is nothing else to give.

A value that comes as the next argument is looked at only when a further argument is taken in, or
at the end, so that an argument that nobody knows is reported first.

Arguments are texts here.  The paths among the options need not be: a program that is started with
other bytes for a path has them as they are.

## What is here

* `Options`: what the command line asks for;
* `UsageError`: why it cannot be understood, and the exit status that it has;
* `Options.ofArguments`: the options of the arguments;
* `Options.describe`: the options in words, for the log.
-/

set_option autoImplicit false

namespace ToolPack

/-- How log lines are written. -/
inductive LogFormat where
  | compact | json
  deriving DecidableEq, Repr

/-- What the command line asks for. -/
structure Options where
  config : OsPath := .ofPath ⟨"package.toml"⟩
  outputDir : Option OsPath := none
  dist : Bool := false
  dryRun : Bool := false
  verbose : Bool := false
  logFormat : LogFormat := .compact
  deriving DecidableEq, Repr

/-- Why a command line cannot be followed. -/
inductive UsageError where
  /-- An argument that nobody knows. -/
  | unknownArgument
  /-- A value that is lacking, empty or none of those that are possible. -/
  | invalidValue
  /-- An argument that is given twice. -/
  | conflict
  /-- A value for a switch. -/
  | needlessValue
  /-- The user asks for help. -/
  | help
  deriving DecidableEq, Repr

/-- The exit status of a program that is not understood.  To be asked for help is no failure. -/
def UsageError.exitStatus : UsageError → Nat
  | .help => 0
  | _ => 2

namespace CommandLine

/-- Arguments that take a value. -/
inductive Setting where
  | config | outputDir | logFormat
  deriving DecidableEq, Repr

/-- Arguments that take none. -/
inductive Switch where
  | dist | dryRun | verbose | help
  deriving DecidableEq, Repr

/-- Arguments by name. -/
inductive Known where
  | setting (s : Setting)
  | switch (s : Switch)

/-- The argument of a long name. -/
def long? : String → Option Known
  | "config" => some (.setting .config)
  | "output-dir" => some (.setting .outputDir)
  | "log-format" => some (.setting .logFormat)
  | "dist" => some (.switch .dist)
  | "dry-run" => some (.switch .dryRun)
  | "verbose" => some (.switch .verbose)
  | "help" => some (.switch .help)
  | _ => none

/-- The argument of a letter. -/
def short? : Char → Option Known
  | 'c' => some (.setting .config)
  | 'o' => some (.setting .outputDir)
  | 'v' => some (.switch .verbose)
  | 'h' => some (.switch .help)
  | _ => none

/-- The log format of a name. -/
def logFormat? : String → Option LogFormat
  | "compact" => some .compact
  | "json" => some .json
  | _ => none

/-- What has been read: the values and the switches, and a setting that waits to be looked at, with
its value if that has come already. -/
structure Reading where
  values : List (Setting × String)
  switches : List Switch
  waiting : Option (Setting × Option String)

namespace Reading

/-- Takes in a setting with its value. -/
def take (r : Reading) (s : Setting) (value : String) : Except UsageError Reading :=
  if (r.values.lookup s).isSome then .error .conflict
  else if value.isEmpty then .error .invalidValue
  else if s = .logFormat ∧ (logFormat? value).isNone then .error .invalidValue
  else .ok { r with values := r.values ++ [(s, value)] }

/-- Looks at the setting that waits. -/
def settle (r : Reading) : Except UsageError Reading :=
  match r.waiting with
  | none => .ok r
  | some (_, none) => .error .invalidValue
  | some (s, some value) => take { r with waiting := none } s value

/-- A setting; without a value it waits for the next argument. -/
def setting (r : Reading) (s : Setting) (value : Option String) : Except UsageError Reading := do
  let r ← r.settle
  match value with
  | some value => r.take s value
  | none => return { r with waiting := some (s, none) }

/-- A switch. -/
def switch (r : Reading) (s : Switch) : Except UsageError Reading := do
  let r ← r.settle
  if r.switches.contains s then throw .conflict
  if s = .help then throw .help
  return { r with switches := s :: r.switches }

/-- An argument that starts with two dashes: a name, and a value behind `=`. -/
def long (r : Reading) (cs : List Char) : Except UsageError Reading :=
  let name := String.ofList (cs.takeWhile (· != '='))
  let value := (cs.dropWhile (· != '=')).tail?.map String.ofList
  match long? name with
  | none => .error .unknownArgument
  | some (.setting s) => r.setting s value
  | some (.switch s) => if value.isSome then .error .needlessValue else r.switch s

/-- Letters behind one dash.  A setting takes all that is behind its letter, without a `=`. -/
def short (r : Reading) : List Char → Except UsageError Reading
  | [] => .ok r
  | c :: cs =>
    match short? c with
    | none => .error .unknownArgument
    | some (.setting s) =>
      r.setting s (match cs with
        | [] => none
        | '=' :: cs => some (String.ofList cs)
        | cs => some (String.ofList cs))
    | some (.switch s) => do
      let r ← r.switch s
      r.short cs

/-- An argument that starts with no dash: the value that a setting waits for. -/
def plain (r : Reading) (value : String) : Except UsageError Reading :=
  match r.waiting with
  | some (s, none) => .ok { r with waiting := some (s, some value) }
  | _ => .error .unknownArgument

/-- Reads arguments.  Two dashes alone end them, and nothing may follow. -/
def all (r : Reading) : List String → Except UsageError Reading
  | [] => r.settle
  | argument :: arguments =>
    match argument.toList with
    | ['-', '-'] => if arguments.isEmpty then r.settle else .error .unknownArgument
    | '-' :: '-' :: cs => do (← r.long cs).all arguments
    | '-' :: c :: cs => do (← r.short (c :: cs)).all arguments
    | _ => do (← r.plain argument).all arguments

/-- The options of what has been read. -/
def options (r : Reading) : Options :=
  let value := fun s => r.values.lookup s
  { config := ((value .config).map fun text => .ofPath ⟨text⟩).getD ({} : Options).config
    outputDir := (value .outputDir).map fun text => .ofPath ⟨text⟩
    dist := r.switches.contains .dist
    dryRun := r.switches.contains .dryRun
    verbose := r.switches.contains .verbose
    logFormat := ((value .logFormat).bind logFormat?).getD ({} : Options).logFormat }

end Reading
end CommandLine

namespace Options

/-- The options of the arguments behind the program's name. -/
def ofArguments (arguments : List String) : Except UsageError Options :=
  (CommandLine.Reading.all ⟨[], [], none⟩ arguments).map (·.options)

/-- A truth value in words. -/
def truth (b : Bool) : String := if b then "true" else "false"

/-- The options in words, field by field. -/
def describe (o : Options) : String :=
  "CliConfig \x7b config: " ++ o.config.quoted
    ++ ", output_dir: " ++ (match o.outputDir with
      | some dir => "Some(" ++ dir.quoted ++ ")"
      | none => "None")
    ++ ", dist: " ++ truth o.dist ++ ", dry_run: " ++ truth o.dryRun
    ++ ", verbose: " ++ truth o.verbose
    ++ ", log_format: " ++ (match o.logFormat with
      | .compact => "Compact"
      | .json => "Json")
    ++ " \x7d"

end Options
end ToolPack
