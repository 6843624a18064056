import ToolPack.Path

/-!
# What can go wrong

Every failure of the program is one `PackError`: a missing file, a failing storage call, an
archive that cannot be built, or a manifest that cannot be used.  The error holds its cause; its
wording, its category, its severity and the exit status are functions of it.

## What is here

* `IoKind` and `IoError`: a failing storage call, its kind and its text; `OsError` gives both for
  the failures that the operating system reports;
* `Refusal`: why a configured value is refused, with `Refusal.reason` as its wording;
* `PackError` with `message`, `category`, `severity`, `exitCode`, `hint` and `friendly`.
-/

set_option autoImplicit false

namespace ToolPack

/-! ## Storage calls -/

/-- The kinds of input and output errors. -/
inductive IoKind where
  | notFound | permissionDenied | alreadyExists | notADirectory | isADirectory
  | directoryNotEmpty | storageFull | quotaExceeded | fileTooLarge | readOnlyFilesystem
  | invalidFilename | filesystemLoop | invalidInput | invalidData | interrupted | timedOut
  | wouldBlock | writeZero | unexpectedEof | brokenPipe | resourceBusy | outOfMemory
  | unsupported | other
  deriving DecidableEq, Repr, Inhabited

namespace IoKind

/-- Every kind, in the order of its declaration. -/
def all : List IoKind :=
  [notFound, permissionDenied, alreadyExists, notADirectory, isADirectory, directoryNotEmpty,
   storageFull, quotaExceeded, fileTooLarge, readOnlyFilesystem, invalidFilename, filesystemLoop,
   invalidInput, invalidData, interrupted, timedOut, wouldBlock, writeZero, unexpectedEof,
   brokenPipe, resourceBusy, outOfMemory, unsupported, other]

/-- The name under which a kind is reported. -/
def name : IoKind → String
  | notFound => "NotFound"
  | permissionDenied => "PermissionDenied"
  | alreadyExists => "AlreadyExists"
  | notADirectory => "NotADirectory"
  | isADirectory => "IsADirectory"
  | directoryNotEmpty => "DirectoryNotEmpty"
  | storageFull => "StorageFull"
  | quotaExceeded => "QuotaExceeded"
  | fileTooLarge => "FileTooLarge"
  | readOnlyFilesystem => "ReadOnlyFilesystem"
  | invalidFilename => "InvalidFilename"
  | filesystemLoop => "FilesystemLoop"
  | invalidInput => "InvalidInput"
  | invalidData => "InvalidData"
  | interrupted => "Interrupted"
  | timedOut => "TimedOut"
  | wouldBlock => "WouldBlock"
  | writeZero => "WriteZero"
  | unexpectedEof => "UnexpectedEof"
  | brokenPipe => "BrokenPipe"
  | resourceBusy => "ResourceBusy"
  | outOfMemory => "OutOfMemory"
  | unsupported => "Unsupported"
  | other => "Other"

/-- The kind of a name. -/
def ofName? (name : String) : Option IoKind := all.find? fun k => k.name == name

end IoKind

/-- A failed storage call: its kind, and the text that is shown. -/
structure IoError where
  kind : IoKind
  message : String
  deriving DecidableEq, Repr, Inhabited

/-- The failures that the operating system reports. -/
inductive OsError where
  | noEntry | accessDenied | alreadyThere | notDirectory | isDirectory | noSpace | nameTooLong
  | notEmpty | linkLoop
  deriving DecidableEq, Repr

namespace OsError

/-- Every reported failure. -/
def all : List OsError :=
  [noEntry, accessDenied, alreadyThere, notDirectory, isDirectory, noSpace, nameTooLong, notEmpty,
   linkLoop]

/-- The system's number for the failure. -/
def number : OsError → Nat
  | noEntry => 2
  | accessDenied => 13
  | alreadyThere => 17
  | notDirectory => 20
  | isDirectory => 21
  | noSpace => 28
  | nameTooLong => 36
  | notEmpty => 39
  | linkLoop => 40

/-- The failure of a number. -/
def ofNumber? (n : Nat) : Option OsError := all.find? fun e => e.number == n

/-- The kind of the failure. -/
def kind : OsError → IoKind
  | noEntry => .notFound
  | accessDenied => .permissionDenied
  | alreadyThere => .alreadyExists
  | notDirectory => .notADirectory
  | isDirectory => .isADirectory
  | noSpace => .storageFull
  | nameTooLong => .invalidFilename
  | notEmpty => .directoryNotEmpty
  | linkLoop => .filesystemLoop

/-- The system's sentence for the failure. -/
def sentence : OsError → String
  | noEntry => "No such file or directory"
  | accessDenied => "Permission denied"
  | alreadyThere => "File exists"
  | notDirectory => "Not a directory"
  | isDirectory => "Is a directory"
  | noSpace => "No space left on device"
  | nameTooLong => "File name too long"
  | notEmpty => "Directory not empty"
  | linkLoop => "Too many levels of symbolic links"

/-- The failure as an error of a storage call: its sentence, then its number in brackets. -/
def toIoError (e : OsError) : IoError :=
  ⟨e.kind, e.sentence ++ " (os error " ++ toString e.number ++ ")"⟩

/-- Numbers tell the failures apart. -/
theorem ofNumber?_number (e : OsError) : ofNumber? e.number = some e := by
  cases e <;> decide

end OsError

/-! ## Refused values -/

/-- Why a configured value is refused. -/
inductive Refusal where
  /-- An address with nothing in it. -/
  | emptyUrl
  /-- An address of another kind than the two that browsers open. -/
  | urlScheme (scheme : String)
  /-- A text that is no address; the fault is worded by the address reader. -/
  | malformedUrl (fault : String)
  | emptyPath
  | nulInPath
  | blank
  /-- A name that would leave the directory it is joined to. -/
  | notPlainName
  | duplicateName
  /-- An output directory that is the directory copied from. -/
  | sameAsSource (source : Path)
  | notAVersion
  | notAnEmail
  /-- A reason given in words. -/
  | stated (reason : String)
  deriving DecidableEq, Repr

/-- The wording of a refusal. -/
def Refusal.reason : Refusal → String
  | emptyUrl => "URL cannot be empty"
  | urlScheme scheme => "Unsupported URL scheme: " ++ scheme
  | malformedUrl fault => "Invalid URL format: " ++ fault
  | emptyPath => "Path cannot be empty"
  | nulInPath => "Path contains null bytes"
  | blank => "Value cannot be empty or whitespace-only"
  | notPlainName => "Name must be a plain file name without path separators"
  | duplicateName => "Duplicate name"
  | sameAsSource source => "Must differ from the source directory " ++ source.text
  | notAVersion => "Not a valid release version (expected e.g. 0.0.1 or 1.2rc1)"
  | notAnEmail => "Not a valid email address"
  | stated reason => reason

/-- Why an archive cannot be written. -/
inductive ArchiveError where
  /-- Two entries of one name. -/
  | duplicateName (name : String)
  /-- An entry that is not there. -/
  | missingEntry
  /-- A failure below the archive. -/
  | io
  deriving DecidableEq, Repr

/-- The wording of an archive error. -/
def ArchiveError.message : ArchiveError → String
  | duplicateName name => "invalid Zip archive: Duplicate filename: " ++ name
  | missingEntry => "specified file not found in archive"
  | io => "i/o error"

/-! ## Errors of the program -/

/-- A failure of the program, by its cause. -/
inductive PackError where
  /-- A binary that should have been built is not there. -/
  | missingArtifact (path : Path)
  | missingScript (path : Path)
  | io (cause : IoError)
  | archive (cause : ArchiveError)
  | serialization (detail : String)
  /-- The manifest as a whole cannot be used. -/
  | config (field detail : String)
  /-- One value of the manifest is refused. -/
  | invalidValue (field value : String) (refusal : Refusal)
  | missingConfig (field : String)
  deriving DecidableEq, Repr

/-- The areas that errors belong to. -/
inductive Category where
  | artifact | configuration | io | packaging
  deriving DecidableEq, Repr

/-- The name of an area. -/
def Category.name : Category → String
  | artifact => "Artifact"
  | configuration => "Configuration"
  | io => "Io"
  | packaging => "Packaging"

/-- How bad an error is, from the mildest to the worst. -/
inductive Severity where
  | medium | high | critical
  deriving DecidableEq, Repr

namespace Severity

/-- The name of a severity. -/
def name : Severity → String
  | medium => "Medium"
  | high => "High"
  | critical => "Critical"

/-- The place of a severity in the order. -/
def rank : Severity → Nat
  | medium => 0
  | high => 1
  | critical => 2

/-- Severities compare by their place in the order. -/
instance : Ord Severity := ⟨fun a b => compare a.rank b.rank⟩

/-- The exit status for an error of this severity. -/
def exitCode : Severity → Nat
  | medium => 2
  | high => 1
  | critical => 3

end Severity

/-- The severity of an area: what the user can mend is high, the rest critical. -/
def Category.severity : Category → Severity
  | artifact | configuration => .high
  | io | packaging => .critical

namespace PackError

/-- The full text of an error. -/
def message : PackError → String
  | missingArtifact path => "Expected pre-built binary not found: " ++ path.text
  | missingScript path => "Expected script not found: " ++ path.text
  | io cause => "IO error: " ++ cause.message
  | archive cause => "Zip operation failed: " ++ cause.message
  | serialization detail => "Serialization error: " ++ detail
  | config field detail => "Configuration error in '" ++ field ++ "': " ++ detail
  | invalidValue field value refusal =>
    "Invalid value '" ++ value ++ "' for '" ++ field ++ "': " ++ refusal.reason
  | missingConfig field => "Missing required configuration: " ++ field

/-- The area of an error. -/
def category : PackError → Category
  | missingArtifact _ | missingScript _ => .artifact
  | io _ => .io
  | archive _ | serialization _ => .packaging
  | config .. | invalidValue .. | missingConfig _ => .configuration

/-- How bad an error is depends on its area alone. -/
def severity (e : PackError) : Severity := e.category.severity

/-- The exit status of a run that ends with this error. -/
def exitCode (e : PackError) : Nat := e.severity.exitCode

/-- What the user can do about an error. -/
def hint : PackError → String
  | missingArtifact _ => "Run the CMake build first so that build/bin contains every binary"
  | missingScript _ => "Check that the scripts directory contains a file for every script name"
  | io _ => "Check file permissions and free disk space in the output directory"
  | archive _ => "Remove the dist directory and try again"
  | serialization _ => "This is likely a bug; rerun with --verbose and report it"
  | config field _ | invalidValue field _ _ | missingConfig field =>
    "Fix '" ++ field ++ "' in the package manifest"

/-- The error in words for the user. -/
def friendly : PackError → String
  | missingArtifact path => "Build output is incomplete: " ++ path.text ++ " does not exist"
  | missingScript path => "Script " ++ path.text ++ " does not exist"
  | e@(config ..) | e@(invalidValue ..) | e@(missingConfig _) =>
    "Package manifest is invalid: " ++ e.message
  | e => "Packaging failed: " ++ e.message

end PackError
end ToolPack
