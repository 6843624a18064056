import ToolPack.Error
import ToolPack.Native

/-!
# Calls to a storage

A run reaches files through six calls only.  What a call is answered with depends on the storage
behind it; which kind of answer there is depends on the call alone.

## What is here

* `Call`: the calls, with the paths and the bytes they carry;
* `Call.Reply`: what a call is answered with when it succeeds;
* `Call.changes`: whether a call may change something;
* `Call.text`: how a call is written in a record of calls.
-/

set_option autoImplicit false

namespace ToolPack
namespace Storage

open scoped Native

/-- A call to a storage. -/
inductive Call where
  /-- The size of a regular file; nothing where there is none. -/
  | size (path : Path)
  | read (path : Path)
  | write (path : Path) (data : ByteArray)
  /-- Makes a directory and those above it. -/
  | makeDirs (path : Path)
  /-- Copies a file, in the place of what is there. -/
  | copy (source target : Path)
  | markExecutable (path : Path)
  deriving DecidableEq

namespace Call

/-- What a call is answered with. -/
@[reducible] def Reply : Call → Type
  | size _ => Option Nat
  | read _ => ByteArray
  | write _ _ => Unit
  | makeDirs _ => Unit
  | copy _ _ => Nat
  | markExecutable _ => Unit

/-- Whether a call may change something. -/
def changes : Call → Bool
  | size _ | read _ => false
  | write .. | makeDirs _ | copy .. | markExecutable _ => true

/-- The name of a call. -/
def method : Call → String
  | size _ => "file_size"
  | read _ => "read_file"
  | write .. => "write_file"
  | makeDirs _ => "create_dir_all"
  | copy .. => "copy_file"
  | markExecutable _ => "set_executable"

/-- The path that a call is about; of a copy the path that is written. -/
def target : Call → Path
  | size path | read path | write path _ | makeDirs path | copy _ path
  | markExecutable path => path

/-- A call in words: its name and its paths. -/
def text (c : Call) : String :=
  c.method ++ " " ++ match c with
    | copy source target => source.text ++ " -> " ++ target.text
    | _ => c.target.text

end Call
end Storage
end ToolPack
