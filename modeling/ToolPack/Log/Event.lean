/-!
# Events of a run

What a run tells about itself: a message, how important it is, and which part of the program says
it.  Events are data; whether and how they are shown is decided elsewhere.
-/

set_option autoImplicit false

namespace ToolPack
namespace Log

/-- How important an event is, from the gravest to the least. -/
inductive Level where
  | error | warn | info | debug | trace
  deriving DecidableEq, Repr

/-- The name under which a level is shown. -/
def Level.name : Level → String
  | error => "ERROR"
  | warn => "WARN"
  | info => "INFO"
  | debug => "DEBUG"
  | trace => "TRACE"

/-- The place of a level in the order; graver levels are lower. -/
def Level.rank : Level → Nat
  | error => 1
  | warn => 2
  | info => 3
  | debug => 4
  | trace => 5

/-- The parts of the program that report events. -/
inductive Part where
  | command | engine | pipeline | staging | scripts | archive
  deriving DecidableEq, Repr

/-- The name by which a filter knows a part: the program's name, and for the parts of its core the
path to them. -/
def Part.target : Part → String
  | command => "hgdb_circt_pack"
  | engine => "hgdb_circt_pack::core::engine"
  | pipeline => "hgdb_circt_pack::core::pipeline"
  | staging => "hgdb_circt_pack::core::staging"
  | scripts => "hgdb_circt_pack::core::scripts"
  | archive => "hgdb_circt_pack::core::archive"

/-- An event. -/
structure Event where
  level : Level
  part : Part
  message : String
  deriving DecidableEq, Repr

end Log
end ToolPack
