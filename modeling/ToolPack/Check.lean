import ToolPack.Error
import ToolPack.Text.Blank
import ToolPack.Url.Parse
import ToolPack.Version

/-!
# Checks of configured values

Each check looks at one value of the manifest under the name of its field.  It passes or says why
the value is refused.

## What is here

* `Check.nonBlank`, `Check.path`, `Check.plainName`, `Check.version`, `Check.email`, `Check.url`:
  checks of one text;
* `Check.plainNames`: plain names of which no two are equal; the first offender is reported;
* `Check.distinctDirs`: a directory that is written to must not be the one that is read from.
-/

set_option autoImplicit false

namespace ToolPack

/-- Where paths lead in a tree of files; none for a path that leads nowhere. -/
abbrev Canonical := Path → Option Location

namespace Check

/-- Refuses a value. -/
def refuse (field value : String) (refusal : Refusal) : Except PackError Unit :=
  .error (.invalidValue field value refusal)

/-- Refuses a value unless a condition holds. -/
def require (ok : Bool) (field value : String) (refusal : Refusal) : Except PackError Unit :=
  if ok then .ok () else refuse field value refusal

/-- The text has something other than white space in it. -/
def nonBlank (field value : String) : Except PackError Unit :=
  require (!Text.isAllBlank value) field value .blank

/-- The path has something in it, and no NUL. -/
def path (field value : String) : Except PackError Unit := do
  require (!value.isEmpty) field value .emptyPath
  require (!value.toList.contains '\x00') field value .nulInPath

/-- Whether a name stays in the directory that it is joined to: it has no separator in it and is
neither the directory itself nor the one above. -/
def staysInside (name : String) : Bool :=
  !(name.toList.contains '/') && !(name.toList.contains '\\') && name != "." && name != ".."

/-- The name is the plain name of a file. -/
def plainName (field name : String) : Except PackError Unit := do
  nonBlank field name
  require (staysInside name) field name .notPlainName

/-- The names are plain, and none of them is another one or one of those seen before. -/
def plainNamesAfter (field : String) (seen : List String) : List String → Except PackError Unit
  | [] => .ok ()
  | name :: names => do
    plainName field name
    require (!seen.contains name) field name .duplicateName
    plainNamesAfter field (name :: seen) names

/-- The names are plain, and no two are equal. -/
def plainNames (field : String) (names : List String) : Except PackError Unit :=
  plainNamesAfter field [] names

/-- The text is a release version. -/
def version (field value : String) : Except PackError Unit :=
  require (isVersion value) field value .notAVersion

/-- Whether a text has something in front of its first `@`, and a dot somewhere behind it. -/
def isEmail (value : String) : Bool :=
  match value.toList.takeWhile (· != '@'), value.toList.dropWhile (· != '@') with
  | _ :: _, _ :: domain => domain.contains '.'
  | _, _ => false

/-- The text looks like an address for mail. -/
def email (field value : String) : Except PackError Unit :=
  require (isEmail value) field value .notAnEmail

/-- The schemes that a package may link to. -/
def linkSchemes : List String := ["http", "https"]

/-- The text is an address that a browser opens. -/
def url (field value : String) : Except PackError Unit :=
  if value.isEmpty then refuse field value .emptyUrl
  else match Url.scheme? value with
    | .error fault => refuse field value (.malformedUrl fault.message)
    | .ok scheme => require (linkSchemes.contains scheme) field value (.urlScheme scheme)

/-- Whether two paths name one directory.  Where both lead somewhere, the places decide;
otherwise their components do, but for a dot at the start. -/
def sameDir (canonical : Canonical) (a b : Path) : Bool :=
  match canonical a, canonical b with
  | some x, some y => x == y
  | _, _ => decide (a.bareComponents = b.bareComponents)

/-- The directory that is written to is not the one that is copied from: copying a file onto
itself would empty it. -/
def distinctDirs (canonical : Canonical) (field : String) (dir source : Path) :
    Except PackError Unit :=
  require (!sameDir canonical dir source) field dir.text (.sameAsSource source)

end Check
end ToolPack
