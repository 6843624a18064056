import ToolPack.Error
import ToolPack.Manifest.Basic
import ToolPack.Manifest.Template
import ToolPack.Toml.Document
import ToolPack.Toml.Layout

/-!
# Reading a manifest

The text of a manifest has its variables replaced first and is a TOML document then.  Every
section is a record with a layout; what is not said has the default of its field.

## What is here

* the layouts of the sections;
* `Manifest.ofText`: the manifest of a text.
-/

set_option autoImplicit false

namespace ToolPack

open Toml

/-- A field that holds a text. -/
def textField {α : Type} (key : String) (need : Need) (set : String → α → α) : Toml.Field α :=
  ⟨key, need, fun v record => do return set (← v.asText) record⟩

/-- A field that holds a list of texts. -/
def textsField {α : Type} (key : String) (need : Need) (set : List String → α → α) : Toml.Field α :=
  ⟨key, need, fun v record => do return set (← v.asTexts) record⟩

/-- The extras of a value: a table of lists.  A date is a table with its text in it, and so no
table of lists. -/
def Extras.ofValue (v : Value) : Except Misfit Extras :=
  match v with
  | .table _ entries => do
    let lists ← (Entries.sorted entries).mapM fun e => do return (e.1, ← e.2.asTexts)
    return Extras.ofList lists
  | .date text => .error ((Value.text text).misfit "a sequence")
  | v => .error (v.misfit "a map")

/-- The layout of the description of a package. -/
def Metadata.layout : Layout Metadata where
  title := "struct PackageMetadata"
  defaults :=
    { name := "", version := "", author := "", authorEmail := "", url := "", description := ""
      readme := defaultReadme, contentType := defaultContentType, pythonRequires := ""
      extras := .empty }
  fields :=
    [textField "name" .required fun s m => { m with name := s },
     textField "version" .required fun s m => { m with version := s },
     textField "author" .required fun s m => { m with author := s },
     textField "author_email" .required fun s m => { m with authorEmail := s },
     textField "url" .required fun s m => { m with url := s },
     textField "description" .required fun s m => { m with description := s },
     textField "readme" .defaulted fun s m => { m with readme := s },
     textField "long_description_content_type" .defaulted fun s m => { m with contentType := s },
     textField "python_requires" .required fun s m => { m with pythonRequires := s },
     ⟨"extras", .defaulted, fun v m => do return { m with extras := ← Extras.ofValue v }⟩]

/-- The layout of the section on binaries. -/
def BuildSection.layout : Layout BuildSection where
  title := "struct BuildConfig"
  defaults := {}
  fields :=
    [textField "root_dir" .defaulted fun s b => { b with rootDir := s },
     textField "bin_dir" .defaulted fun s b => { b with binDir := s },
     textsField "binaries" .defaulted fun names b => { b with binaries := names },
     textField "output_dir" .defaulted fun s b => { b with outputDir := s }]

/-- The layout of the section on scripts. -/
def ScriptSection.layout : Layout ScriptSection where
  title := "struct ScriptConfig"
  defaults := {}
  fields :=
    [textField "dir" .optional fun s p => { p with dir := some s },
     textsField "names" .optional fun names p => { p with names := some names },
     textField "output_dir" .optional fun s p => { p with outputDir := some s }]

/-- The layout of the section on the archive. -/
def DistSection.layout : Layout DistSection where
  title := "struct DistConfig"
  defaults := {}
  fields :=
    [⟨"enabled", .defaulted, fun v d => do return { d with enabled := ← v.asBoolean }⟩,
     textField "output_dir" .defaulted fun s d => { d with outputDir := s }]

namespace Manifest

/-- The layout of a manifest. -/
def layout : Layout Manifest where
  title := "struct PackageManifest"
  defaults :=
    { package := Metadata.layout.defaults, build := {}, scripts := {}, dist := none
      baseDir := ⟨""⟩ }
  fields :=
    [⟨"package", .required, fun v m => do
        return { m with package := ← Metadata.layout.read v }⟩,
     ⟨"build", .defaulted, fun v m => do
        return { m with build := ← BuildSection.layout.read v }⟩,
     ⟨"scripts", .defaulted, fun v m => do
        return { m with scripts := ← ScriptSection.layout.read v }⟩,
     ⟨"dist", .optional, fun v m => do
        return { m with dist := some (← DistSection.layout.read v) }⟩]

/-- The error for a text that is no manifest. -/
def unreadable (detail : String) : PackError :=
  .config "toml_parsing" ("TOML parsing error: " ++ detail)

/-- The detail where the document itself is at fault. -/
def badDocument : String := "syntax"

/-- The manifest of a text that has its variables replaced. -/
def ofDocument (text : String) : Except PackError Manifest :=
  match Toml.document? text with
  | none => .error (unreadable badDocument)
  | some entries =>
    match layout.readTable entries with
    | .ok m => .ok m
    | .error misfit => .error (unreadable (misfit.message?.getD badDocument))

/-- The manifest of a text.  Its relative paths start from the current directory. -/
def ofText (env : Environment) (text : String) : Except PackError Manifest :=
  ofDocument (Template.expandText env text)

end Manifest
end ToolPack
