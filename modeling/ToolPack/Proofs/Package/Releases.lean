import ToolPack.Proofs.Package.RecordLines
import ToolPack.Proofs.Version

/-!
# Which release an archive is of

The name of an archive joins the name of its package and the version with a dash.  The name of a
package may have dashes in it, and may end like a version, so only the version can tell where the
one ends and the other starts: a release version has no dash, and so the last dash of the name is
the one that was put between them.

## What is here

* `beforeLast?_archiveName`: the name of a package is read back from the name of its archive;
* `archiveName_eq_iff`: archives of one name are of one release.
-/

set_option autoImplicit false

namespace ToolPack
namespace Package

/-- The name of a package is what stands in front of the last dash. -/
theorem beforeLast?_archiveName {m : ToolPack.Metadata} {field : String}
    (h : Check.version field m.version = .ok ()) :
    Text.beforeLast? '-' (archiveName m) = some m.name := by
  have hversion : '-' ∉ m.version.toList :=
    not_mem_of_isVersion (Check.version_eq_ok_iff.mp h) (by decide) (by decide)
  have hback : '-' ∉ (m.version ++ ".zip").toList := by
    rw [String.toList_append, List.mem_append, not_or]
    exact ⟨hversion, by decide⟩
  rw [archiveName, String.append_assoc]
  exact Text.beforeLast?_append rfl hback m.name

/-- **Archives share a name only if they are of one release: of packages whose versions pass the
check, those with archives of one name have the name and the version in common.** -/
theorem archiveName_eq_iff {m m' : ToolPack.Metadata} {field field' : String}
    (h : Check.version field m.version = .ok ())
    (h' : Check.version field' m'.version = .ok ()) :
    archiveName m = archiveName m' ↔ m.name = m'.name ∧ m.version = m'.version := by
  constructor
  · intro heq
    have hname : m.name = m'.name := by
      have hread := beforeLast?_archiveName h
      rw [heq, beforeLast?_archiveName h'] at hread
      exact (Option.some.inj hread).symm
    have hversion : m.version = m'.version := by
      rw [archiveName, archiveName, hname] at heq
      exact (String.append_right_inj _).mp ((String.append_left_inj _).mp heq)
    exact ⟨hname, hversion⟩
  · rintro ⟨hname, hversion⟩
    rw [archiveName, archiveName, hname, hversion]

/-- A package whose name ends like a version has an archive of its own. -/
theorem archiveName_ne_of_dashed_name :
    let m : ToolPack.Metadata := { kitMetadata with name := "kit-1.0", version := "2" }
    let m' : ToolPack.Metadata := { kitMetadata with name := "kit", version := "1.0.2" }
    Check.version "package.version" m.version = .ok ()
      ∧ Check.version "package.version" m'.version = .ok () ∧ archiveName m ≠ archiveName m' := by
  intro m m'
  have h : Check.version "package.version" m.version = .ok () := by decide +kernel
  have h' : Check.version "package.version" m'.version = .ok () := by decide +kernel
  exact ⟨h, h', fun heq => absurd ((archiveName_eq_iff h h').mp heq).1 (by decide)⟩

/-- What is no release version may have a dash in it, and then the names may meet. -/
example :
    archiveName { kitMetadata with name := "kit", version := "1-2" }
      = archiveName { kitMetadata with name := "kit-1", version := "2" } := by decide +kernel

end Package
end ToolPack
