import ToolPack.Error
import ToolPack.Native
import ToolPack.Zip.Crc32
import ToolPack.Zip.Deflate

/-!
# Archives

An archive holds entries: each one's packed data behind a header, then a directory of all headers,
then a closing record that says where the directory is.

The length of a name has two bytes and a size has four.  What does not fit is left out here: a name
of more than 65535 bytes and an entry of more than 4 GiB, which a program that writes archives
refuses with an error, and the longer closing record that it writes for more entries or bytes than
the one here can count.  So `build` fails for a name that comes twice and for nothing else, and what
is said of a run that archives is said of archives within these limits.

## What is here

* `Entry`: a name, permissions and data;
* `encode`: the bytes of an archive;
* `build`: the bytes of an archive whose entries have different names; the first name that comes a
  second time is reported.
-/

set_option autoImplicit false

namespace ToolPack
namespace Zip

open scoped Native

/-- An entry of an archive. -/
structure Entry where
  name : String
  /-- The permissions of the file. -/
  mode : Nat
  data : ByteArray
  deriving DecidableEq

/-- A number in four bytes, the least significant first. -/
def bytes32 (n : Nat) : List UInt8 := bytes16 (n % 65536) ++ bytes16 (n / 65536)

/-- An entry that has its place: its packed data, and where its header is. -/
structure Member where
  entry : Entry
  packed : List UInt8
  offset : Nat

namespace Member

/-- The bytes of the name. -/
def nameBytes (m : Member) : List UInt8 := m.entry.name.toUTF8.data.toList

/-- The mark of names that are more than ASCII. -/
def flags (m : Member) : Nat := if m.nameBytes.all (· < 128) then 0 else 2048

/-- What the header and the directory say alike: the version needed, the flags, the method, a
date, the checksum, the sizes and the length of the name. -/
def common (m : Member) : List UInt8 :=
  bytes16 20 ++ bytes16 m.flags ++ bytes16 8 ++ bytes16 0 ++ bytes16 33
    ++ bytes32 (crc32 m.entry.data).toNat ++ bytes32 m.packed.length
    ++ bytes32 m.entry.data.size ++ bytes16 m.nameBytes.length

/-- The mark of a header. -/
def headerMark : List UInt8 := bytes32 0x04034b50

/-- The header and the packed data. -/
def body (m : Member) : List UInt8 :=
  headerMark ++ m.common ++ bytes16 0 ++ m.nameBytes ++ m.packed

/-- The mark of a line of the directory. -/
def lineMark : List UInt8 := bytes32 0x02014b50

/-- The bits that say that an entry is a regular file. -/
def regularFile : Nat := 0o100000

/-- The line of the directory. -/
def line (m : Member) : List UInt8 :=
  lineMark ++ bytes16 0x0314 ++ m.common ++ bytes16 0 ++ bytes16 0 ++ bytes16 0 ++ bytes16 0
    ++ bytes32 ((regularFile + m.entry.mode) * 65536) ++ bytes32 m.offset ++ m.nameBytes

end Member

/-- Entries one behind the other, the first one at `offset`. -/
def place (offset : Nat) : List Entry → List Member
  | [] => []
  | entry :: entries =>
    let m : Member := ⟨entry, pack entry.data, offset⟩
    m :: place (offset + m.body.length) entries

/-- The mark of the closing record. -/
def closingMark : List UInt8 := bytes32 0x06054b50

/-- The closing record: the number of entries, and the length and the place of the directory. -/
def closing (count length offset : Nat) : List UInt8 :=
  closingMark ++ bytes16 0 ++ bytes16 0 ++ bytes16 count ++ bytes16 count ++ bytes32 length
    ++ bytes32 offset ++ bytes16 0

/-- The bytes of an archive. -/
def encode (entries : List Entry) : ByteArray :=
  let members := place 0 entries
  let bodies := members.flatMap Member.body
  let lines := members.flatMap Member.line
  ⟨(bodies ++ lines ++ closing members.length lines.length bodies.length).toArray⟩

/-- The first name that is one of those before it. -/
def repeated? : List String → List String → Option String
  | _, [] => none
  | before, name :: names =>
    if before.contains name then some name else repeated? (name :: before) names

/-- The bytes of an archive whose entries have different names. -/
def build (entries : List Entry) : Except ArchiveError ByteArray :=
  match repeated? [] (entries.map (·.name)) with
  | some name => .error (.duplicateName name)
  | none => .ok (encode entries)

/-! ## Laws -/

theorem repeated?_eq_none_iff {before names : List String} :
    repeated? before names = none ↔ names.Nodup ∧ ∀ name ∈ names, name ∉ before := by
  induction names generalizing before with
  | nil => simp [repeated?]
  | cons name names ih =>
    by_cases hname : name ∈ before
    · simp [repeated?, hname]
    · rw [repeated?, if_neg (by simpa using hname), ih, List.nodup_cons]
      constructor
      · rintro ⟨hnodup, hbefore⟩
        have hfresh : name ∉ names := fun h => hbefore name h List.mem_cons_self
        refine ⟨⟨hfresh, hnodup⟩, List.forall_mem_cons.mpr ⟨hname, fun other hother h => ?_⟩⟩
        exact hbefore other hother (List.mem_cons_of_mem _ h)
      · rintro ⟨⟨hfresh, hnodup⟩, hbefore⟩
        refine ⟨hnodup, fun other hother h => ?_⟩
        rcases List.mem_cons.mp h with rfl | h
        · exact hfresh hother
        · exact hbefore other (List.mem_cons_of_mem _ hother) h

/-- The first repeated name of a row of names stands in its first part, or else repeats a name of
the second part or of both. -/
theorem repeated?_append (before front rest : List String) :
    repeated? before (front ++ rest)
      = (repeated? before front).or (repeated? (front.reverse ++ before) rest) := by
  induction front generalizing before with
  | nil => rfl
  | cons name front ih =>
    rw [List.cons_append, repeated?, repeated?, List.reverse_cons, List.append_assoc]
    split
    · rfl
    · exact ih (name :: before)

/-- Among different names only one of those before them can come a second time. -/
theorem mem_of_repeated? {before names : List String} {name : String} (hnodup : names.Nodup)
    (h : repeated? before names = some name) : name ∈ names ∧ name ∈ before := by
  induction names generalizing before with
  | nil => cases h
  | cons first names ih =>
    obtain ⟨hfresh, hnodup⟩ := List.nodup_cons.mp hnodup
    rw [repeated?] at h
    split at h
    · rename_i hfirst
      obtain rfl := Option.some.inj h
      exact ⟨List.mem_cons_self, by simpa using hfirst⟩
    · obtain ⟨hmem, hbefore⟩ := ih hnodup h
      refine ⟨List.mem_cons_of_mem _ hmem, (List.mem_cons.mp hbefore).resolve_left ?_⟩
      rintro rfl
      exact hfresh hmem

/-- An archive is built exactly of entries with different names. -/
theorem build_eq_ok_iff {entries : List Entry} {bytes : ByteArray} :
    build entries = .ok bytes ↔ (entries.map (·.name)).Nodup ∧ bytes = encode entries := by
  have hiff : repeated? [] (entries.map (·.name)) = none
      ↔ (entries.map (·.name)).Nodup ∧ ∀ name ∈ entries.map (·.name), name ∉ [] :=
    repeated?_eq_none_iff
  rw [build]
  cases h : repeated? [] (entries.map (·.name)) with
  | none =>
    have hnodup := (hiff.mp h).1
    simp [hnodup, eq_comm]
  | some name =>
    have hrepeated : ¬ (entries.map (·.name)).Nodup := fun hnodup => by
      rw [hiff.mpr ⟨hnodup, fun _ _ => List.not_mem_nil⟩] at h
      cases h
    simp [hrepeated]

/-- What keeps an archive from being built is a name that comes a second time. -/
theorem build_eq_error_iff {entries : List Entry} {e : ArchiveError} :
    build entries = .error e
      ↔ ∃ name, repeated? [] (entries.map (·.name)) = some name ∧ e = .duplicateName name := by
  rw [build]
  cases repeated? [] (entries.map (·.name)) with
  | none => simp
  | some name => simp [eq_comm]

theorem not_nodup_of_build_eq_error {entries : List Entry} {e : ArchiveError}
    (h : build entries = .error e) : ¬ (entries.map (·.name)).Nodup := by
  intro hnodup
  rw [build_eq_ok_iff.mpr ⟨hnodup, rfl⟩] at h
  cases h

/-- Archives start with one byte, whatever is in them. -/
theorem head?_encode (entries : List Entry) : (encode entries).data.toList.head? = some 0x50 := by
  cases entries <;> rfl

end Zip
end ToolPack
