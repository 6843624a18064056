import ToolPack.Proofs.Zip.Unpack
import ToolPack.Zip.Reader

/-!
# Archives are read back

The reader of archives finds its way by numbers in fixed places: the closing record says where the
directory is, a line of the directory says where its entry is.  Every piece of an archive stands
where the pieces before it end, so what is read in a place is what was written there.

## What is here

* `StandsAt`: what bytes hold at a place, and what is read there;
* `Member.Readable`, `readLine?_eq`: a line of the directory gives its entry;
* `standsAt_body`: entries stand where their lines say;
* `Fits`, `decode?_encode`: an archive that keeps to the limits of its fields gives the entries that
  it was made of.
-/

set_option autoImplicit false

namespace ToolPack
namespace Zip

/-! ## Pieces of bytes -/

@[simp] theorem length_bytes16 (n : Nat) : (bytes16 n).length = 2 := rfl

@[simp] theorem length_bytes32 (n : Nat) : (bytes32 n).length = 4 := rfl

/-- The piece stands in the bytes at a place. -/
def StandsAt (bytes : ByteArray) (place : Nat) (piece : List UInt8) : Prop :=
  ∃ front back, bytes.data.toList = front ++ piece ++ back ∧ front.length = place

section

variable {bytes : ByteArray} {place : Nat} {piece first second : List UInt8}

theorem StandsAt.left (h : StandsAt bytes place (first ++ second)) :
    StandsAt bytes place first := by
  obtain ⟨front, back, hbytes, hplace⟩ := h
  exact ⟨front, second ++ back, by simp only [hbytes, List.append_assoc], hplace⟩

theorem StandsAt.right {n : Nat} (h : StandsAt bytes place (first ++ second))
    (hn : first.length = n) : StandsAt bytes (place + n) second := by
  obtain ⟨front, back, hbytes, rfl⟩ := h
  refine ⟨front ++ first, back, by simp only [hbytes, List.append_assoc], ?_⟩
  rw [List.length_append, hn]

theorem StandsAt.le_size (h : StandsAt bytes place piece) :
    place + piece.length ≤ bytes.size := by
  obtain ⟨front, back, hbytes, rfl⟩ := h
  have hsize : bytes.size = (front ++ piece ++ back).length := congrArg List.length hbytes
  rw [hsize, List.length_append, List.length_append]
  exact Nat.le_add_right _ _

theorem StandsAt.getD_eq {b : UInt8} (h : StandsAt bytes place (b :: piece)) :
    bytes.data.getD place 0 = b := by
  obtain ⟨front, back, hbytes, rfl⟩ := h
  rw [Array.getD_eq_getD_getElem?, ← Array.getElem?_toList, hbytes, List.append_assoc,
    List.getElem?_append_right (Nat.le_refl _), Nat.sub_self]
  rfl

theorem StandsAt.readBytes_eq (h : StandsAt bytes place piece) :
    readBytes bytes place piece.length = piece := by
  obtain ⟨front, back, hbytes, rfl⟩ := h
  rw [readBytes, ByteArray.data_extract, Array.toList_extract, hbytes, List.append_assoc,
    List.extract_eq_take_drop, List.drop_left, Nat.add_sub_cancel_left, List.take_left]

theorem StandsAt.read16_eq {n : Nat} (h : StandsAt bytes place (bytes16 n)) (hn : n < 65536) :
    read16 bytes place = n := by
  have hlow : bytes.data.getD place 0 = UInt8.ofNat (n % 256) := h.getD_eq
  have hboth : StandsAt bytes place
    ([UInt8.ofNat (n % 256)] ++ [UInt8.ofNat (n / 256 % 256)]) := h
  have hhigh : bytes.data.getD (place + 1) 0 = UInt8.ofNat (n / 256 % 256) :=
    StandsAt.getD_eq (hboth.right rfl)
  rw [read16, hlow, hhigh, UInt8.toNat_ofNat', UInt8.toNat_ofNat']
  omega

/-- The upper half of a number of four bytes. -/
theorem StandsAt.high {n : Nat} (h : StandsAt bytes place (bytes32 n)) :
    StandsAt bytes (place + 2) (bytes16 (n / 65536)) := by
  rw [bytes32] at h
  exact h.right rfl

theorem StandsAt.read32_eq {n : Nat} (h : StandsAt bytes place (bytes32 n))
    (hn : n < 4294967296) : read32 bytes place = n := by
  have hlow : read16 bytes place = n % 65536 := StandsAt.read16_eq h.left (by omega)
  have hhigh : read16 bytes (place + 2) = n / 65536 := h.high.read16_eq (by omega)
  rw [read32, hlow, hhigh, Nat.mod_add_div]

end

/-! ## Lines of the directory -/

namespace Member

@[simp] theorem length_common (m : Member) : m.common.length = 24 := by simp [common]

theorem length_line (m : Member) : m.line.length = 46 + m.nameBytes.length := by
  simp only [line, lineMark, List.length_append, length_common, length_bytes16, length_bytes32]

/-- A member that can be found by its line: it fits the fields, and its data can be unpacked. -/
structure Readable (bytes : ByteArray) (m : Member) : Prop where
  body : StandsAt bytes m.offset m.body
  unpacks : unpack? m.packed = some m.entry.data
  size : bytes.size < 4294967296
  name : m.nameBytes.length < 65536
  mode : m.entry.mode < 0o1000

end Member

section

variable {bytes : ByteArray} {m : Member} {place : Nat}

theorem Member.Readable.bounds (h : m.Readable bytes) :
    m.offset < 4294967296 ∧ m.packed.length < 4294967296 := by
  have hsize := h.size
  have hbody := h.body.le_size
  rw [Member.body, List.length_append] at hbody
  omega

theorem StandsAt.method (h : StandsAt bytes place m.common) : read16 bytes (place + 4) = 8 :=
  StandsAt.read16_eq (h.left.left.left.left.left.left.right (by simp)) (by decide)

theorem StandsAt.packedLength (h : StandsAt bytes place m.common)
    (hm : m.packed.length < 4294967296) : read32 bytes (place + 14) = m.packed.length :=
  StandsAt.read32_eq (h.left.left.right (by simp)) hm

theorem StandsAt.nameLength (h : StandsAt bytes place m.common)
    (hm : m.nameBytes.length < 65536) : read16 bytes (place + 22) = m.nameBytes.length :=
  StandsAt.read16_eq (h.right (by simp)) hm

/-- Behind its header stand the packed data of a member. -/
theorem Member.Readable.packed_eq (h : m.Readable bytes) :
    readBytes bytes (m.offset + 30 + read16 bytes (m.offset + 26) + read16 bytes (m.offset + 28))
      m.packed.length = m.packed := by
  have hcommon : StandsAt bytes (m.offset + 4) m.common :=
    h.body.left.left.left.right (by simp [Member.headerMark])
  have hname : read16 bytes (m.offset + 26) = m.nameBytes.length := hcommon.nameLength h.name
  have hextra : read16 bytes (m.offset + 28) = 0 :=
    StandsAt.read16_eq (h.body.left.left.right (by simp [Member.headerMark])) (by decide)
  have hpacked : StandsAt bytes (m.offset + (30 + m.nameBytes.length)) m.packed :=
    h.body.right (by simp only [Member.headerMark, List.length_append, length_bytes16,
      length_bytes32, Member.length_common])
  rw [hname, hextra, Nat.add_zero, Nat.add_assoc]
  exact hpacked.readBytes_eq

theorem fromUTF8?_toUTF8 (s : String) : String.fromUTF8? s.toUTF8 = some s := by
  rw [String.fromUTF8?, String.toUTF8_eq_toByteArray, dif_pos s.isValidUTF8]
  rfl

/-- The permissions stand in the upper half of the attributes, below the kind of the file. -/
theorem Member.Readable.mode_eq (h : m.Readable bytes) (hattributes : StandsAt bytes place
    (bytes32 ((Member.regularFile + m.entry.mode) * 65536))) :
    read16 bytes (place + 2) % 0o1000 = m.entry.mode := by
  have hfile : Member.regularFile = 32768 := rfl
  have hbound := h.mode
  have hhigh := hattributes.high
  rw [Nat.mul_div_cancel _ (by decide)] at hhigh
  rw [hhigh.read16_eq (by omega)]
  omega

/-- A line of the directory gives the entry of its member, and leads to what stands behind it. -/
theorem readLine?_eq (hline : StandsAt bytes place m.line) (h : m.Readable bytes) :
    readLine? bytes place = some (m.entry, place + m.line.length) := by
  obtain ⟨hoffsetBound, hpackedBound⟩ := h.bounds
  -- the pieces of a line from its end on, each with the length of those in front of it
  have hname : StandsAt bytes (place + 46) m.nameBytes := hline.right (by simp [Member.lineMark])
  have hoffset : StandsAt bytes (place + 42) (bytes32 m.offset) :=
    hline.left.right (by simp [Member.lineMark])
  have hmode := h.mode_eq (hline.left.left.right (n := 38) (by simp [Member.lineMark]))
  have hcomment : StandsAt bytes (place + 32) (bytes16 0) :=
    hline.left.left.left.left.left.right (by simp [Member.lineMark])
  have hextra : StandsAt bytes (place + 30) (bytes16 0) :=
    hline.left.left.left.left.left.left.right (by simp [Member.lineMark])
  have hcommon : StandsAt bytes (place + 6) m.common :=
    hline.left.left.left.left.left.left.left.right (by simp [Member.lineMark])
  have hmark : readBytes bytes place 4 = Member.lineMark :=
    hline.left.left.left.left.left.left.left.left.left.readBytes_eq
  have hdata : readData? 8 m.packed = some m.entry.data := h.unpacks
  have htext : String.fromUTF8? ⟨m.nameBytes.toArray⟩ = some m.entry.name :=
    fromUTF8?_toUTF8 m.entry.name
  have hend : place + 46 + (m.nameBytes.length + 0 + 0) = place + m.line.length := by
    rw [Member.length_line]
    omega
  have hmethod : read16 bytes (place + 10) = 8 := hcommon.method
  have hlength : read32 bytes (place + 20) = m.packed.length :=
    hcommon.packedLength hpackedBound
  have hnameLength : read16 bytes (place + 28) = m.nameBytes.length := hcommon.nameLength h.name
  rw [readLine?, if_pos hmark]
  simp only [hnameLength, hextra.read16_eq (by decide : 0 < 65536),
    hcomment.read16_eq (by decide : 0 < 65536), hname.readBytes_eq, htext,
    hoffset.read32_eq hoffsetBound, hlength, h.packed_eq, hmethod, hdata, hmode, hend,
    Option.bind_eq_bind, Option.bind_some]

/-- A directory gives the entries of its lines, in order. -/
theorem readLines?_eq {members : List Member} (hmembers : ∀ m ∈ members, m.Readable bytes)
    (hlines : StandsAt bytes place (members.flatMap Member.line)) :
    readLines? bytes members.length place = some (members.map (·.entry)) := by
  induction members generalizing place with
  | nil => rfl
  | cons m members ih =>
    obtain ⟨hm, hmembers⟩ := List.forall_mem_cons.mp hmembers
    rw [List.flatMap_cons] at hlines
    have hrest := ih hmembers (hlines.right rfl)
    rw [List.length_cons, readLines?, readLine?_eq hlines.left hm]
    simp only [Option.bind_eq_bind, Option.bind_some, hrest, List.map_cons]

end

/-! ## Archives -/

theorem map_entry_place (offset : Nat) (entries : List Entry) :
    (place offset entries).map (·.entry) = entries := by
  induction entries generalizing offset with
  | nil => rfl
  | cons entry entries ih => exact congrArg (entry :: ·) (ih _)

theorem length_place (offset : Nat) (entries : List Entry) :
    (place offset entries).length = entries.length := by
  rw [← List.length_map (f := (·.entry)), map_entry_place]

theorem packed_of_mem_place {offset : Nat} {entries : List Entry} {m : Member}
    (h : m ∈ place offset entries) : m.packed = pack m.entry.data := by
  induction entries generalizing offset with
  | nil => cases h
  | cons entry entries ih =>
    rcases List.mem_cons.mp h with rfl | h
    · rfl
    · exact ih h

theorem entry_mem_of_mem_place {offset : Nat} {entries : List Entry} {m : Member}
    (h : m ∈ place offset entries) : m.entry ∈ entries := by
  rw [← map_entry_place offset entries]
  exact List.mem_map_of_mem h

/-- Members that stand one behind the other are where they say. -/
theorem standsAt_body {bytes : ByteArray} {offset : Nat} {entries : List Entry}
    (h : StandsAt bytes offset ((place offset entries).flatMap Member.body)) :
    ∀ m ∈ place offset entries, StandsAt bytes m.offset m.body := by
  induction entries generalizing offset with
  | nil => exact fun m hm => absurd hm List.not_mem_nil
  | cons entry entries ih =>
    rw [place, List.flatMap_cons] at h
    exact List.forall_mem_cons.mpr ⟨h.left, ih (h.right rfl)⟩

/-- What the fields of an archive can tell: the number of its entries, the lengths of their names,
and the places in it. -/
structure Fits (entries : List Entry) : Prop where
  count : entries.length < 65536
  names : ∀ entry ∈ entries, entry.name.toUTF8.size < 65536
  size : (encode entries).size < 4294967296

/-- The entries of an archive, each behind its header. -/
def bodies (entries : List Entry) : List UInt8 := (place 0 entries).flatMap Member.body

/-- The directory of an archive. -/
def directory (entries : List Entry) : List UInt8 := (place 0 entries).flatMap Member.line

theorem toList_encode (entries : List Entry) :
    (encode entries).data.toList = bodies entries ++ directory entries
      ++ closing entries.length (directory entries).length (bodies entries).length := by
  rw [← length_place 0 entries]
  exact List.toList_toArray

theorem length_closing (count length offset : Nat) : (closing count length offset).length = 22 := by
  simp only [closing, closingMark, List.length_append, length_bytes16, length_bytes32]

theorem size_encode (entries : List Entry) :
    (encode entries).size = (bodies entries).length + (directory entries).length + 22 := by
  have hsize := congrArg List.length (toList_encode entries)
  rw [List.length_append, List.length_append, length_closing] at hsize
  exact hsize

/-- The three parts of an archive, each where the one before it ends. -/
theorem standsAt_encode (entries : List Entry) :
    StandsAt (encode entries) 0 (bodies entries)
      ∧ StandsAt (encode entries) (bodies entries).length (directory entries)
      ∧ StandsAt (encode entries) ((bodies entries).length + (directory entries).length)
          (closing entries.length (directory entries).length (bodies entries).length) := by
  have hbytes := toList_encode entries
  have hwhole : StandsAt (encode entries) 0 (bodies entries ++ directory entries
      ++ closing entries.length (directory entries).length (bodies entries).length) :=
    ⟨[], [], by rw [hbytes, List.nil_append, List.append_nil], rfl⟩
  refine ⟨hwhole.left.left, ⟨_, _, hbytes, rfl⟩, ⟨_, [], ?_, List.length_append⟩⟩
  rw [hbytes, List.append_nil]

/-- The members of an archive that keeps to the limits can be read. -/
theorem Fits.readable {entries : List Entry} (h : Fits entries)
    (hmodes : ∀ entry ∈ entries, entry.mode < 0o1000) :
    ∀ m ∈ place 0 entries, m.Readable (encode entries) := by
  intro m hm
  have hentry := entry_mem_of_mem_place hm
  refine ⟨standsAt_body (standsAt_encode entries).1 m hm, ?_, h.size, h.names _ hentry,
    hmodes _ hentry⟩
  rw [packed_of_mem_place hm]
  exact unpack?_pack _

/-- **An archive that keeps to the limits of its fields gives the entries that it was made of.** -/
theorem decode?_encode {entries : List Entry} (h : Fits entries)
    (hmodes : ∀ entry ∈ entries, entry.mode < 0o1000) :
    decode? (encode entries) = some entries := by
  obtain ⟨-, hdirectory, hclosing⟩ := standsAt_encode entries
  have hread := readLines?_eq (h.readable hmodes) hdirectory
  rw [map_entry_place, length_place] at hread
  have hsize := size_encode entries
  have hbound := h.size
  have hplace : (encode entries).size - 22
      = (bodies entries).length + (directory entries).length := by omega
  have hmark := hclosing.left.left.left.left.left.left.left.readBytes_eq
  have hcount := (hclosing.left.left.left.right (n := 10) (by simp [closingMark])).read16_eq h.count
  have hoffset := (hclosing.left.right (n := 16) (by simp [closingMark])).read32_eq (by omega)
  rw [decode?, hplace, if_pos ⟨by omega, hmark⟩, hcount, hoffset]
  exact hread

end Zip
end ToolPack
