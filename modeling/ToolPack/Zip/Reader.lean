import ToolPack.Zip.Archive

/-!
# Reading archives

The entries of an archive, found by way of its closing record and its directory.  Archives with a
comment at their end are not read.
-/

set_option autoImplicit false

namespace ToolPack
namespace Zip

/-- The number of two bytes at a place. -/
def read16 (bytes : ByteArray) (place : Nat) : Nat :=
  (bytes.data.getD place 0).toNat + 256 * (bytes.data.getD (place + 1) 0).toNat

/-- The number of four bytes at a place. -/
def read32 (bytes : ByteArray) (place : Nat) : Nat :=
  read16 bytes place + 65536 * read16 bytes (place + 2)

/-- Bytes at a place. -/
def readBytes (bytes : ByteArray) (place length : Nat) : List UInt8 :=
  (bytes.extract place (place + length)).data.toList

/-- The data of an entry: packed ones are unpacked, plain ones are as they are. -/
def readData? (method : Nat) (packed : List UInt8) : Option ByteArray :=
  match method with
  | 0 => some ⟨packed.toArray⟩
  | 8 => unpack? packed
  | _ => none

/-- The entry of a line of the directory, and the place of the next line. -/
def readLine? (bytes : ByteArray) (place : Nat) : Option (Entry × Nat) :=
  if readBytes bytes place 4 = Member.lineMark then do
    let nameLength := read16 bytes (place + 28)
    let behind := nameLength + read16 bytes (place + 30) + read16 bytes (place + 32)
    let name ← String.fromUTF8? ⟨(readBytes bytes (place + 46) nameLength).toArray⟩
    let header := read32 bytes (place + 42)
    let start := header + 30 + read16 bytes (header + 26) + read16 bytes (header + 28)
    let packed := readBytes bytes start (read32 bytes (place + 20))
    let data ← readData? (read16 bytes (place + 10)) packed
    some (⟨name, read16 bytes (place + 40) % 0o1000, data⟩, place + 46 + behind)
  else none

/-- The entries of lines of the directory. -/
def readLines? (bytes : ByteArray) : Nat → Nat → Option (List Entry)
  | 0, _ => some []
  | count + 1, place => do
    let (entry, place) ← readLine? bytes place
    let entries ← readLines? bytes count place
    some (entry :: entries)

/-- The entries of an archive, none when the bytes are no archive. -/
def decode? (bytes : ByteArray) : Option (List Entry) :=
  let closing := bytes.size - 22
  if 22 ≤ bytes.size ∧ readBytes bytes closing 4 = closingMark then
    readLines? bytes (read16 bytes (closing + 10)) (read32 bytes (closing + 16))
  else none

end Zip
end ToolPack
