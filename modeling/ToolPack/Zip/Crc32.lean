/-!
# The checksum of archive entries

The cyclic redundancy check of thirty-two bits that archives keep for every entry.
-/

set_option autoImplicit false

namespace ToolPack
namespace Zip

/-- The generator polynomial, with its bits in reverse. -/
def crcPolynomial : UInt32 := 0xEDB88320

/-- Divides one bit out. -/
def crcBit (crc : UInt32) : UInt32 :=
  if crc &&& 1 = 1 then (crc >>> 1) ^^^ crcPolynomial else crc >>> 1

/-- Takes in one byte. -/
def crcByte (crc : UInt32) (b : UInt8) : UInt32 :=
  crcBit (crcBit (crcBit (crcBit (crcBit (crcBit (crcBit (crcBit (crc ^^^ b.toUInt32))))))))

/-- The checksum of data. -/
def crc32 (data : ByteArray) : UInt32 :=
  (data.data.toList.foldl crcByte 0xFFFFFFFF) ^^^ 0xFFFFFFFF

end Zip
end ToolPack
