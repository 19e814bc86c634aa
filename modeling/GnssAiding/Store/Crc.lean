/-
The cyclic redundancy check of compressed files, by the bits.
-/
import GnssAiding.Bytes

namespace GnssAiding.Store

namespace Crc

/-- The polynomial, the lowest power in the highest bit. -/
def polynomial : UInt32 := 0xEDB88320

/-- One bit is taken out at the low end. -/
def shift (c : UInt32) : UInt32 := if c &&& 1 = 1 then (c >>> 1) ^^^ polynomial else c >>> 1

/-- One more byte. -/
def push (c : UInt32) (b : UInt8) : UInt32 :=
  let c := c ^^^ b.toUInt32
  shift (shift (shift (shift (shift (shift (shift (shift c)))))))

/-- The check of a string of bytes. -/
def of (data : Bytes) : UInt32 := data.foldl push 0xFFFFFFFF ^^^ 0xFFFFFFFF

end Crc

end GnssAiding.Store
