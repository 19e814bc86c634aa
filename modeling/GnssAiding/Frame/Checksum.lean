/-
The checksum of a frame: two running sums modulo 256, the second one over
the values of the first.
-/
import GnssAiding.Bytes
import GnssAiding.Error

namespace GnssAiding

/-- The two checksum bytes. -/
structure Checksum where
  a : UInt8
  b : UInt8
deriving DecidableEq, Repr

namespace Checksum

/-- The sums after one more byte. -/
def push (c : Checksum) (byte : UInt8) : Checksum :=
  ⟨c.a + byte, c.b + (c.a + byte)⟩

/-- The checksum of `data`. -/
def of (data : Bytes) : Checksum := data.foldl push ⟨0, 0⟩

def bytes (c : Checksum) : Bytes := [c.a, c.b]

/-- `data` followed by its checksum. -/
def append (data : Bytes) : Bytes := data ++ (of data).bytes

/-- Whether `data` is a class, an id, a length and a payload followed by
their checksum; anything below six bytes is not. -/
def verify (data : Bytes) : Bool :=
  let body := data.length - 2
  decide (6 ≤ data.length) && data.drop body == (of (data.take body)).bytes

/-- A frame with its last two bytes replaced by the checksum of what lies
between them and the two sync characters. -/
def refresh (frame : Bytes) : Except Fault Bytes := do
  let stop ← Checked.sub frame.length 2
  let body ← Checked.slice frame 2 stop
  pure (frame.take stop ++ (of body).bytes)

end Checksum

end GnssAiding
