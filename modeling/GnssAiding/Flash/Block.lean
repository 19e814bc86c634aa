/-
Data cut into the blocks of a transfer, and what has become of each block.
-/
import GnssAiding.Event
import GnssAiding.Flash.Record

namespace GnssAiding.Flash

/-- What a block carries. -/
inductive Content
  /-- These bytes, which stand in the data from `offset` on. -/
  | data (offset : Nat) (bytes : Bytes)
  /-- The end of the transfer. -/
  | stop
deriving DecidableEq, Repr

/-- A block in transfer. -/
structure Block where
  content : Content
  /-- Kept when the block is sent again. -/
  sequence : UInt16
  state : Progress
  /-- How often it was sent again. -/
  retries : Nat
  /-- The clock reading from which its acknowledgement is overdue. -/
  deadline : Nat
deriving DecidableEq, Repr

namespace Block

/-- A block that has not been sent. -/
def fresh (content : Content) (sequence : UInt16) : Block :=
  ⟨content, sequence, .waitingToSend, 0, 0⟩

/-- The data of the block. -/
def bytes (b : Block) : Bytes :=
  match b.content with
  | .data _ bytes => bytes
  | .stop => []

def report (b : Block) : BlockReport := ⟨b.sequence, b.bytes.length, b.retries⟩

/-- What stands in `data` where the block is. -/
def bytesIn (b : Block) (data : Bytes) : Except Fault Bytes :=
  match b.content with
  | .data offset bytes => Checked.slice data offset (offset + bytes.length)
  | .stop => .ok []

/-- The record that the block goes out as, read from `data`. -/
def frame (data : Bytes) (b : Block) : Except Failure Frame :=
  match b.content with
  | .data .. => do
    let chunk ← b.bytesIn data
    dataFrame b.sequence chunk
  | .stop => pure stopFrame

/-- The block is out and not acknowledged yet. -/
def awaiting (b : Block) : Bool :=
  decide (b.state = .waitingForAck) || decide (b.state = .waitingForSecondChance)

/-- The data in blocks of `blockSize` bytes, numbered from zero. -/
def cut (data : Bytes) : List Block :=
  (Bytes.pieces blockSize (by decide) data).mapIdx fun i piece =>
    fresh (.data (i * blockSize) piece) (UInt16.ofNat i)

end Block

end GnssAiding.Flash
