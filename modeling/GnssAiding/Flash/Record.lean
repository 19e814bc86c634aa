/-
The messages that carry offline data into the receiver's flash, and the
receiver's answers to them.
-/
import GnssAiding.Frame.Basic

namespace GnssAiding.Flash

/-- The most data that one record carries. -/
def blockSize : Nat := 512

/-- The sequence number that answers a stop message. -/
def stopSequence : UInt16 := 0xFFFF

def dataType : UInt8 := 1
def stopType : UInt8 := 2
def replyType : UInt8 := 3

/-- A record of data. -/
def dataFrame (sequence : UInt16) (chunk : Bytes) : Except Error Frame :=
  if chunk.length < 65536 then
    Frame.build MessageClass.mga MgaId.flash
      ([dataType, 0] ++ Bytes.le16 sequence ++ Bytes.le16 (UInt16.ofNat chunk.length) ++ chunk)
  else .error (.invalidArgument .flashChunkTooLong)

/-- The end of a transfer. -/
def stopFrame : Frame := .sealed MessageClass.mga MgaId.flash [stopType, 0, 0, 0] (by decide)

/-- A record without data. -/
def emptyFrame : Frame :=
  .sealed MessageClass.mga MgaId.flash [dataType, 0, 0, 0, 0, 0] (by decide)

/-- What erases the offline data in flash: a transfer of nothing. -/
def eraseBytes : Bytes := emptyFrame.bytes ++ stopFrame.bytes

/-- The receiver's answer to a record. -/
structure Reply where
  code : UInt8
  sequence : UInt16
deriving DecidableEq, Repr

/-- What an answer says. -/
inductive Verdict
  | accepted
  | again
  | abort
  | unknown
deriving DecidableEq, Repr

namespace Reply

/-- The answer that a frame holds, if it is one. -/
def parse? (f : Frame) : Option Reply :=
  if f.kind? = some .mgaFlash then
    match f.payload with
    | type :: _ :: code :: _ :: s0 :: s1 :: _ =>
      if type = replyType then some ⟨code, Bytes.read16 s0 s1⟩ else none
    | _ => none
  else none

/-- The same read byte by byte. -/
def read (f : Frame) : Except Fault (Option Reply) :=
  if f.kind? = some .mgaFlash ∧ 6 ≤ f.payload.length then do
    let type ← Checked.get f.payload 0
    if type = replyType then
      let code ← Checked.get f.payload 2
      let s0 ← Checked.get f.payload 4
      let s1 ← Checked.get f.payload 5
      pure (some ⟨code, Bytes.read16 s0 s1⟩)
    else pure none
  else pure none

def verdict (r : Reply) : Verdict :=
  match r.code.toNat with
  | 0 => .accepted
  | 1 => .again
  | 2 => .abort
  | _ => .unknown

end Reply

end GnssAiding.Flash
