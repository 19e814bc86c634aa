/-
Snapshots of the receiver's navigation data base. The receiver answers a
poll with a series of messages and closes it with an acknowledgement that
counts them; sent back in the same order they restore the data base.
-/
import GnssAiding.Frame.Stream

namespace GnssAiding.Snapshot

/-- The longest payload of a data base message. -/
def maxPayload : Nat := 256

/-- The empty message that asks for the data base. -/
def pollFrame : Frame := .sealed MessageClass.mga MgaId.dbd [] (by decide)

/-- What a frame meant to the collector. -/
inductive Status
  | stored
  | complete
  | ignored
deriving DecidableEq, Repr

/-- What has been collected of a snapshot. -/
structure Collector where
  data : Bytes
  messages : Nat
  complete : Bool
deriving DecidableEq, Repr

namespace Collector

def empty : Collector := ⟨[], 0, false⟩

/-- The number of messages that a closing acknowledgement reports. -/
def reported (payload : Bytes) : Nat :=
  (Bytes.read32 (payload.getD 4 0) (payload.getD 5 0) (payload.getD 6 0) (payload.getD 7 0)).toNat

/-- Takes one frame from the receiver. A message that is too long and a
count that is wrong are refused and change nothing. -/
def push (c : Collector) (bytes : Bytes) : Except Failure Status × Collector :=
  match Frame.parse? bytes with
  | none => (.ok .ignored, c)
  | some f =>
    if c.complete then (.ok .ignored, c)
    else if f.kind? = some .mgaDbd ∧ f.payload ≠ [] then
      if maxPayload < f.payload.length then (.error (.refused .badData), c)
      else
        match Checked.narrow 32 (c.messages + 1) with
        | .error e => (.error (.fault e), c)
        | .ok n => (.ok .stored, { c with data := c.data ++ bytes, messages := n })
    else if f.kind? = some .mgaAck ∧ 8 ≤ f.payload.length ∧ f.payload[3]? = some MgaId.dbd then
      if reported f.payload = c.messages then (.ok .complete, { c with complete := true })
      else (.error (.refused .badData), c)
    else (.ok .ignored, c)

end Collector

/-- A frame that may stand in a snapshot. -/
def belongs (f : Frame) : Bool :=
  f.kind? == some .mgaDbd && decide (f.payload.length ≤ maxPayload) && f.intact

/-- Accepts a clean stream of data base messages that is not empty. A frame
that does not belong is met before damage behind it, but the answer is the
same. -/
def validate (data : Bytes) : Except Error Unit := do
  let located ← Stream.frames data
  if located.all fun l => belongs l.frame then
    if located.isEmpty then .error .noDataToSend else .ok ()
  else .error .badData

end GnssAiding.Snapshot
