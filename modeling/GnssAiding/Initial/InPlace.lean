/-
A new time put into a buffer in place: field by field, and the checksum last. What was
written before a refusal or a fault stays written, so the order in which fields are checked
and written matters here, as it does not where a new blob is made.
-/
import GnssAiding.Initial.Adjust

namespace GnssAiding

/-- Work on a buffer in place. -/
abbrev InPlace := ExceptT Failure (StateM Bytes)

namespace InPlace

/-- The result of a check, which leaves the buffer alone. -/
def check {α} (x : Except Failure α) : InPlace α := ExceptT.mk (pure x)

/-- How the work ends, and the buffer afterwards. -/
def runOn {α} (work : InPlace α) (buffer : Bytes) : Except Failure α × Bytes := work.run.run buffer

/-- The bytes from `start` up to, not including, `stop`, which must be there. -/
def read (start stop : Nat) : InPlace Bytes := do
  check (Checked.slice (← get) start stop)

/-- Overwrites the bytes from `start` on, which must be there. -/
def write (start : Nat) (fresh : Bytes) : InPlace Unit := do
  set (← check (Checked.splice start fresh (← get)))

end InPlace

namespace Initial

open InPlace

/-- Where the payload of the leading frame begins. -/
def payloadStart : Nat := 6

/-- Writes a date and a time into an initial time message. -/
def putTime (m : Moment) : InPlace Unit := do
  write (payloadStart + 4) (timeFields m)
  write (payloadStart + 12) [0, 0, 0, 0]

/-- Adjusts the time in an initial time message. -/
def retime (t : TimeAdjustment) : InPlace Unit :=
  match t.mode with
  | .absolute => do
    let m ← check t.moment
    putTime m
    write (payloadStart + 16) (Bytes.le16 t.accSeconds)
    let nanos ← check t.accNanos
    write (payloadStart + 20) (Bytes.le32 nanos)
  | .relative => do
    let payload ← read payloadStart (payloadStart + timeLength)
    let m ← check (storedTime payload)
    putTime (m.addSeconds t.amount)
    write (payloadStart + 16) (Bytes.le16 t.accSeconds)

/-- Adjusts the time in legacy initial data. -/
def retimeAid (t : TimeAdjustment) : InPlace Unit :=
  match t.mode with
  | .absolute => do
    let m ← check t.moment
    let year := m.date.year - 2000
    if year < 0 ∨ 255 < year then
      throw (.refused (.invalidArgument .yearOutOfRange))
    let accuracy := UInt32.ofNat (t.accSeconds.toNat * 1000 + t.accMillis.toNat)
    write (payloadStart + 18) (aidTimeFields m (UInt8.ofNat year.toNat) accuracy)
    let payload ← read payloadStart (payloadStart + aidLength)
    let flags := AidFlag.utc.put true (AidFlag.time.put true (aidFlags payload))
    write (payloadStart + 44) (Bytes.le32 flags)
  | .relative => throw (.refused (.invalidArgument .onlyAbsoluteAdjustment))

/-- Writes the checksum of the leading frame anew. -/
def reseal (length : Nat) : InPlace Unit := do
  let frame ← check (Checksum.refresh (← read 0 length))
  write 0 frame

/-- Adjusts the time in the leading message, and the checksum after it. -/
def retimeLead (t : TimeAdjustment) : Option Lead → InPlace Unit
  | none => throw (.refused .noInitialTime)
  | some (.time f _ _) => do
    retime t
    reseal f.length
  | some (.aid f _ _) => do
    retimeAid t
    reseal f.length

/-- Adjusts the time in the message that a buffer begins with: how that ends, and the
buffer afterwards. -/
def adjustBuffer (buffer : Bytes) (t : TimeAdjustment) : Except Failure Unit × Bytes :=
  runOn (do retimeLead t (lead? (← get))) buffer

end Initial

end GnssAiding
