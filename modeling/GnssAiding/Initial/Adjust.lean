/-
A new time in the message that leads a blob. All other bytes stay, and the
checksum of the message is written anew.
-/
import GnssAiding.Initial.Flags
import GnssAiding.Initial.Message

namespace GnssAiding.Initial

/-- The date and time that the payload of an initial time message holds, if
they exist. -/
def storedTime (payload : Bytes) : Except Error Moment :=
  let byte (i : Nat) : Nat := (payload.getD i 0).toNat
  let year := (Bytes.read16 (payload.getD 4 0) (payload.getD 5 0)).toNat
  match (Date.make? year (byte 6) (byte 7)).bind
      fun d => Moment.make? d (byte 8) (byte 9) (byte 10) with
  | some m => .ok m
  | none => .error .badData

/-- The payload of an initial time message with the time adjusted. -/
def adjustTime (t : TimeAdjustment) (payload : Bytes) : Except Failure Bytes :=
  match t.mode with
  | .absolute => do
    let m ← t.moment
    let nanos ← t.accNanos
    pure (setAccuracyNanos nanos (setAccuracy t.accSeconds (setTime m payload)))
  | .relative => do
    let m ← storedTime payload
    pure (setAccuracy t.accSeconds (setTime (m.addSeconds t.amount) payload))

/-- Month, year of the century from 2000 on, second, minute, hour, day, no
fraction of a second, the accuracy in milliseconds and no fraction of one. -/
def aidTimeFields (m : Moment) (year : UInt8) (accuracy : UInt32) : Bytes :=
  [UInt8.ofNat m.date.month, year, UInt8.ofNat m.second, UInt8.ofNat m.minute,
    UInt8.ofNat m.hour, UInt8.ofNat m.date.day, 0, 0, 0, 0] ++ Bytes.le32 accuracy ++ [0, 0, 0, 0]

/-- The flag word of legacy initial data. -/
def aidFlags (payload : Bytes) : UInt32 :=
  Bytes.read32 (payload.getD 44 0) (payload.getD 45 0) (payload.getD 46 0) (payload.getD 47 0)

/-- The payload of legacy initial data with the time adjusted. -/
def adjustAid (t : TimeAdjustment) (payload : Bytes) : Except Failure Bytes :=
  match t.mode with
  | .absolute => do
    let m ← t.moment
    let year := m.date.year - 2000
    if year < 0 ∨ 255 < year then
      throw (.refused (.invalidArgument .yearOutOfRange))
    let accuracy := UInt32.ofNat (t.accSeconds.toNat * 1000 + t.accMillis.toNat)
    let flags := AidFlag.utc.put true (AidFlag.time.put true (aidFlags payload))
    pure (Bytes.overwrite 44 (Bytes.le32 flags)
      (Bytes.overwrite 18 (aidTimeFields m (UInt8.ofNat year.toNat) accuracy) payload))
  | .relative => throw (.refused (.invalidArgument .onlyAbsoluteAdjustment))

/-- `data` with the time in its leading message adjusted. -/
def adjust (data : Bytes) (t : TimeAdjustment) : Except Failure Bytes :=
  match lead? data with
  | none => .error (.refused .noInitialTime)
  | some (.time f rest _) => do
    let payload ← adjustTime t f.payload
    let g ← Frame.build f.cls f.id payload
    pure (g.bytes ++ rest)
  | some (.aid f rest _) => do
    let payload ← adjustAid t f.payload
    let g ← Frame.build f.cls f.id payload
    pure (g.bytes ++ rest)

end GnssAiding.Initial
