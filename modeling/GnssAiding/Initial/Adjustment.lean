/-
The time and the position that a receiver is told before it gets assistance
data. A `TimeAdjustment` is either a full date and time, or an amount to add
to a time that is already there.
-/
import GnssAiding.Bytes
import GnssAiding.Calendar
import GnssAiding.Error

namespace GnssAiding

inductive AdjustMode
  /-- The date and time replace what is there. -/
  | absolute
  /-- Hours, minutes and seconds are added to what is there. -/
  | relative
deriving DecidableEq, Repr

/-- The time told to the receiver. A relative adjustment uses hour, minute,
second and `accSeconds` only. -/
structure TimeAdjustment where
  mode : AdjustMode
  year : UInt16
  month : UInt8
  day : UInt8
  hour : UInt8
  minute : UInt8
  second : UInt8
  /-- Accuracy, whole seconds. -/
  accSeconds : UInt16
  /-- Accuracy, milliseconds on top. -/
  accMillis : UInt16
deriving DecidableEq, Repr

namespace TimeAdjustment

/-- To the given moment; the year is cut to 16 bits. -/
def absolute (t : Moment) (accSeconds accMillis : UInt16) : TimeAdjustment :=
  ⟨.absolute, UInt16.ofInt t.date.year, UInt8.ofNat t.date.month, UInt8.ofNat t.date.day,
    UInt8.ofNat t.hour, UInt8.ofNat t.minute, UInt8.ofNat t.second, accSeconds, accMillis⟩

/-- By the given amount. -/
def relative (hour minute second : UInt8) (accSeconds : UInt16) : TimeAdjustment :=
  ⟨.relative, 0, 0, 0, hour, minute, second, accSeconds, 0⟩

/-- The date and time named, if they exist. -/
def moment (t : TimeAdjustment) : Except Error Moment :=
  match (Date.make? t.year.toNat t.month.toNat t.day.toNat).bind fun d =>
      Moment.make? d t.hour.toNat t.minute.toNat t.second.toNat with
  | some m => .ok m
  | none => .error (.invalidArgument .invalidDateOrTime)

/-- Hours, minutes and seconds together, in seconds. -/
def amount (t : TimeAdjustment) : Nat :=
  t.hour.toNat * 3600 + t.minute.toNat * 60 + t.second.toNat

/-- The milliseconds of the accuracy in nanoseconds, as a word. -/
def accNanos (t : TimeAdjustment) : Except Fault UInt32 := do
  let n ← Checked.narrow 32 (t.accMillis.toNat * 1000000)
  pure (UInt32.ofNat n)

end TimeAdjustment

/-- A position with its accuracy. -/
structure Position where
  /-- Latitude in units of 1e-7 degrees. -/
  latitude : Int32
  /-- Longitude in units of 1e-7 degrees. -/
  longitude : Int32
  /-- Altitude in millimetres. -/
  altitude : Int32
  /-- Accuracy in millimetres. -/
  accuracy : UInt32
deriving DecidableEq, Repr

end GnssAiding
