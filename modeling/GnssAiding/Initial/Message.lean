/-
The initial time and position messages, and a blob with them in front.
-/
import GnssAiding.Initial.Adjustment
import GnssAiding.Initial.Lead

namespace GnssAiding.Initial

/-- The date and the time as they stand in an initial time message. -/
def timeFields (t : Moment) : Bytes :=
  Bytes.le16 (UInt16.ofInt t.date.year) ++
    [UInt8.ofNat t.date.month, UInt8.ofNat t.date.day, UInt8.ofNat t.hour, UInt8.ofNat t.minute,
      UInt8.ofNat t.second]

/-- The payload of an initial time message with this date and time and no
fraction of a second. -/
def setTime (t : Moment) (payload : Bytes) : Bytes :=
  Bytes.overwrite 12 [0, 0, 0, 0] (Bytes.overwrite 4 (timeFields t) payload)

/-- The payload with the whole seconds of the accuracy. -/
def setAccuracy (seconds : UInt16) (payload : Bytes) : Bytes :=
  Bytes.overwrite 16 (Bytes.le16 seconds) payload

/-- The payload with the nanoseconds of the accuracy. -/
def setAccuracyNanos (nanos : UInt32) (payload : Bytes) : Bytes :=
  Bytes.overwrite 20 (Bytes.le32 nanos) payload

/-- An initial time message that says nothing yet; the number of leap
seconds is given as unknown. -/
def blankTime : Bytes := [timeType, 0, 0, 0x80] ++ List.replicate 20 0

theorem length_overwrite {start : Nat} {fresh data : Bytes}
    (h : start + fresh.length ≤ data.length) :
    (Bytes.overwrite start fresh data).length = data.length := by
  simp only [Bytes.overwrite, List.length_append, List.length_take, List.length_drop]
  omega

theorem length_timeFields (t : Moment) : (timeFields t).length = 7 := rfl

theorem length_setTime {t : Moment} {payload : Bytes} (h : payload.length = timeLength) :
    (setTime t payload).length = timeLength := by
  have hf : (Bytes.overwrite 4 (timeFields t) payload).length = timeLength := by
    rw [length_overwrite, h]
    simp [h, length_timeFields, timeLength]
  rw [setTime, length_overwrite, hf]
  simp [hf, timeLength]

theorem length_setAccuracy {s : UInt16} {payload : Bytes} (h : payload.length = timeLength) :
    (setAccuracy s payload).length = timeLength := by
  rw [setAccuracy, length_overwrite, h]
  simp [h, timeLength]

theorem length_setAccuracyNanos {n : UInt32} {payload : Bytes} (h : payload.length = timeLength) :
    (setAccuracyNanos n payload).length = timeLength := by
  rw [setAccuracyNanos, length_overwrite, h]
  simp [h, timeLength]

theorem timeLength_fits {payload : Bytes} (h : payload.length = timeLength) :
    payload.length < 65536 := by rw [h]; decide

/-- The initial time message for an absolute adjustment. -/
def timeFrame (t : TimeAdjustment) : Except Failure Frame := do
  if t.mode ≠ .absolute then
    throw (.refused (.invalidArgument .initialTimeNotAbsolute))
  let m ← t.moment
  let nanos ← t.accNanos
  pure (.sealed MessageClass.mga MgaId.ini
    (setAccuracyNanos nanos (setAccuracy t.accSeconds (setTime m blankTime)))
    (timeLength_fits (length_setAccuracyNanos (length_setAccuracy (length_setTime rfl)))))

/-- The initial position message; altitude and accuracy go out in
centimetres, cut toward zero. -/
def positionFrame (p : Position) : Frame :=
  .sealed MessageClass.mga MgaId.ini
    ([positionType, 0, 0, 0] ++ Bytes.le32Signed p.latitude ++ Bytes.le32Signed p.longitude ++
      Bytes.le32Signed (p.altitude / 10) ++ Bytes.le32 (p.accuracy / 10)) (by
        simp only [List.length_append, Bytes.length_le32Signed, Bytes.length_le32, List.length_cons,
          List.length_nil]
        decide)

/-! ## A blob behind its initial messages -/

/-- `data` without an initial time message in front of it. -/
def withoutTime (data : Bytes) : Bytes :=
  match lead? data with
  | some (.time _ rest _) => rest
  | _ => data

/-- `data` behind a new initial time, and behind an initial position if one
is given. An initial time that leads `data` already is replaced. -/
def prepend (data : Bytes) (t : TimeAdjustment) (p : Option Position) : Except Failure Bytes := do
  let time ← timeFrame t
  let position := match p with
    | some p => (positionFrame p).bytes
    | none => []
  pure (time.bytes ++ position ++ withoutTime data)

/-- `data` behind a new initial time. -/
def prependTime (data : Bytes) (t : TimeAdjustment) : Except Failure Bytes := prepend data t none

/-- `data` behind an initial position. -/
def prependPosition (data : Bytes) (p : Position) : Bytes := (positionFrame p).bytes ++ data

end GnssAiding.Initial
