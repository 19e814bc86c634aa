/-
Parts of offline assistance data: the almanacs, the orbit records, or what
one day needs of both. Every part is a selection of the undamaged frames of
the data, in order and unchanged.
-/
import GnssAiding.Calendar
import GnssAiding.Frame.Stream

namespace GnssAiding.Offline

/-- The time that an orbit record is for; it is given to the hour. -/
def recordTime? (f : Frame) : Option Moment :=
  if f.kind? = some .mgaAno ∧ 8 ≤ f.payload.length then
    let byte (i : Nat) : Nat := (f.payload.getD i 0).toNat
    (Date.make? (byte 4 + 2000 : Nat) (byte 5) (byte 6)).bind fun d => Moment.make? d (byte 7) 0 0
  else none

def isAlmanac (f : Frame) : Bool := f.kind?.any Kind.isAlmanac

def isRecord (f : Frame) : Bool := f.kind? == some .mgaAno

/-- The undamaged frames of a clean stream that satisfy `want`, one behind
the other. -/
def select (want : Frame → Bool) (data : Bytes) : Except Error Bytes := do
  let located ← Stream.frames data
  match (located.map (·.frame)).filter fun f => f.intact && want f with
  | [] => .error .noDataToSend
  | fs => .ok (fs.flatMap Frame.bytes)

/-- The almanacs. -/
def almanacs (data : Bytes) : Except Error Bytes := select isAlmanac data

/-- The orbit records. -/
def records (data : Bytes) : Except Error Bytes := select isRecord data

/-- The time nearest to `wanted`, the first of several. -/
def nearest? (wanted : Moment) (times : List Moment) : Option Moment :=
  times.foldl (fun best t =>
    match best with
    | none => some t
    | some b => if t.distance wanted < b.distance wanted then some t else some b) none

/-- Whether a frame is needed on the day of `target`. -/
def neededOn (target : Option Moment) (f : Frame) : Bool :=
  isAlmanac f ||
    match recordTime? f, target with
    | some t, some target => t.date == target.date
    | _, _ => false

/-- The almanacs and the orbit records of `date`. Where no record is for
that date, the records of the date nearest to its midnight stand in; the
search for that date looks at damaged records too. -/
def day (date : Date) (data : Bytes) : Except Error Bytes := do
  let located ← Stream.frames data
  let times := located.filterMap fun l => recordTime? l.frame
  select (neededOn (nearest? (.midnight date) times)) data

end GnssAiding.Offline
