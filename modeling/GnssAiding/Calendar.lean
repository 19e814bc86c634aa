/-
The Gregorian calendar, carried back before its time and with a year 0, and
the time of day without leap seconds. A day is counted from 1970-01-01
(`Date.dayNumber`); the count starts each year in March, so that the leap
day is the last day of a year.
-/
namespace GnssAiding

/-- A day of a month of a year; `Date.Valid` says that it exists. -/
structure Date where
  year : Int
  month : Nat
  day : Nat
deriving DecidableEq, Repr

namespace Date

def isLeap (year : Int) : Bool :=
  decide (year % 4 = 0) && (decide (year % 100 ≠ 0) || decide (year % 400 = 0))

/-- Days in a month; months that do not exist have none. -/
def daysIn (year : Int) (month : Nat) : Nat :=
  match month with
  | 1 | 3 | 5 | 7 | 8 | 10 | 12 => 31
  | 4 | 6 | 9 | 11 => 30
  | 2 => if isLeap year then 29 else 28
  | _ => 0

/-- The years that dates are kept for. -/
def inRange (year : Int) : Prop := -262143 ≤ year ∧ year ≤ 262142

instance (year : Int) : Decidable (inRange year) := inferInstanceAs (Decidable (_ ∧ _))

/-- The date exists. -/
def Valid (d : Date) : Prop :=
  inRange d.year ∧ 1 ≤ d.day ∧ d.day ≤ daysIn d.year d.month

instance (d : Date) : Decidable d.Valid := inferInstanceAs (Decidable (_ ∧ _ ∧ _))

/-- The date with this year, month and day, if there is one. -/
def make? (year : Int) (month day : Nat) : Option Date :=
  let d : Date := ⟨year, month, day⟩
  if d.Valid then some d else none

/-- Days from 1970-01-01 to the date. -/
def dayNumber (d : Date) : Int :=
  let y := if d.month ≤ 2 then d.year - 1 else d.year
  let m : Int := if d.month ≤ 2 then d.month + 9 else d.month - 3
  let era := y / 400
  let yearOfEra := y % 400
  let dayOfYear := (153 * m + 2) / 5 + d.day - 1
  era * 146097 + yearOfEra * 365 + yearOfEra / 4 - yearOfEra / 100 + dayOfYear - 719468

/-- The date so many days after 1970-01-01. -/
def ofDayNumber (n : Int) : Date :=
  let z := n + 719468
  let era := z / 146097
  let dayOfEra := z % 146097
  let yearOfEra := (dayOfEra - dayOfEra / 1460 + dayOfEra / 36524 - dayOfEra / 146096) / 365
  let dayOfYear := dayOfEra - (365 * yearOfEra + yearOfEra / 4 - yearOfEra / 100)
  let m := (5 * dayOfYear + 2) / 153
  let month := if m < 10 then m + 3 else m - 9
  ⟨era * 400 + yearOfEra + (if month ≤ 2 then 1 else 0), month.toNat,
    (dayOfYear - (153 * m + 2) / 5 + 1).toNat⟩

end Date

/-- A date and a time of day. -/
structure Moment where
  date : Date
  hour : Nat
  minute : Nat
  second : Nat
deriving DecidableEq, Repr

namespace Moment

/-- The moment on a date at this time of day, if there is such a time. -/
def make? (date : Date) (hour minute second : Nat) : Option Moment :=
  if hour < 24 ∧ minute < 60 ∧ second < 60 then some ⟨date, hour, minute, second⟩ else none

/-- Seconds from the start of 1970 to the moment. -/
def seconds (t : Moment) : Int :=
  t.date.dayNumber * 86400 + t.hour * 3600 + t.minute * 60 + t.second

/-- The moment so many seconds after the start of 1970. -/
def ofSeconds (s : Int) : Moment :=
  let ofDay := (s % 86400).toNat
  ⟨.ofDayNumber (s / 86400), ofDay / 3600, ofDay / 60 % 60, ofDay % 60⟩

/-- The moment so many seconds later. -/
def addSeconds (t : Moment) (s : Int) : Moment := ofSeconds (t.seconds + s)

/-- Seconds between two moments, whichever is the earlier. -/
def distance (t u : Moment) : Nat := (t.seconds - u.seconds).natAbs

/-- The start of a day. -/
def midnight (d : Date) : Moment := ⟨d, 0, 0, 0⟩

end Moment

end GnssAiding
