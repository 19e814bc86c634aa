/-
The query of the offline service. How long the data shall last comes from
one of three settings; `OfflineRequest.period` says which one counts.
-/
import GnssAiding.Request.Query

namespace GnssAiding

/-- The numbers of days that the legacy service delivers. -/
def legacyDays : List Nat := [1, 2, 3, 5, 7, 10, 14]

/-- The number of days delivered that is nearest to `days`, the larger one
of two. -/
def nearestLegacyDays (days : Nat) : Nat :=
  let distance (d : Nat) : Nat := (d - days) + (days - d)
  legacyDays.foldl (fun best d => if distance d ≤ distance best then d else best) 1

/-- The most days of data that can be asked for. -/
def maxDays : Nat := 35

/-- The days of data asked for when none are given. -/
def defaultDays : Nat := 28

/-- What to ask the offline service for. -/
structure OfflineRequest where
  token : String
  /-- Constellations to get orbit records for. -/
  gnss : GnssSelection
  /-- Constellations to get almanacs for. -/
  almanac : GnssSelection
  /-- A legacy file is wanted. -/
  legacyAiding : Bool
  days : Option Nat
  /-- Weeks of data, instead of days; the legacy service does not know them. -/
  weeks : Option Nat
  /-- Days from one record to the next. -/
  resolution : Option Nat
deriving DecidableEq, Repr

/-- How long the data lasts. -/
inductive Period
  | legacyDays (n : Nat)
  | weeks (n : Nat)
  | days (n : Nat)
deriving DecidableEq, Repr

def Period.parameters : Period → List String
  | legacyDays n => ["format=aid", "days=" ++ toString n]
  | weeks n => ["period=" ++ toString n]
  | days n => ["days=" ++ toString n]

namespace OfflineRequest

/-- The period that the settings ask for. -/
def period (r : OfflineRequest) : Period :=
  let days := r.days.getD defaultDays
  if r.legacyAiding then .legacyDays (nearestLegacyDays days)
  else
    match r.weeks with
    | some n => .weeks n
    | none => .days (max 1 (min days maxDays))

/-- The parameters behind the token, in their order. -/
def parameters (r : OfflineRequest) : List String :=
  Query.listParameter "gnss" r.gnss.names ++ Query.listParameter "alm" r.almanac.names ++
    r.period.parameters ++ (r.resolution.map fun n => "resolution=" ++ toString n).toList

def query (r : OfflineRequest) : Except Error String := Query.compose r.token r.parameters

end OfflineRequest

end GnssAiding
