/-
The query of the online service.
-/
import GnssAiding.Initial.Adjustment
import GnssAiding.Request.FixedPoint
import GnssAiding.Request.Query

namespace GnssAiding

/-- Kinds of online data. -/
structure DataTypes where
  ephemeris : Bool
  almanac : Bool
  /-- Ionosphere, UTC and health. -/
  auxiliary : Bool
  /-- The rough position that the server supposes. -/
  position : Bool
deriving DecidableEq, Repr

namespace DataTypes

def none : DataTypes := ⟨false, false, false, false⟩

def names (t : DataTypes) : List String :=
  [(t.ephemeris, "eph"), (t.almanac, "alm"), (t.auxiliary, "aux"),
    (t.position, "pos")].filterMap fun (on, name) => if on then some name else .none

end DataTypes

/-- What to ask the online service for. -/
structure OnlineRequest where
  token : String
  gnss : GnssSelection
  dataTypes : DataTypes
  position : Option Position
  /-- Only what is visible from the position. -/
  filterOnPosition : Bool
  /-- Milliseconds until the data will reach the receiver. -/
  latency : Option Nat
  /-- Accuracy of the receiver's time in milliseconds. -/
  timeAccuracy : Option Nat
  /-- Legacy messages are wanted. -/
  legacyAiding : Bool
deriving DecidableEq, Repr

namespace OnlineRequest

/-- A parameter whose value has so many decimals. -/
def fixed (key : String) (value : Int) (decimals : Nat) : String :=
  key ++ "=" ++ FixedPoint.text value decimals

def positionParameters (p : Position) : List String :=
  [fixed "lat" p.latitude.toInt 7, fixed "lon" p.longitude.toInt 7, fixed "alt" p.altitude.toInt 3,
    fixed "pacc" p.accuracy.toNat 3]

/-- The parameters behind the token, in their order. -/
def parameters (r : OnlineRequest) : List String :=
  Query.listParameter "gnss" r.gnss.names ++
    Query.listParameter "datatype" r.dataTypes.names ++
    (r.position.map positionParameters).getD [] ++
    (if r.filterOnPosition then ["filteronpos"] else []) ++
    (r.latency.map fun n => fixed "latency" n 3).toList ++
    (r.timeAccuracy.map fun n => fixed "tacc" n 3).toList ++
    (if r.legacyAiding then ["format=aid"] else [])

def query (r : OnlineRequest) : Except Error String := Query.compose r.token r.parameters

end OnlineRequest

end GnssAiding
