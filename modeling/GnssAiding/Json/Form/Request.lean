/-
Requests to the download services as trees. Everything in a request has a
value to fall back on.
-/
import GnssAiding.Json.Form.Session
import GnssAiding.Request.Offline
import GnssAiding.Request.Online

namespace GnssAiding

open Json Json.Decode

namespace GnssSelection

def memberNames : List String := ["gps", "glonass", "qzss", "galileo", "beidou"]

def toJson (s : GnssSelection) : Json Whole :=
  .ofMembers [("gps", .bool s.gps), ("glonass", .bool s.glonass), ("qzss", .bool s.qzss),
    ("galileo", .bool s.galileo), ("beidou", .bool s.beidou)]

def ofJson? (j : Json Whole) : Option GnssSelection := do
  match ← members? strict memberNames true j with
  | [gps, glonass, qzss, galileo, beidou] =>
    some ⟨← orElse? false bool? gps, ← orElse? false bool? glonass, ← orElse? false bool? qzss,
      ← orElse? false bool? galileo, ← orElse? false bool? beidou⟩
  | _ => .none

end GnssSelection

namespace DataTypes

def memberNames : List String := ["ephemeris", "almanac", "aux", "position"]

def toJson (t : DataTypes) : Json Whole :=
  .ofMembers [("ephemeris", .bool t.ephemeris), ("almanac", .bool t.almanac),
    ("aux", .bool t.auxiliary), ("position", .bool t.position)]

def ofJson? (j : Json Whole) : Option DataTypes := do
  match ← members? strict memberNames true j with
  | [ephemeris, almanac, auxiliary, position] =>
    some ⟨← orElse? false bool? ephemeris, ← orElse? false bool? almanac,
      ← orElse? false bool? auxiliary, ← orElse? false bool? position⟩
  | _ => .none

end DataTypes

/-- A number that may be absent. -/
def maybeNatural? (m : Option (Json Whole)) : Option (Option Nat) :=
  orElse? none (optional? (natural? strict 32)) m

namespace OnlineRequest

def memberNames : List String :=
  ["token", "gnss", "data_types", "position", "filter_on_pos", "latency_ms", "time_accuracy_ms",
    "legacy_aiding"]

def toJson (r : OnlineRequest) : Json Whole :=
  .ofMembers [("token", .ofText r.token), ("gnss", r.gnss.toJson),
    ("data_types", r.dataTypes.toJson), ("position", .ofOption Position.toJson r.position),
    ("filter_on_pos", .bool r.filterOnPosition), ("latency_ms", .ofOption .ofNat r.latency),
    ("time_accuracy_ms", .ofOption .ofNat r.timeAccuracy),
    ("legacy_aiding", .bool r.legacyAiding)]

def ofJson? (j : Json Whole) : Option OnlineRequest := do
  match ← members? strict memberNames true j with
  | [token, gnss, dataTypes, position, filter, latency, timeAccuracy, legacy] =>
    some ⟨← orElse? "" text? token, ← orElse? .none GnssSelection.ofJson? gnss,
      ← orElse? .none DataTypes.ofJson? dataTypes,
      ← orElse? none (optional? Position.ofJson?) position, ← orElse? false bool? filter,
      ← maybeNatural? latency, ← maybeNatural? timeAccuracy, ← orElse? false bool? legacy⟩
  | _ => none

end OnlineRequest

namespace OfflineRequest

def memberNames : List String :=
  ["token", "gnss", "almanac", "legacy_aiding", "days", "period_weeks", "resolution_days"]

def toJson (r : OfflineRequest) : Json Whole :=
  .ofMembers [("token", .ofText r.token), ("gnss", r.gnss.toJson), ("almanac", r.almanac.toJson),
    ("legacy_aiding", .bool r.legacyAiding), ("days", .ofOption .ofNat r.days),
    ("period_weeks", .ofOption .ofNat r.weeks), ("resolution_days", .ofOption .ofNat r.resolution)]

def ofJson? (j : Json Whole) : Option OfflineRequest := do
  match ← members? strict memberNames true j with
  | [token, gnss, almanac, legacy, days, weeks, resolution] =>
    some ⟨← orElse? "" text? token, ← orElse? .none GnssSelection.ofJson? gnss,
      ← orElse? .none GnssSelection.ofJson? almanac, ← orElse? false bool? legacy,
      ← maybeNatural? days, ← maybeNatural? weeks, ← maybeNatural? resolution⟩
  | _ => none

end OfflineRequest

end GnssAiding
