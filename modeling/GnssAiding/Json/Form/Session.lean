/-
Settings, times, positions and states as trees.
-/
import GnssAiding.Json.Form.Event
import GnssAiding.Session.Line

namespace GnssAiding

open Json Json.Decode

/-! ## Settings -/

namespace Discipline

def names : List (String × Discipline) :=
  [("Simple", stopAndWait), ("None", unacknowledged), ("Smart", windowed)]

def name : Discipline → String
  | stopAndWait => "Simple"
  | unacknowledged => "None"
  | windowed => "Smart"

def toJson (x : Discipline) : Json Whole := .ofText x.name

def ofJson? {ν : Type} (d : Dialect ν) (j : Json ν) : Option Discipline := oneOf? d names j

end Discipline

namespace AckSetup

def names : List (String × AckSetup) := [("Navx5", navx5), ("Valset", valset)]

def name : AckSetup → String
  | navx5 => "Navx5"
  | valset => "Valset"

def toJson (x : AckSetup) : Json Whole := .ofText x.name

def ofJson? {ν : Type} (d : Dialect ν) (j : Json ν) : Option AckSetup := oneOf? d names j

end AckSetup

namespace Settings

def memberNames : List String :=
  ["msg_timeout_ms", "msg_retry_count", "flow_control", "ack_config", "smart_budget", "pacing_ms"]

def toJson (s : Settings) : Json Whole :=
  .ofMembers [("msg_timeout_ms", .ofNat s.timeout), ("msg_retry_count", .ofNat s.retries),
    ("flow_control", s.discipline.toJson), ("ack_config", s.ackSetup.toJson),
    ("smart_budget", .ofNat s.budget), ("pacing_ms", .ofNat s.pacing)]

/-- What is not said is as in `Settings.standard`. -/
def ofJson? {ν : Type} (d : Dialect ν) (j : Json ν) : Option Settings := do
  match ← members? d memberNames true j with
  | [timeout, retries, discipline, ackSetup, budget, pacing] =>
    some ⟨← orElse? standard.timeout (natural? d 32) timeout,
      ← orElse? standard.retries (natural? d 32) retries,
      ← orElse? standard.discipline (Discipline.ofJson? d) discipline,
      ← orElse? standard.ackSetup (AckSetup.ofJson? d) ackSetup,
      ← orElse? standard.budget (natural? d 64) budget,
      ← orElse? standard.pacing (natural? d 32) pacing⟩
  | _ => none

end Settings

/-! ## Times and positions -/

namespace AdjustMode

def names : List (String × AdjustMode) := [("Absolute", absolute), ("Relative", relative)]

def name : AdjustMode → String
  | absolute => "Absolute"
  | relative => "Relative"

def toJson (x : AdjustMode) : Json Whole := .ofText x.name

def ofJson? (j : Json Whole) : Option AdjustMode := oneOf? strict names j

end AdjustMode

namespace TimeAdjustment

def memberNames : List String :=
  ["mode", "year", "month", "day", "hour", "minute", "second", "acc_s", "acc_ms"]

def toJson (t : TimeAdjustment) : Json Whole :=
  .ofMembers [("mode", t.mode.toJson), ("year", .ofNat t.year.toNat),
    ("month", byteJson t.month), ("day", byteJson t.day), ("hour", byteJson t.hour),
    ("minute", byteJson t.minute), ("second", byteJson t.second),
    ("acc_s", .ofNat t.accSeconds.toNat), ("acc_ms", .ofNat t.accMillis.toNat)]

def ofJson? (j : Json Whole) : Option TimeAdjustment := do
  match ← members? strict memberNames false j with
  | [mode, year, month, day, hour, minute, second, accSeconds, accMillis] =>
    some ⟨← required? AdjustMode.ofJson? mode, ← required? word? year, ← required? byte? month,
      ← required? byte? day, ← required? byte? hour, ← required? byte? minute,
      ← required? byte? second, ← required? word? accSeconds, ← required? word? accMillis⟩
  | _ => none

end TimeAdjustment

namespace Position

def memberNames : List String := ["lat_x1e7", "lon_x1e7", "alt_mm", "acc_mm"]

def toJson (p : Position) : Json Whole :=
  .ofMembers [("lat_x1e7", .ofInt p.latitude.toInt), ("lon_x1e7", .ofInt p.longitude.toInt),
    ("alt_mm", .ofInt p.altitude.toInt), ("acc_mm", .ofNat p.accuracy.toNat)]

def ofJson? (j : Json Whole) : Option Position := do
  match ← members? strict memberNames false j with
  | [latitude, longitude, altitude, accuracy] =>
    some ⟨← required? signedLong? latitude, ← required? signedLong? longitude,
      ← required? signedLong? altitude, ← required? long? accuracy⟩
  | _ => none

end Position

/-! ## States -/

namespace SessionState

def names : List (String × SessionState) :=
  [("Idle", idle), ("ActiveWaitingForData", waitingForData), ("ActiveProcessingData", processing)]

def name : SessionState → String
  | idle => "Idle"
  | waitingForData => "ActiveWaitingForData"
  | processing => "ActiveProcessingData"

def toJson (x : SessionState) : Json Whole := .ofText x.name

def ofJson? (j : Json Whole) : Option SessionState := oneOf? strict names j

end SessionState

namespace Legacy.Phase

def names : List (String × Phase) :=
  [("Idle", idle), ("Starting", starting), ("MainSeq", mainSequence), ("Stopping", stopping)]

def name : Phase → String
  | idle => "Idle"
  | starting => "Starting"
  | mainSequence => "MainSeq"
  | stopping => "Stopping"

def toJson (x : Phase) : Json Whole := .ofText x.name

def ofJson? (j : Json Whole) : Option Phase := oneOf? strict names j

end Legacy.Phase

end GnssAiding
