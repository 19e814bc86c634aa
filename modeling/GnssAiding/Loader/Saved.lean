/-
The options that are saved for the next time, and the settings that a file
gives.
-/
import GnssAiding.Json.Form.Session
import GnssAiding.Json.Strict
import GnssAiding.Json.Writer
import GnssAiding.Json5.Reader
import GnssAiding.Loader.Options
import GnssAiding.Request.Query
import GnssAiding.Store.Tree

namespace GnssAiding.Loader

open Json Json.Decode Store

/-! ## Options as trees -/

namespace Mode

def ofJson? (j : Json Whole) : Option Mode := oneOf? strict (all.map fun m => (m.name, m)) j

def toJson (m : Mode) : Json Whole := .ofText m.name

end Mode

namespace Options

def memberNames : List String :=
  ["serial_port", "baud_rate", "timeout", "file", "mode", "date", "flow_config"]

/-- All options but the one to save them. -/
def toJson (o : Options) : Json Whole :=
  .ofMembers [("serial_port", .ofOption .ofText o.device), ("baud_rate", .ofNat o.baudRate),
    ("timeout", .ofNat o.timeout), ("file", .ofText o.file), ("mode", o.mode.toJson),
    ("date", .ofOption (fun d => .ofText d.text) o.date),
    ("flow_config", .ofOption .ofText o.settingsFile)]

def ofJson? (j : Json Whole) : Option Options := do
  match ← members? strict memberNames false j with
  | [device, baudRate, timeout, file, mode, date, settingsFile] =>
    some ⟨← nullable? text? device, ← required? (natural? strict 32) baudRate,
      ← required? (natural? strict 64) timeout, ← required? text? file,
      ← required? Mode.ofJson? mode, ← nullable? (fun j => (text? j).bind Date.parse?) date,
      ← nullable? text? settingsFile, false⟩
  | _ => none

/-! ## Saved options -/

/-- Where the options are saved, below the directory for such files. -/
def savedPath : List String := ["ublox_mga_loader", "config.json"]

/-- The options as they are saved. -/
def contents (o : Options) : Bytes := Query.utf8 o.toJson.write

/-- The options that the contents of a file give. -/
def ofContents (data : Bytes) : Except FileError Options :=
  match (Json.Strict.parse? data).bind ofJson? with
  | some o => .ok o
  | none => .error .other

/-- Saves the options. -/
def keep (o : Options) (root : Node) : Except FileError Node := do
  let root ← root.makeDirs savedPath.dropLast
  root.write o.contents savedPath

/-- The saved options. -/
def saved (root : Node) : Except FileError Options := do
  ofContents (← root.read savedPath)

end Options

/-! ## Settings from a file -/

/-- The settings that the contents of a file give. -/
def settingsOf (data : Bytes) : Except FileError Settings :=
  match ((String.fromUTF8? ⟨data.toArray⟩).bind Json5.parse?).bind
      (Settings.ofJson? Json5.relaxed) with
  | some s => .ok s
  | none => .error .invalidData

/-- The settings to use: those of the file named in the options, or the
standard ones. -/
def Options.settings (o : Options) (root : Node) : Except FileError Settings :=
  match o.settingsFile with
  | none => .ok .standard
  | some path => do settingsOf (← root.read (path.splitOn "/"))

end GnssAiding.Loader
