/-
The options of the loader and how they are given on the command line.
-/
import GnssAiding.Loader.Mode
import GnssAiding.Text.Date

namespace GnssAiding.Loader

/-- The options of the loader. -/
structure Options where
  /-- The serial device; without one the saved options are used. -/
  device : Option String
  baudRate : Nat
  /-- Milliseconds to wait for bytes from the receiver. -/
  timeout : Nat
  /-- The file of assistance data. -/
  file : String
  mode : Mode
  /-- The day to pick offline data for, today if absent. -/
  date : Option Date
  /-- The file with the settings of transfers. -/
  settingsFile : Option String
  /-- Save the options. -/
  save : Bool
deriving DecidableEq, Repr

def Options.standard : Options := ⟨none, 115200, 100, "mga.ubx", .online, none, none, false⟩

/-- Why a command line gives no options. -/
inductive Exit
  /-- Help was asked for. -/
  | help
  /-- The command line is not understood. -/
  | invalid
deriving DecidableEq, Repr

namespace Options

/-- The options that take a value. -/
inductive Key
  | baudRate
  | timeout
  | file
  | mode
  | date
  | settingsFile
deriving DecidableEq, Repr

def Key.ofArgument? : String → Option Key
  | "--baud-rate" => some .baudRate
  | "--timeout" => some .timeout
  | "--file" => some .file
  | "--mode" => some .mode
  | "--date" => some .date
  | "--flow-config" => some .settingsFile
  | _ => none

/-- Sets an option from its value. -/
def set (o : Options) (key : Key) (value : String) : Option Options :=
  match key with
  | .baudRate => (Text.unsigned? 32 value).map fun n => { o with baudRate := n }
  | .timeout => (Text.unsigned? 64 value).map fun n => { o with timeout := n }
  | .file => some { o with file := value }
  | .mode => (Mode.ofName? value).map fun m => { o with mode := m }
  | .date => (Date.parse? value).map fun d => { o with date := some d }
  | .settingsFile => some { o with settingsFile := some value }

/-- How far a command line has been read. -/
structure Reading where
  options : Options
  /-- The options that have been given a value. -/
  given : List Key
  helpAsked : Bool
  /-- Everything that follows is a name, not an option. -/
  namesOnly : Bool
deriving DecidableEq, Repr

/-- Takes a name, of which there may be one. -/
def Reading.takeName (r : Reading) (name : String) : Option Reading :=
  if r.options.device.isSome then none
  else some { r with options := { r.options with device := some name } }

/-- Takes an option with its value; it must not be given twice. -/
def Reading.takeValue (r : Reading) (key : Key) (value : String) : Option Reading :=
  if r.given.contains key then none
  else (r.options.set key value).map fun o => { r with options := o, given := key :: r.given }

/-- Reads the arguments one after the other. The value of an option is the
argument behind it, whatever that looks like. -/
def Reading.run (r : Reading) : List String → Option Reading
  | [] => some r
  | arg :: rest =>
    if r.namesOnly then do run (← r.takeName arg) rest
    else if arg = "--help" ∨ arg = "help" then run { r with helpAsked := true } rest
    else if arg = "--" then run { r with namesOnly := true } rest
    else if arg.startsWith "-" then
      if r.helpAsked then none
      else if arg = "--save-config" then
        run { r with options := { r.options with save := true } } rest
      else
        match Key.ofArgument? arg, rest with
        | some key, value :: rest => do run (← r.takeValue key value) rest
        | _, _ => none
    else do run (← r.takeName arg) rest

/-- The options that a command line gives. -/
def ofArguments (args : List String) : Except Exit Options :=
  match Reading.run ⟨standard, [], false, false⟩ args with
  | none => .error .invalid
  | some r => if r.helpAsked then .error .help else .ok r.options

/-- How the command line is written. -/
def usage : String := "\n".intercalate
  ["Usage: [<serial_port>] [--baud-rate <n>] [--timeout <ms>] [--file <file>] [--mode <mode>]",
    "       [--date <date>] [--flow-config <file>] [--save-config]",
    "",
    "Load AssistNow data into a u-blox receiver",
    "",
    "  serial_port       serial device, the saved configuration is used if omitted",
    "  --baud-rate       baud rate",
    "  --timeout         serial read timeout in milliseconds",
    "  --file            assistance data file, gzip-compressed if it ends in .gz",
    "  --mode            " ++ ", ".intercalate (Mode.all.map Mode.name),
    "  --date            UTC date to pick offline data for, today if omitted",
    "  --flow-config     JSON5 file with flow control settings",
    "  --save-config     save these options as the defaults",
    "  --help            display usage information",
    ""]

end Options

end GnssAiding.Loader
