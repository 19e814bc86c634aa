/-
The loader as a program. It reads the command line, takes assistance data
from a file and runs a session over a serial device. The device is set up
outside, to its speed and so that reading gives up after a while: a read
that gives nothing is a pause of the receiver, in which time-outs are looked
for. What is sent, said and saved is decided elsewhere; here it is done.
-/
import GnssAiding.Frame.Reassembler
import GnssAiding.Loader.Call
import GnssAiding.Loader.Display
import GnssAiding.Loader.Saved
import GnssAiding.Snapshot
import GnssAiding.Store.File
import Std.Time.Format

namespace GnssAiding.Loader

/-- Ends the program with a message. -/
def stopWith {α} (message : String) : IO α := throw (IO.userError message)

/-- The value, or the end of the program. -/
def orStop {ε α} (message : ε → String) : Except ε α → IO α
  | .ok a => pure a
  | .error e => stopWith (message e)

/-! ## Files -/

/-- The directory with the saved options. -/
def savedDirectory : IO String := do
  match ← IO.getEnv "XDG_CONFIG_HOME", ← IO.getEnv "HOME" with
  | some dir, _ => pure dir
  | none, some home => pure (home ++ "/.config")
  | none, none => pure "."

def readFile (path : String) : IO Bytes := do
  pure (← IO.FS.readBinFile path).toList

def writeFile (path : String) (data : Bytes) : IO Unit := IO.FS.writeBinFile path ⟨data.toArray⟩

/-- The data in a file of assistance data. -/
def loadData (path : String) : IO Bytes := do
  orStop Store.FileError.message ((Store.Path.kind path).decode (← readFile path))

def storeData (path : String) (data : Bytes) : IO Unit := do
  writeFile path ((Store.Path.kind path).encode data)

def loadOptions : IO Options := do
  let path := "/".intercalate ((← savedDirectory) :: Options.savedPath)
  orStop Store.FileError.message (Options.ofContents (← readFile path))

def storeOptions (o : Options) : IO Unit := do
  let dir := "/".intercalate ((← savedDirectory) :: Options.savedPath.dropLast)
  IO.FS.createDirAll dir
  writeFile ("/".intercalate ((← savedDirectory) :: Options.savedPath)) o.contents

/-- The settings of the file named in the options, or the standard ones. -/
def loadSettings (o : Options) : IO Settings := do
  match o.settingsFile with
  | none => pure .standard
  | some path => orStop Store.FileError.message (settingsOf (← readFile path))

/-! ## The device -/

/-- A serial device, open for both ways. -/
structure Device where
  input : IO.FS.Handle
  output : IO.FS.Handle

/-- The most bytes taken from the device at a time. -/
def chunkSize : USize := 1024

def Device.ofPath (path : String) : IO Device := do
  pure ⟨← IO.FS.Handle.mk path .read, ← IO.FS.Handle.mk path .append⟩

def Device.write (dev : Device) (data : Bytes) : IO Unit := do
  dev.output.write ⟨data.toArray⟩
  dev.output.flush

def Device.read (dev : Device) : IO Bytes := do
  pure (← dev.input.read chunkSize).toList

/-! ## A session -/

/-- A session at work, and what its user has been told. -/
structure Bench where
  session : Session
  tally : Tally
  /-- The transfer has ended. -/
  ended : Bool

/-- Does what a call asks of the host. A write that fails is lost, as on a
bad line, and is sent again when no acknowledgement comes. -/
def Bench.act (dev : Device) (b : Bench) : Action → IO Bench
  | .write data => do
    try dev.write data catch e => IO.eprintln e
    pure b
  | .wait millis => do
    IO.sleep (UInt32.ofNat millis)
    pure b
  | .report e => do
    let tally := b.tally.push e
    IO.print (tally.said e)
    (← IO.getStdout).flush
    pure { b with tally := tally, ended := b.ended || e.isTerminal }

/-- Makes a call. -/
def Bench.call (dev : Device) (b : Bench) (c : Session.Call) : IO Bench := do
  let o := b.session.perform (← IO.monoMsNow) c
  let b ← o.actions.foldlM (Bench.act dev) b
  let _ ← orStop Failure.message o.result
  pure { b with session := o.session }

/-- Runs a session until its transfer has ended. The file of a server is
saved whenever the receiver has changed it. -/
partial def Bench.run (dev : Device) (file : String) (saved : Bytes) (r : Reassembler) (b : Bench) :
    IO Unit := do
  if b.ended then return
  let (frames, r) := r.push (← dev.read)
  let b ← frames.foldlM (fun b f => b.call dev (.receive f.bytes)) b
  let b ← b.call dev .checkTimeouts
  match changedFile? saved b.session with
  | none => b.run dev file saved r
  | some data => do
    storeData file data
    b.run dev file data r

/-! ## A snapshot -/

/-- Milliseconds without a message after which a snapshot is given up. -/
def snapshotPause : Nat := 10000

/-- Collects a snapshot; `last` is when a message of it came last. -/
partial def collectSnapshot (dev : Device) (c : Snapshot.Collector) (r : Reassembler) (last : Nat) :
    IO Bytes := do
  if c.complete then return c.data
  let now ← IO.monoMsNow
  if last + snapshotPause < now then stopWith "Receiver stopped sending its database"
  let (frames, r) := r.push (← dev.read)
  let (c, last) ← frames.foldlM (fun (c, last) f => do
    let (result, c) := Snapshot.Collector.push c f.bytes
    let status ← orStop Failure.message result
    pure (c, if status = .ignored then last else now)) (c, last)
  collectSnapshot dev c r last

/-! ## The program -/

/-- The time of the host. -/
def hostTime : IO Moment := do
  pure (.ofSeconds (← Std.Time.Timestamp.now).toSecondsSinceUnixEpoch.val)

/-- Does what the mode says. -/
def work (o : Options) (dev : Device) : IO Unit := do
  if o.mode = .database then
    dev.write Snapshot.pollFrame.bytes
    let data ← collectSnapshot dev .empty .empty (← IO.monoMsNow)
    storeData o.file data
  else
    let b : Bench := ⟨.fresh, .empty, false⟩
    let b ← b.call dev (.configure (← loadSettings o))
    if o.mode = .erase then
      let _ ← b.call dev .eraseFlash
    else
      let data ← loadData o.file
      let now ← hostTime
      let fileId := UInt16.ofNat (← IO.rand 0 65535)
      match ← orStop Error.message (o.mode.call? (o.day now) now fileId data) with
      | none => pure ()
      | some c =>
        let b ← b.call dev .start
        let b ← b.call dev c
        b.run dev o.file data .empty

/-- Runs the loader with the options of a command line. -/
def runWith (o : Options) : IO Unit := do
  let o ← if o.device.isSome then pure o else loadOptions
  if o.save then storeOptions o
  match o.device with
  | none => stopWith "No serial port configured"
  | some path => work o (← Device.ofPath path)

end GnssAiding.Loader

/-- The loader, from the command line. -/
def main (args : List String) : IO UInt32 := do
  match GnssAiding.Loader.Options.ofArguments args with
  | .error .help => do
    IO.print GnssAiding.Loader.Options.usage
    pure 0
  | .error .invalid => do
    IO.eprint GnssAiding.Loader.Options.usage
    pure 1
  | .ok o =>
    try
      GnssAiding.Loader.runWith o
      pure 0
    catch e =>
      IO.eprintln e
      pure 1
