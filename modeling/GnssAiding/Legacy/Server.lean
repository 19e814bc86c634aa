/-
Serves a legacy file to a receiver that asks for it slice by slice, and
takes the receiver's changes to it. Offsets and sizes on the wire count
words of two bytes.
-/
import GnssAiding.Legacy.Message
import GnssAiding.Transfer.Turn

namespace GnssAiding.Legacy

/-- A file that is served. -/
structure Server where
  file : Bytes
  fileId : UInt16
deriving DecidableEq, Repr

namespace Server

/-- The type of a message that changes the file. -/
def updateType : UInt8 := 0xFF

/-- The least length of a request. -/
def requestLength : Nat := 10

/-- The longest payload of a frame. -/
def maxPayload : Nat := 65535

def report (e : LegacyEvent) : Turn Unit := Turn.report (.legacy e)

/-- The word at byte `i` of a payload. -/
def wordAt (payload : Bytes) (i : Nat) : Except Fault UInt16 := do
  let b0 ← Checked.get payload i
  let b1 ← Checked.get payload (i + 1)
  pure (Bytes.read16 b0 b1)

/-- Serves a file under an id. -/
def ofFile (file : Bytes) (fileId : UInt16) : Except Error Server := do
  let _ ← Header.parse file
  pure ⟨file, fileId⟩

/-- Switches the requests on. -/
def start (s : Server) : Turn (Server × Step) := do
  Turn.write (requestRateFrame true).bytes
  report (.serverStarted s.fileId)
  pure (s, .running)

/-- Switches the requests off and hands the file back. -/
def stop (s : Server) : Turn Bytes := do
  Turn.write (requestRateFrame false).bytes
  report .serverStopped
  pure s.file

/-- What a request asks for: the offset and the size in bytes. -/
def asked (p : Bytes) : Except Fault (Nat × Nat) := do
  let offset ← wordAt p 2
  let size ← wordAt p 4
  pure (offset.toNat * 2, size.toNat * 2)

/-- The payload that answers a request: as much of the request as its first
byte says, with the file id and the number of bytes served filled in, and
the bytes themselves. -/
def answer (s : Server) (p : Bytes) (offset size : Nat) : Except Fault (Bytes × Nat) := do
  let said ← Checked.get p 0
  let echoed ← Checked.clamp requestLength p.length said.toNat
  let room ← Checked.sub maxPayload echoed
  let first := min offset s.file.length
  let last := min (offset + min size room) s.file.length
  let served ← Checked.sub last first
  let head ← Checked.slice p 0 echoed
  let head ← Checked.splice 6 (Bytes.le16 s.fileId) head
  let head ← Checked.splice 8 (Bytes.le16 (UInt16.ofNat served)) head
  let data ← Checked.slice s.file first last
  pure (head ++ data, served)

/-- Answers a request. -/
def respond (s : Server) (p : Bytes) : Turn Unit := do
  let (offset, size) ← Turn.check (asked p)
  report (.requestReceived offset size)
  let (payload, served) ← Turn.check (s.answer p offset size)
  match Frame.build MessageClass.aid AidId.alpsrv payload with
  | .ok f => do
    Turn.write f.bytes
    report (.requestCompleted offset served)
  | .error _ => pure ()

/-- The file after a change, and how many bytes were written. What would
reach beyond the end of the file is dropped. -/
def changed (s : Server) (p : Bytes) (offset size : Nat) : Except Fault (Bytes × Nat) := do
  let given ← Checked.slice p 8 p.length
  let first := min offset s.file.length
  let last := min (offset + min size given.length) s.file.length
  let count ← Checked.sub last first
  let fresh ← Checked.slice given 0 count
  let file ← Checked.splice first fresh s.file
  pure (file, count)

/-- Takes a change to the file, unless it is for another file. -/
def update (s : Server) (p : Bytes) : Turn Server := do
  let (offset, size) ← Turn.check (asked p)
  let fileId ← Turn.check (wordAt p 6)
  if fileId ≠ s.fileId then
    report (.requestFailedIdMismatch fileId)
    pure s
  else
    report (.updateReceived offset size)
    let (file, count) ← Turn.check (s.changed p offset size)
    report (.updateCompleted offset count)
    pure { s with file := file }

/-- Takes a frame from the receiver, unless it is no request. -/
def receive (s : Server) (f : Frame) : Option (Turn (Server × Step)) :=
  if f.kind? = some .aidAlpsrv ∧ requestLength ≤ f.payload.length then
    some do
      let type ← Turn.check (Checked.get f.payload 1)
      if type = updateType then
        let s ← s.update f.payload
        pure (s, .running)
      else
        s.respond f.payload
        pure (s, .running)
  else none

end Server

end GnssAiding.Legacy
