/-
What a session can be busy with.
-/
import GnssAiding.Initial.Adjust
import GnssAiding.Legacy.Push
import GnssAiding.Legacy.Server
import GnssAiding.Snapshot
import GnssAiding.Transfer.Basic

namespace GnssAiding

/-- The work that a session does. -/
inductive Job
  | none
  /-- Messages go to the receiver. -/
  | messages (transfer : Transfer)
  /-- Orbit records go into the receiver's flash. -/
  | flash (transfer : Flash.Transfer)
  /-- A legacy file goes into the receiver's flash. -/
  | legacyFlash (push : Legacy.Push)
  /-- A legacy file is served. -/
  | server (server : Legacy.Server)
deriving DecidableEq, Repr

namespace Job

/-- Begins the job; no job is finished at once. -/
def start (c : Context) : Job → Turn (Job × Step)
  | none => pure (none, .finished)
  | messages t => do
    let (t, step) ← t.start c
    pure (messages t, step)
  | flash t => do
    let (t, step) ← t.start c
    pure (flash t, step)
  | legacyFlash p => do
    let (p, step) ← p.start c
    pure (legacyFlash p, step)
  | server s => do
    let (s, step) ← s.start
    pure (server s, step)

/-- Takes a frame from the receiver, unless it is not for this job. -/
def receive (c : Context) (job : Job) (f : Frame) : Option (Turn (Job × Step)) :=
  match job with
  | none => .none
  | messages t => (t.receive c f).map fun turn => do
    let (t, step) ← turn
    pure (messages t, step)
  | flash t => (t.receive c f).map fun turn => do
    let (t, step) ← turn
    pure (flash t, step)
  | legacyFlash p => (p.receive c f).map fun turn => do
    let (p, step) ← turn
    pure (legacyFlash p, step)
  | server s => (s.receive f).map fun turn => do
    let (s, step) ← turn
    pure (server s, step)

/-- Sees to what is overdue; a server waits for nothing. -/
def checkTimeouts (c : Context) : Job → Turn (Job × Step)
  | none => pure (none, .running)
  | messages t => do
    let (t, step) ← t.checkTimeouts c
    pure (messages t, step)
  | flash t => do
    let (t, step) ← t.checkTimeouts c
    pure (flash t, step)
  | legacyFlash p => do
    let (p, step) ← p.checkTimeouts c
    pure (legacyFlash p, step)
  | server s => pure (server s, .running)

/-- The phase of the transfer of a legacy file. -/
def legacyPhase : Job → Legacy.Phase
  | legacyFlash p => p.phase
  | _ => .idle

/-! ## The jobs that data makes -/

/-- The largest blob that a session takes. -/
def maxBlob : Nat := 1000000

def checkSize (data : Bytes) : Except Error Unit :=
  if maxBlob < data.length then .error .badData else .ok ()

/-- Sends online data, with a new time in its leading message if one is given. -/
def ofOnline (s : Settings) (data : Bytes) (time : Option TimeAdjustment) :
    Except Failure Job := do
  checkSize data
  let data ← match time with
    | some t => Initial.adjust data t
    | .none => pure data
  let t ← Transfer.ofData data s
  pure (messages t)

/-- Sends offline data behind the time, and behind the position if it is known. -/
def ofOffline (s : Settings) (data : Bytes) (time : TimeAdjustment) (position : Option Position) :
    Except Failure Job := do
  checkSize data
  let data ← Initial.prepend data time position
  let t ← Transfer.ofData data s
  pure (messages t)

/-- Stores the orbit records of offline data in flash. -/
def toFlash (data : Bytes) : Except Failure Job := do
  checkSize data
  let t ← Flash.Transfer.ofData data
  pure (flash t)

/-- Stores a legacy file in flash. -/
def legacyToFlash (data : Bytes) : Except Failure Job := do
  checkSize data
  let p ← Legacy.Push.ofFile data
  pure (legacyFlash p)

/-- Restores a snapshot of the navigation data base. -/
def ofSnapshot (s : Settings) (data : Bytes) : Except Failure Job := do
  checkSize data
  Snapshot.validate data
  let t ← Transfer.ofData data s
  pure (messages t)

/-- Serves a legacy file under an id. -/
def serve (data : Bytes) (fileId : UInt16) : Except Failure Job := do
  checkSize data
  let s ← Legacy.Server.ofFile data fileId
  pure (server s)

end Job

end GnssAiding
