/-
The transfer of the messages of a blob under one of the three disciplines.
Acknowledgements come in two forms: assistance messages are told by their id
and the head of their payload, legacy ones by their id alone.
-/
import GnssAiding.Transfer.AckFrame
import GnssAiding.Transfer.Queue

namespace GnssAiding

/-- A transfer of messages. -/
structure Transfer where
  queue : Queue
  discipline : Discipline
  /-- Bytes that may be on their way unacknowledged, where that counts. -/
  budget : Nat
deriving DecidableEq, Repr

namespace Transfer

def ofData (data : Bytes) (s : Settings) : Except Error Transfer := do
  let queue ← Queue.ofData data
  pure ⟨queue, s.discipline, s.budget⟩

/-- Sends what may be sent now that a message is done. -/
def proceed (c : Context) (t : Transfer) : Turn Transfer := do
  let queue ← match t.discipline with
    | .stopAndWait => t.queue.sendNext c 1
    | .unacknowledged => pure t.queue
    | .windowed => t.queue.fill c t.budget
  pure { t with queue := queue }

/-- Begins the transfer. -/
def start (c : Context) (t : Transfer) : Turn (Transfer × Step) := do
  Turn.report (.start t.queue.messages.length)
  if t.discipline.needsAcks then Turn.write c.settings.ackSetup.frame.bytes
  let t ← match t.discipline with
    | .unacknowledged => do
      let queue ← t.queue.broadcast c
      pure { t with queue := queue }
    | _ => t.proceed c
  pure (t, t.queue.step)

/-- What an assistance acknowledgement settles: the index of a message, and the reason if
it was refused. -/
def mgaVerdict (q : Queue) (p : Bytes) : Except Fault (Option (Nat × Option FailureReason)) :=
  if 8 ≤ p.length then do
    let id ← Checked.get p 3
    let head ← Checked.slice p 4 8
    match q.messages.findIdx? fun m => m.matchesAck id head with
    | none => pure none
    | some i =>
      let accepted ← Checked.get p 0
      if accepted = 1 then pure (some (i, none))
      else
        let code ← Checked.get p 2
        pure (some (i, some (.ofInfoCode code)))
  else pure none

/-- What a plain acknowledgement settles, which says `failure`. -/
def aidVerdict (q : Queue) (p : Bytes) (failure : Option FailureReason) :
    Except Fault (Option (Nat × Option FailureReason)) :=
  if 2 ≤ p.length then do
    let cls ← Checked.get p 0
    if cls = MessageClass.aid then
      let id ← Checked.get p 1
      pure ((q.messages.findIdx? fun m => m.matchesAidAck id).map fun i => (i, failure))
    else pure none
  else pure none

/-- What a frame from the receiver settles: the index of a message, and the
reason if it was refused. -/
def verdict (q : Queue) (f : Frame) : Except Fault (Option (Nat × Option FailureReason)) :=
  match f.kind? with
  | some .mgaAck => mgaVerdict q f.payload
  | some .ack => aidVerdict q f.payload none
  | some .nak => aidVerdict q f.payload (some .rejected)
  | _ => pure none

/-- Takes a frame from the receiver, unless it is not for this transfer. -/
def receive (c : Context) (t : Transfer) (f : Frame) : Option (Turn (Transfer × Step)) :=
  if t.discipline.needsAcks then
    match verdict t.queue f with
    | .error e => some (Turn.check (.error e))
    | .ok none => none
    | .ok (some (i, failure)) => some do
      let queue ← t.queue.resolve i failure
      let t ← Transfer.proceed c { t with queue := queue }
      pure (t, t.queue.step)
  else none

/-- Sends a message again that is overdue, or gives it up and goes on. -/
def timeOut (c : Context) (i : Nat) (t : Transfer) : Turn Transfer := do
  if t.discipline.needsAcks then
    let (queue, givenUp) ← t.queue.retry c i
    let t : Transfer := { t with queue := queue }
    if givenUp then t.proceed c else pure t
  else pure t

/-- Sees to the messages with these indices, until the transfer ends. -/
def sweep (c : Context) : List Nat → Transfer → Turn (Transfer × Step)
  | [], t => pure (t, t.queue.step)
  | i :: is, t => do
    let t ← t.timeOut c i
    if t.queue.step = .running then sweep c is t else pure (t, t.queue.step)

/-- Sees to the messages that are overdue. -/
def checkTimeouts (c : Context) (t : Transfer) : Turn (Transfer × Step) :=
  t.sweep c (t.queue.overdue c.now)

end Transfer

end GnssAiding
