/-
The messages of a transfer and what has become of them. The blob is kept, and
what goes out is read from it. Messages are taken up in order: `Queue.next`
counts those taken up, `Queue.sent` the first transmissions, `Queue.acked` those
that are done.
-/
import GnssAiding.Transfer.Turn

namespace GnssAiding

/-- Writes a message, as it stands in `data`, to the receiver and waits for its
acknowledgement. -/
def Message.transmit (c : Context) (data : Bytes) (m : Message) : Turn Message := do
  let bytes ← Turn.check (m.bytesIn data)
  Turn.write bytes
  let deadline ← Turn.deadline c
  let m : Message := { m with state := .waitingForAck, deadline := deadline }
  Turn.report (.messageSent m.report)
  pure m

/-- The message is waiting for an acknowledgement that should have come. -/
def Message.overdue (now : Nat) (m : Message) : Bool :=
  decide (m.state = .waitingForAck) && decide (m.deadline ≤ now)

/-- The messages of a transfer. -/
structure Queue where
  /-- The blob that the messages are in. -/
  data : Bytes
  messages : List Message
  next : Nat
  sent : Nat
  acked : Nat
deriving DecidableEq, Repr

namespace Queue

/-- The messages of a blob, none of them sent. -/
def ofData (data : Bytes) : Except Error Queue := do
  let messages ← Message.list data
  pure ⟨data, messages, 0, 0, 0⟩

/-- The messages that have not been taken up. -/
def unsent (q : Queue) : List Message := q.messages.drop q.next

/-- Messages acknowledged or given up. -/
def resolved (q : Queue) : Nat := q.messages.countP fun m => m.state.isDone

/-- The bytes of messages together. -/
def size : List Message → Nat
  | [] => 0
  | m :: ms => m.length + size ms

/-- The messages that are on their way unacknowledged. -/
def waiting (q : Queue) : List Message :=
  q.messages.filter fun m => decide (m.state = .waitingForAck)

/-- The bytes that are on their way unacknowledged. -/
def inFlight (q : Queue) : Nat := size q.waiting

/-- A transfer is finished when every message is done. -/
def step (q : Queue) : Step :=
  if q.acked = q.messages.length then .finished else .running

/-- Sends the next `n` messages, or as many as there are. -/
def sendNext (c : Context) (n : Nat) (q : Queue) : Turn Queue := do
  let due := q.unsent.take n
  let run ← due.mapM (Message.transmit c q.data)
  pure { q with
    messages := q.messages.take q.next ++ run ++ q.unsent.drop n
    next := q.next + due.length
    sent := q.sent + due.countP fun m => decide (m.state = .waitingToSend) }

/-- How many of the messages fit a budget of which `used` bytes are taken. A
message larger than the whole budget goes out alone. -/
def fitting (budget : Nat) : (used : Nat) → List Message → Nat
  | _, [] => 0
  | used, m :: ms =>
    if 0 < used ∧ budget < used + m.length then 0
    else fitting budget (used + m.length) ms + 1

/-- Sends as many messages as the budget allows. -/
def fill (c : Context) (budget : Nat) (q : Queue) : Turn Queue :=
  q.sendNext c (fitting budget q.inFlight q.unsent)

/-- Sends a message and takes it for received. -/
def sendBlindly (c : Context) (data : Bytes) (m : Message) : Turn Message := do
  let m ← m.transmit c data
  pure { m with state := .received }

/-- The same behind a pause, if the settings ask for one. -/
def sendPaced (c : Context) (data : Bytes) (m : Message) : Turn Message := do
  if 0 < c.settings.pacing then Turn.wait c.settings.pacing
  sendBlindly c data m

/-- Sends messages one behind the other, with pauses between them. -/
def sendTrain (c : Context) (data : Bytes) : List Message → Turn (List Message)
  | [] => pure []
  | m :: ms => do
    let m ← sendBlindly c data m
    let ms ← ms.mapM (sendPaced c data)
    pure (m :: ms)

/-- Sends all messages and waits for none. -/
def broadcast (c : Context) (q : Queue) : Turn Queue := do
  let due := q.unsent
  let run ← sendTrain c q.data due
  pure { q with
    messages := q.messages.take q.next ++ run
    next := q.next + due.length
    sent := q.sent + due.countP fun m => decide (m.state = .waitingToSend)
    acked := q.acked + due.length }

/-- Settles the message with index `i`. -/
def resolve (i : Nat) (failure : Option FailureReason) (q : Queue) : Turn Queue := do
  let m ← Turn.check (Checked.get q.messages i)
  let m : Message :=
    match failure with
    | none => { m with state := .received }
    | some reason => { m with state := .failed, failure := some reason }
  Turn.report (if failure.isNone then .messageComplete m.report else .messageFailed m.report)
  pure { q with messages := q.messages.set i m, acked := q.acked + 1 }

/-- Sends the message with index `i` again, or gives it up when it was sent
again as often as allowed; the answer says whether it was given up. -/
def retry (c : Context) (i : Nat) (q : Queue) : Turn (Queue × Bool) := do
  let m ← Turn.check (Checked.get q.messages i)
  if m.retries < c.settings.retries then
    let m : Message := { m with state := .waitingForResend, retries := m.retries + 1 }
    let m ← m.transmit c q.data
    pure ({ q with messages := q.messages.set i m }, false)
  else
    let q ← q.resolve i (some .tooManyRetries)
    pure (q, true)

/-- The indices of the messages that are overdue. -/
def overdue (now : Nat) (q : Queue) : List Nat :=
  q.messages.zipIdx.filterMap fun (m, i) => if m.overdue now then some i else none

end Queue

end GnssAiding
