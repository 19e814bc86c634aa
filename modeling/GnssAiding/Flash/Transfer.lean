/-
The transfer of orbit records into the receiver's flash, one block after the
other and a stop message behind the last. A block that is not acknowledged
in time is followed by a single zero byte, which makes a receiver answer
that has lost its place; only then is it sent again.
-/
import GnssAiding.Flash.Block
import GnssAiding.Offline
import GnssAiding.Transfer.Turn

namespace GnssAiding.Flash

/-- The byte that nudges a receiver. -/
def nudge : Bytes := [0x00]

/-- A transfer into flash. -/
structure Transfer where
  /-- The orbit records, of which the blocks are slices. -/
  data : Bytes
  /-- The blocks of data and the stop message. -/
  blocks : List Block
  /-- The index of the block that is on its way. -/
  current : Nat
deriving DecidableEq, Repr

namespace Transfer

/-- The transfer of the orbit records in offline data. -/
def ofData (data : Bytes) : Except Error Transfer := do
  let records ← Offline.records data
  pure ⟨records, Block.cut records ++ [.fresh .stop stopSequence], 0⟩

/-- Replaces the current block. -/
def put (t : Transfer) (b : Block) : Transfer :=
  { t with blocks := t.blocks.set t.current b }

/-- Sends the current block. -/
def sendCurrent (c : Context) (t : Transfer) : Turn Transfer := do
  let b ← Turn.check (Checked.get t.blocks t.current)
  match b.frame t.data with
  | .ok f => Turn.write f.bytes
  | .error (.refused _) => pure ()
  | .error (.fault e) => Turn.check (.error e)
  let deadline ← Turn.deadline c
  let b : Block := { b with state := .waitingForAck, deadline := deadline }
  match b.content with
  | .data .. => Turn.report (.flashBlockSent b.report)
  | .stop => pure ()
  pure (t.put b)

/-- Begins the transfer. -/
def start (c : Context) (t : Transfer) : Turn (Transfer × Step) := do
  Turn.report (.start (t.blocks.length - 1))
  let t ← t.sendCurrent c
  pure (t, .running)

/-- Sends the current block `b` again, which counts as one more retry. -/
def sendAgain (c : Context) (t : Transfer) (b : Block) : Turn Transfer := do
  let b : Block := { b with retries := b.retries + 1 }
  Turn.report (.flashBlockRetry b.report)
  (t.put b).sendCurrent c

/-- Takes an answer to the current block `b`. An acknowledgement of a stop
ends the transfer, whichever block is on its way; one of another block is
not for this transfer. A stop has the number of a stop, so its own
acknowledgement ends the transfer before its content is looked at. -/
def answer (c : Context) (t : Transfer) (b : Block) (r : Reply) :
    Option (Turn (Transfer × Step)) :=
  match r.verdict with
  | .accepted =>
    let done := t.put { b with state := .received }
    if r.sequence = stopSequence then some (pure (done, .finished))
    else if r.sequence = b.sequence then
      match b.content with
      | .stop => some (pure (done, .finished))
      | .data .. => some do
        Turn.report (.flashBlockComplete b.report)
        let t ← sendCurrent c { done with current := t.current + 1 }
        pure (t, .running)
    else none
  | .again =>
    some do
      if c.settings.retries ≤ b.retries then
        pure (t.put { b with state := .failed }, .terminated .receiverNak)
      else
        let t ← t.sendAgain c b
        pure (t, .running)
  | .abort => some (pure (t.put { b with state := .failed }, .terminated .receiverNak))
  | .unknown => some (pure (t.put { b with state := .failed }, .terminated .protocolError))

/-- Takes a frame from the receiver, unless it is not for this transfer. -/
def receive (c : Context) (t : Transfer) (f : Frame) : Option (Turn (Transfer × Step)) :=
  match Reply.read f with
  | .error e => some (Turn.check (.error e))
  | .ok none => none
  | .ok (some r) =>
    match Checked.get t.blocks t.current with
    | .error e => some (Turn.check (.error e))
    | .ok b => if b.awaiting then t.answer c b r else none

/-- Sees to the current block when it is overdue: nudges the receiver, sends
the block again, or gives up. -/
def checkTimeouts (c : Context) (t : Transfer) : Turn (Transfer × Step) := do
  let b ← Turn.check (Checked.get t.blocks t.current)
  if c.now < b.deadline then pure (t, .running)
  else
    match b.state with
    | .waitingForAck => do
      Turn.write nudge
      let deadline ← Turn.deadline c
      pure (t.put { b with state := .waitingForSecondChance, deadline := deadline }, .running)
    | .waitingForSecondChance =>
      if b.retries < c.settings.retries then do
        let t ← t.sendAgain c { b with state := .waitingForResend }
        pure (t, .running)
      else pure (t.put { b with state := .failed }, .terminated .receiverNotResponding)
    | _ => pure (t, .running)

end Transfer

end GnssAiding.Flash
