/-
The transfer of a legacy file into the receiver's flash: a stop message that
resets the receiver, the blocks of the file, each a slice of it, a stop message
that closes the transfer.
-/
import GnssAiding.Flash.Transfer
import GnssAiding.Legacy.Message

namespace GnssAiding.Legacy

/-- The phase of a transfer. -/
inductive Phase
  | idle
  /-- The receiver is being reset. -/
  | starting
  /-- The blocks are being sent. -/
  | mainSequence
  /-- The transfer is being closed. -/
  | stopping
deriving DecidableEq, Repr

/-- A transfer of a legacy file. -/
structure Push where
  file : Bytes
  header : Header
  blocks : List Flash.Block
  /-- The index of the block that is on its way. -/
  current : Nat
  phase : Phase
  /-- How often the stop message of this phase was sent again. -/
  retries : Nat
  /-- The clock reading from which the answer to the stop message is overdue. -/
  deadline : Nat
deriving DecidableEq, Repr

namespace Push

/-- The transfer of a legacy file. -/
def ofFile (file : Bytes) : Except Error Push := do
  let header ← Header.parse file
  pure ⟨file, header, Flash.Block.cut file, 0, .idle, 0, 0⟩

/-- Replaces the current block. -/
def put (p : Push) (b : Flash.Block) : Push := { p with blocks := p.blocks.set p.current b }

def report (e : LegacyEvent) : Turn Unit := Turn.report (.legacy e)

/-- Sends the stop message. -/
def sendStop (c : Context) (p : Push) : Turn Push := do
  Turn.write stopFrame.bytes
  let deadline ← Turn.deadline c
  pure { p with deadline := deadline }

/-- Sends the current block. -/
def sendBlock (c : Context) (p : Push) : Turn Push := do
  let b ← Turn.check (Checked.get p.blocks p.current)
  match b.content with
  | .data .. => do
    let chunk ← Turn.check (b.bytesIn p.file)
    match Frame.build MessageClass.aid AidId.alp chunk with
    | .ok f => Turn.write f.bytes
    | .error _ => pure ()
  | .stop => pure ()
  let deadline ← Turn.deadline c
  let b : Flash.Block := { b with state := .waitingForAck, deadline := deadline }
  report (.flashBlockSent b.report)
  pure (p.put b)

/-- Enters a phase with the message that it begins with. -/
def enter (c : Context) (phase : Phase) (p : Push) : Turn Push := do
  let p : Push := { p with phase := phase, retries := 0 }
  match phase with
  | .idle => pure p
  | .starting => do
    report .startupStarted
    p.sendStop c
  | .mainSequence => do
    report .startupCompleted
    p.sendBlock c
  | .stopping => do
    report .finalizeStarted
    p.sendStop c

/-- Begins the transfer. -/
def start (c : Context) (p : Push) : Turn (Push × Step) := do
  Turn.report (.start p.blocks.length)
  let p ← p.enter c .starting
  pure (p, .running)

/-- The header of the file as the receiver has stored it. -/
def storedHeader (p : Push) : Header :=
  { p.header with size := UInt32.ofNat p.file.length, completed := 1 }

/-- Ends the transfer. -/
def finalize (p : Push) : Turn (Push × Step) := do
  report (.finalizeCompleted p.storedHeader)
  pure ({ p with header := p.storedHeader, phase := .idle }, .finished)

/-- Takes an answer to the current block. -/
def answerBlock (c : Context) (p : Push) (r : Reply) : Turn (Push × Step) := do
  let b ← Turn.check (Checked.get p.blocks p.current)
  match r with
  | .ack => do
    report (.flashBlockComplete b.report)
    let p : Push := { p.put { b with state := .received } with current := p.current + 1 }
    let p ← if p.current < p.blocks.length then p.sendBlock c else p.enter c .stopping
    pure (p, .running)
  | .nak => do
    report (.flashBlockFailed b.report)
    if c.settings.retries ≤ b.retries then
      pure (p.put { b with state := .failed }, .terminated .receiverNak)
    else
      let p ← (p.put { b with retries := b.retries + 1 }).sendBlock c
      pure (p, .running)

/-- Takes an answer from the receiver. Some receivers answer the reset with
a refusal, so any answer to it will do. -/
def answer (c : Context) (p : Push) (r : Reply) : Option (Turn (Push × Step)) :=
  match p.phase, r with
  | .idle, _ => none
  | .starting, _ => some do
    let p ← p.enter c .mainSequence
    pure (p, .running)
  | .mainSequence, r => some (p.answerBlock c r)
  | .stopping, .ack => some p.finalize
  | .stopping, .nak => some do
    report .finalizeFailed
    pure (p, .terminated .receiverNak)

/-- Takes a frame from the receiver, unless it is not for this transfer. -/
def receive (c : Context) (p : Push) (f : Frame) : Option (Turn (Push × Step)) :=
  match Reply.parse? f with
  | none => none
  | some r => p.answer c r

/-- Sends an overdue stop message again, or gives up with the event given. -/
def stopTimedOut (c : Context) (failed : LegacyEvent) (p : Push) : Turn (Push × Step) := do
  if p.retries < c.settings.retries then
    let p ← sendStop c { p with retries := p.retries + 1 }
    pure (p, .running)
  else
    report failed
    pure (p, .terminated .receiverNotResponding)

/-- Sees to the current block when it is overdue: nudges the receiver, sends
the block again, or gives up. -/
def blockTimedOut (c : Context) (p : Push) : Turn (Push × Step) := do
  let b ← Turn.check (Checked.get p.blocks p.current)
  if c.now < b.deadline then pure (p, .running)
  else
    match b.state with
    | .waitingForAck => do
      Turn.write Flash.nudge
      let deadline ← Turn.deadline c
      pure (p.put { b with state := .waitingForSecondChance, deadline := deadline }, .running)
    | .waitingForSecondChance =>
      if b.retries < c.settings.retries then do
        let p ← (p.put { b with state := .waitingForResend, retries := b.retries + 1 }).sendBlock c
        pure (p, .running)
      else pure (p.put { b with state := .failed }, .terminated .receiverNotResponding)
    | _ => pure (p, .running)

/-- Sees to what is overdue in the current phase. -/
def checkTimeouts (c : Context) (p : Push) : Turn (Push × Step) :=
  match p.phase with
  | .idle => pure (p, .running)
  | .starting =>
    if p.deadline ≤ c.now then p.stopTimedOut c .startupFailed else pure (p, .running)
  | .stopping =>
    if p.deadline ≤ c.now then p.stopTimedOut c .finalizeFailed else pure (p, .running)
  | .mainSequence => p.blockTimedOut c

end Push

end GnssAiding.Legacy
