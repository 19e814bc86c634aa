/-
What a session reports while it works: each event of a transfer, in order.
-/
import GnssAiding.Legacy.Header
import GnssAiding.Message.Basic

namespace GnssAiding

/-- Why a transfer ended early. -/
inductive TerminateReason
  | hostCancel
  | receiverNak
  | receiverNotResponding
  | protocolError
deriving DecidableEq, Repr

/-- What went wrong when the host fetched assistance data. -/
inductive ServiceProblem
  | cannotConnect
  | cannotGetData
deriving DecidableEq, Repr

/-- A message as it is reported. -/
structure MessageReport where
  sequence : Nat
  cls : UInt8
  id : UInt8
  head : Head
  retries : Nat
  failure : Option FailureReason
deriving DecidableEq, Repr

def Message.report (m : Message) : MessageReport :=
  ⟨m.sequence, m.frame.cls, m.frame.id, m.head, m.retries, m.failure⟩

/-- A block as it is reported. -/
structure BlockReport where
  sequence : UInt16
  /-- Bytes of data in the block. -/
  length : Nat
  retries : Nat
deriving DecidableEq, Repr

/-- Events of the legacy protocols. -/
inductive LegacyEvent
  | startupStarted
  | startupFailed
  | startupCompleted
  | flashBlockSent (block : BlockReport)
  | flashBlockFailed (block : BlockReport)
  | flashBlockComplete (block : BlockReport)
  | finalizeStarted
  | finalizeFailed
  /-- Carries the header of the file as it is stored now. -/
  | finalizeCompleted (header : Legacy.Header)
  | serverStarted (fileId : UInt16)
  | serverStopped
  | requestReceived (offset size : Nat)
  /-- `size` bytes were sent. -/
  | requestCompleted (offset size : Nat)
  /-- An update named another file than the one served. -/
  | requestFailedIdMismatch (fileId : UInt16)
  | updateReceived (offset size : Nat)
  /-- `size` bytes were written. -/
  | updateCompleted (offset size : Nat)
deriving DecidableEq, Repr

/-- Events of a session. -/
inductive Event
  /-- A transfer of so many messages or blocks has begun. -/
  | start (messages : Nat)
  | messageSent (message : MessageReport)
  | messageComplete (message : MessageReport)
  | messageFailed (message : MessageReport)
  | flashBlockSent (block : BlockReport)
  | flashBlockComplete (block : BlockReport)
  | flashBlockRetry (block : BlockReport)
  | finish
  | terminated (reason : TerminateReason)
  | serviceError (kind : ServiceProblem) (detail : String)
  | legacy (event : LegacyEvent)
deriving DecidableEq, Repr

/-- Whether the event ends a transfer. -/
def Event.isTerminal : Event → Bool
  | finish | terminated _ => true
  | _ => false

end GnssAiding
