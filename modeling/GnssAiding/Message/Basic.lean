/-
One message of an assistance blob on its way to the receiver: the frame
itself, where it stood in the blob, and how far its transfer has come.
-/
import GnssAiding.Frame.Stream

namespace GnssAiding

/-- How far the transfer of a message or of a flash block has come. -/
inductive Progress
  | waitingToSend
  | waitingForAck
  /-- The acknowledgement is overdue and the message about to be sent again. -/
  | waitingForResend
  | received
  | failed
  /-- The acknowledgement was overdue once and the receiver was nudged. -/
  | waitingForSecondChance
deriving DecidableEq, Repr

/-- Nothing more will happen. -/
def Progress.isDone : Progress → Bool
  | received | failed => true
  | _ => false

/-- Why a message was not transferred. -/
inductive FailureReason
  | notSet
  | noTime
  | versionNotSupported
  | sizeVersionMismatch
  | couldNotStore
  | receiverNotReady
  | messageUnknown
  /-- Refused by a plain negative acknowledgement. -/
  | rejected
  /-- Never acknowledged, as often as it was sent. -/
  | tooManyRetries
deriving DecidableEq, Repr

/-- The reason that the info code of a negative acknowledgement stands for. -/
def FailureReason.ofInfoCode (code : UInt8) : FailureReason :=
  match code.toNat with
  | 1 => noTime
  | 2 => versionNotSupported
  | 3 => sizeVersionMismatch
  | 4 => couldNotStore
  | 5 => receiverNotReady
  | 6 => messageUnknown
  | _ => notSet

/-- The first four bytes of a payload, which acknowledgements echo. -/
structure Head where
  b0 : UInt8
  b1 : UInt8
  b2 : UInt8
  b3 : UInt8
deriving DecidableEq, Repr

/-- The head of a payload, filled up with zeros. -/
def Head.ofPayload (p : Bytes) : Head :=
  ⟨p.getD 0 0, p.getD 1 0, p.getD 2 0, p.getD 3 0⟩

def Head.bytes (h : Head) : Bytes := [h.b0, h.b1, h.b2, h.b3]

/-- A message in transfer. -/
structure Message where
  /-- Where the frame begins in the blob. -/
  offset : Nat
  frame : Frame
  /-- Position among the messages of the blob. -/
  sequence : Nat
  state : Progress
  /-- How often it was sent again. -/
  retries : Nat
  /-- The clock reading from which its acknowledgement is overdue. -/
  deadline : Nat
  failure : Option FailureReason
deriving DecidableEq, Repr

namespace Message

/-- The message of a frame that has not been sent yet. -/
def ofLocated (sequence : Nat) (l : Located) : Message :=
  ⟨l.offset, l.frame, sequence, .waitingToSend, 0, 0, none⟩

def length (m : Message) : Nat := m.frame.length

def head (m : Message) : Head := .ofPayload m.frame.payload

/-- What stands in the blob where the message is. -/
def bytesIn (m : Message) (data : Bytes) : Except Fault Bytes :=
  Checked.slice data m.offset (m.offset + m.length)

/-- Whether an assistance acknowledgement for message `id` that echoes
`head` is about this message. -/
def matchesAck (m : Message) (id : UInt8) (head : Bytes) : Bool :=
  decide (m.state = .waitingForAck) && m.frame.cls == MessageClass.mga && m.frame.id == id &&
    decide (4 ≤ head.length) && decide (m.head = .ofPayload head)

/-- Whether a plain acknowledgement for message `id` of legacy aiding is
about this message. -/
def matchesAidAck (m : Message) (id : UInt8) : Bool :=
  decide (m.state = .waitingForAck) && m.frame.cls == MessageClass.aid && m.frame.id == id

/-! ## The messages of a blob -/

/-- Frames worth sending: of interest, and not damaged. -/
def wanted (l : Located) : Bool := l.frame.header.ofInterest && l.frame.intact

/-- The messages of a clean stream in order, each with its position. -/
def list (data : Bytes) : Except Error (List Message) := do
  let located ← Stream.frames data
  match (located.filter wanted).mapIdx ofLocated with
  | [] => .error .noDataToSend
  | messages => .ok messages

end Message

end GnssAiding
