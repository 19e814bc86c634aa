/-
The settings of a session: how long to wait for acknowledgements, how often
to send again, and how many messages may be on their way at a time.
-/
namespace GnssAiding

/-- How messages are paced. -/
inductive Discipline
  /-- One message at a time, the next one after its acknowledgement. -/
  | stopAndWait
  /-- All messages at once; acknowledgements do not matter. -/
  | unacknowledged
  /-- As many messages at a time as the receiver's buffer holds. -/
  | windowed
deriving DecidableEq, Repr

/-- Whether acknowledgements have to be switched on. -/
def Discipline.needsAcks : Discipline → Bool
  | unacknowledged => false
  | _ => true

/-- How acknowledgements are switched on. -/
inductive AckSetup
  /-- By the expert navigation settings, on older receivers. -/
  | navx5
  /-- By a setting with a key, from the ninth generation on. -/
  | valset
deriving DecidableEq, Repr

/-- The settings of a session. -/
structure Settings where
  /-- Milliseconds to wait for an acknowledgement. -/
  timeout : Nat
  /-- How often a message is sent again before it is given up. -/
  retries : Nat
  discipline : Discipline
  ackSetup : AckSetup
  /-- Bytes that may be on their way unacknowledged. -/
  budget : Nat
  /-- Milliseconds between messages that are sent all at once. -/
  pacing : Nat
deriving DecidableEq, Repr

def Settings.standard : Settings := ⟨2000, 3, .windowed, .navx5, 1000, 0⟩

end GnssAiding
