/-
What the loader tells its user about the events of a transfer.
-/
import GnssAiding.Json.Form.Event
import GnssAiding.Text.Digits

namespace GnssAiding.Loader

/-- How far a transfer has come. -/
structure Tally where
  total : Nat
  complete : Nat
  failed : Nat
deriving DecidableEq, Repr

namespace Tally

def empty : Tally := ⟨0, 0, 0⟩

/-- The tally after an event. -/
def push (t : Tally) : Event → Tally
  | .start n => { t with total := n }
  | .messageComplete _ | .flashBlockComplete _ => { t with complete := t.complete + 1 }
  | .messageFailed _ => { t with failed := t.failed + 1 }
  | _ => t

/-- The columns of a rule across the screen. -/
def columns : Nat := 80

/-- A text at the left end of a rule. -/
def rule (mark : Char) (s : String) : String :=
  s ++ String.ofList (List.replicate (columns - s.length) mark) ++ "\n"

/-- A byte in two hexadecimal digits. -/
def hexByte (b : UInt8) : String :=
  String.ofList ((Text.padded 2 (Nat.toDigits 16 b.toNat)).map Char.toUpper)

/-- What is said of an event, with the tally as it is after it. Counts are
written over one another on one line. -/
def said (t : Tally) : Event → String
  | .start n => rule '-' ("Transferring " ++ toString n ++ " messages ")
  | .messageSent _ | .flashBlockSent _ => ""
  | .messageComplete _ | .flashBlockComplete _ =>
    "\r" ++ toString t.complete ++ "/" ++ toString t.total ++ " acknowledged"
  | .messageFailed m =>
    "\nMessage " ++ toString m.sequence ++ " (UBX " ++ hexByte m.cls ++ "/" ++ hexByte m.id ++
      ") failed: " ++ ((m.failure.map FailureReason.name).getD "no reason given") ++ "\n"
  | .flashBlockRetry b => "\nResending flash block " ++ toString b.sequence.toNat ++ "\n"
  | .finish =>
    "\n" ++ rule '=' ("Finished, " ++ toString t.failed ++ " of " ++ toString t.total ++ " failed ")
  | .terminated reason => "\n" ++ rule '=' ("Terminated: " ++ reason.name ++ " ")
  | .serviceError kind detail => "Service error " ++ kind.name ++ ": " ++ detail ++ "\n"
  | .legacy (.flashBlockComplete b) => "\rALP block " ++ toString b.sequence.toNat ++ " stored"
  | .legacy (.flashBlockSent _) => ""
  | .legacy (.requestReceived offset size) =>
    "Request for " ++ toString size ++ " bytes at " ++ toString offset ++ "\n"
  | .legacy (.updateCompleted offset size) =>
    "Update of " ++ toString size ++ " bytes at " ++ toString offset ++ "\n"
  | .legacy (.serverStarted id) => "Serving file " ++ toString id.toNat ++ "\n"
  | .legacy _ => ""

end Tally

end GnssAiding.Loader
