/-
What goes wrong. An `Error` is an answer: the call is refused and the caller
may go on. A `Fault` is a check inside the library that failed, an index
beyond its list or a number beyond its width: the call stops where it is.
Functions that can only refuse return `Except Error`; those that do
arithmetic on the caller's numbers return `Except Failure`.
-/
namespace GnssAiding

/-- Why an argument is refused. -/
inductive Reason
  | payloadTooLong
  | flashChunkTooLong
  | invalidDateOrTime
  | initialTimeNotAbsolute
  | yearOutOfRange
  | onlyAbsoluteAdjustment
  | token
  | noServerRunning
deriving DecidableEq, Repr

def Reason.message : Reason → String
  | .payloadTooLong => "UBX payload longer than 65535 bytes"
  | .flashChunkTooLong => "flash chunk too long"
  | .invalidDateOrTime => "invalid date or time"
  | .initialTimeNotAbsolute => "INI time needs an absolute time"
  | .yearOutOfRange => "year out of range for UBX-AID-INI"
  | .onlyAbsoluteAdjustment => "UBX-AID-INI only supports absolute time adjustment"
  | .token => "token"
  | .noServerRunning => "no legacy aiding server running"

/-- Why a call is refused. -/
inductive Error
  /-- The data is no stream of frames, or its framing is corrupt. -/
  | badData
  /-- The data holds nothing that can be sent. -/
  | noDataToSend
  /-- The data does not begin with a message that carries the time. -/
  | noInitialTime
  | alreadyRunning
  | alreadyIdle
  | notConfigured
  | invalidArgument (reason : Reason)
  /-- The buffer cannot hold the result and its closing zero; `needed` bytes could. -/
  | bufferTooSmall (needed : Nat)
  /-- An earlier call stopped on a fault. -/
  | lockPoisoned
deriving DecidableEq, Repr

def Error.message : Error → String
  | .badData => "Data is not a valid UBX stream"
  | .noDataToSend => "No assistance messages in data"
  | .noInitialTime => "First message is not UBX-MGA-INI-TIME"
  | .alreadyRunning => "Session is already running"
  | .alreadyIdle => "Session is already idle"
  | .notConfigured => "Session is not configured"
  | .invalidArgument reason => "Invalid argument: " ++ reason.message
  | .bufferTooSmall needed => "Buffer too small, " ++ toString needed ++ " bytes needed"
  | .lockPoisoned => "Session lock poisoned"

/-- A check inside the library that failed. -/
inductive Fault
  /-- An index or a slice reaches beyond its list. -/
  | outOfRange
  /-- A number does not fit its width. -/
  | overflow
  /-- The lower bound of a clamp lies above the upper one. -/
  | crossedBounds
deriving DecidableEq, Repr

/-- How a call ends that does not succeed. -/
inductive Failure
  | refused (error : Error)
  | fault (fault : Fault)
deriving DecidableEq, Repr

def Failure.message : Failure → String
  | .refused error => error.message
  | .fault .outOfRange => "Index out of range"
  | .fault .overflow => "Number too large"
  | .fault .crossedBounds => "Bounds crossed"

instance : MonadLift (Except Error) (Except Failure) where
  monadLift x := x.mapError .refused

instance : MonadLift (Except Fault) (Except Failure) where
  monadLift x := x.mapError .fault

/-! ## Checked arithmetic and access -/

namespace Checked

/-- `n`, if it fits an unsigned number of `bits` bits. -/
def narrow (bits n : Nat) : Except Fault Nat :=
  if n < Nat.pow 2 bits then .ok n else .error .overflow

/-- `a - b`, which must not be negative. -/
def sub (a b : Nat) : Except Fault Nat :=
  if b ≤ a then .ok (a - b) else .error .overflow

/-- `n` moved into `lo..hi`. -/
def clamp (lo hi n : Nat) : Except Fault Nat :=
  if lo ≤ hi then .ok (max lo (min n hi)) else .error .crossedBounds

/-- The element with index `i`. -/
def get {α} (xs : List α) (i : Nat) : Except Fault α :=
  match xs[i]? with
  | some x => .ok x
  | none => .error .outOfRange

/-- The elements from index `start` up to, not including, `stop`. -/
def slice {α} (xs : List α) (start stop : Nat) : Except Fault (List α) :=
  if start ≤ stop ∧ stop ≤ xs.length then .ok ((xs.drop start).take (stop - start))
  else .error .outOfRange

/-- `data` with the elements from index `start` on overwritten by `fresh`,
which must not reach beyond its end. -/
def splice {α} (start : Nat) (fresh data : List α) : Except Fault (List α) :=
  if start + fresh.length ≤ data.length then
    .ok (data.take start ++ fresh ++ data.drop (start + fresh.length))
  else .error .outOfRange

end Checked

end GnssAiding
