/-
The messages of the legacy protocols.
-/
import GnssAiding.Frame.Basic

namespace GnssAiding.Legacy

/-- The message that ends a transfer of a legacy file, or resets one. -/
def stopFrame : Frame := .sealed MessageClass.aid AidId.alp [0x00] (by decide)

/-- The message that switches the receiver's requests for the file on or off. -/
def requestRateFrame (on : Bool) : Frame :=
  .sealed MessageClass.cfg CfgId.msg
    [MessageClass.aid, AidId.alpsrv, if on then 1 else 0] (by simp)

/-- The receiver's answer to a block or to a stop message; it does not say
which one it answers. -/
inductive Reply
  | ack
  | nak
deriving DecidableEq, Repr

/-- The answer that a frame holds, if it is one. -/
def Reply.parse? (f : Frame) : Option Reply :=
  if f.kind? = some .aidAlp then
    match f.payload with
    | [b] => if b = 1 then some .ack else if b = 0 then some .nak else none
    | _ => none
  else none

end GnssAiding.Legacy
