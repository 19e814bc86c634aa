/-
The message that makes a receiver acknowledge every assistance message.
-/
import GnssAiding.Frame.Basic
import GnssAiding.Transfer.Settings

namespace GnssAiding

/-- What a message of expert navigation settings applies. -/
inductive NavFlag
  | minMaxSatellites
  | minSignal
  | initialFix
  | weekRollover
  | ackAiding
  | precisePositioning
  | autonomous
deriving DecidableEq, Repr

namespace NavFlag

def all : List NavFlag :=
  [minMaxSatellites, minSignal, initialFix, weekRollover, ackAiding, precisePositioning, autonomous]

/-- Which bit of the mask the flag is. -/
def bit : NavFlag → UInt16
  | minMaxSatellites => 2
  | minSignal => 3
  | initialFix => 6
  | weekRollover => 9
  | ackAiding => 10
  | precisePositioning => 13
  | autonomous => 14

/-- What the flag is called outside. -/
def name : NavFlag → String
  | minMaxSatellites => "min_max"
  | minSignal => "min_cno"
  | initialFix => "initial_3d_fix"
  | weekRollover => "wkn_roll"
  | ackAiding => "ack_aid"
  | precisePositioning => "ppp"
  | autonomous => "aop"

/-- Whether the flag is set in a mask. -/
def isSet (f : NavFlag) (mask : UInt16) : Bool := mask &&& (1 <<< f.bit) != 0

/-- The mask with the flag set or cleared. -/
def put (f : NavFlag) (on : Bool) (mask : UInt16) : UInt16 :=
  if on then mask ||| (1 <<< f.bit) else mask &&& ~~~(1 <<< f.bit)

end NavFlag

namespace AckSetup

/-- The key of the setting that switches acknowledgements on. -/
def settingKey : UInt32 := 0x10110025

/-- The mask in bytes 2 and 3, the switch in byte 17. -/
def navx5Payload : Bytes :=
  Bytes.overwrite 17 [1]
    (Bytes.overwrite 2 (Bytes.le16 (NavFlag.ackAiding.put true 0)) (List.replicate 40 0))

/-- Version 0, in memory only, then the key and the value. -/
def valsetPayload : Bytes := [0, 1, 0, 0] ++ Bytes.le32 settingKey ++ [1]

/-- The message that switches acknowledgements on. -/
def frame : AckSetup → Frame
  | navx5 => .sealed MessageClass.cfg CfgId.navx5 navx5Payload (by decide)
  | valset => .sealed MessageClass.cfg CfgId.valset valsetPayload (by decide)

end AckSetup

end GnssAiding
