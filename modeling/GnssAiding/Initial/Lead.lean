/-
The message that a blob begins with, when it is one that carries the time:
an initial time message, or legacy initial data. Its checksum is not looked
at, since it is written anew when the time is changed.
-/
import GnssAiding.Frame.Basic

namespace GnssAiding.Initial

/-- The payload type of an initial time message in UTC. -/
def timeType : UInt8 := 0x10

/-- The payload type of an initial position message in degrees. -/
def positionType : UInt8 := 0x01

/-- Payload length of an initial time message. -/
def timeLength : Nat := 24

/-- Payload length of legacy initial data. -/
def aidLength : Nat := 48

/-- A leading message that carries the time, and what follows it. -/
inductive Lead
  | time (frame : Frame) (rest : Bytes) (length_payload : frame.payload.length = timeLength)
  | aid (frame : Frame) (rest : Bytes) (length_payload : frame.payload.length = aidLength)

/-- The message that `data` begins with, if it carries the time. -/
def lead? (data : Bytes) : Option Lead :=
  match Frame.take? data with
  | none => none
  | some (f, rest) =>
    if f.kind? = some .mgaIni then
      if h : f.payload.length = timeLength then
        if f.payload.head? = some timeType then some (.time f rest h) else none
      else none
    else if f.kind? = some .aidIni then
      if h : f.payload.length = aidLength then some (.aid f rest h) else none
    else none

/-- Whether `data` begins with an initial time message. -/
def startsWithTime (data : Bytes) : Bool :=
  match lead? data with
  | some (.time ..) => true
  | _ => false

end GnssAiding.Initial
