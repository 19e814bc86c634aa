/-
The flag word of the legacy initial data message. Bits without a name keep
their value when a flag is set or cleared.
-/
namespace GnssAiding

/-- The flags of legacy initial data. -/
inductive AidFlag
  | position
  | time
  | clockDrift
  /-- The time is that of a pulse. -/
  | timePulse
  | clockFrequency
  /-- The position is given as latitude, longitude and altitude. -/
  | geodetic
  | altitudeInvalid
  /-- The time is that of the previous pulse. -/
  | previousPulse
  /-- The time is a UTC date and time. -/
  | utc
deriving DecidableEq, Repr

namespace AidFlag

def all : List AidFlag :=
  [position, time, clockDrift, timePulse, clockFrequency, geodetic, altitudeInvalid,
    previousPulse, utc]

/-- Which bit of the word the flag is. -/
def bit : AidFlag → UInt32
  | position => 0
  | time => 1
  | clockDrift => 2
  | timePulse => 3
  | clockFrequency => 4
  | geodetic => 5
  | altitudeInvalid => 6
  | previousPulse => 7
  | utc => 10

/-- What the flag is called outside. -/
def name : AidFlag → String
  | position => "pos"
  | time => "time"
  | clockDrift => "clock_d"
  | timePulse => "tp"
  | clockFrequency => "clock_f"
  | geodetic => "lla"
  | altitudeInvalid => "alt_inv"
  | previousPulse => "prev_tm"
  | utc => "utc"

/-- Whether the flag is set in a word. -/
def isSet (f : AidFlag) (word : UInt32) : Bool := word &&& (1 <<< f.bit) != 0

/-- The word with the flag set or cleared. -/
def put (f : AidFlag) (on : Bool) (word : UInt32) : UInt32 :=
  if on then word ||| (1 <<< f.bit) else word &&& ~~~(1 <<< f.bit)

end AidFlag

end GnssAiding
