/-
The messages that assistance deals in. A message is told by the class and
the id in its header; `Kind.key` lists the pairs, `Kind.classify` inverts it.
-/
import GnssAiding.Bytes

namespace GnssAiding

/-! ## Message classes -/

namespace MessageClass

/-- Acknowledgement of configuration and legacy messages. -/
def ack : UInt8 := 0x05
/-- Configuration. -/
def cfg : UInt8 := 0x06
/-- Legacy aiding. -/
def aid : UInt8 := 0x0B
/-- Assistance. -/
def mga : UInt8 := 0x13

end MessageClass

/-! ## Message ids, by class -/

namespace AckId

def nak : UInt8 := 0x00
def ack : UInt8 := 0x01

end AckId

namespace CfgId

/-- Message rate. -/
def msg : UInt8 := 0x01
/-- Expert navigation settings. -/
def navx5 : UInt8 := 0x23
/-- Settings by key and value. -/
def valset : UInt8 := 0x8A

end CfgId

namespace AidId

/-- Initial data. -/
def ini : UInt8 := 0x01
/-- Health, UTC and ionosphere. -/
def hui : UInt8 := 0x02
/-- Almanac. -/
def alm : UInt8 := 0x30
/-- Ephemeris. -/
def eph : UInt8 := 0x31
/-- Request for a slice of the aiding file. -/
def alpsrv : UInt8 := 0x32
/-- Transfer of the aiding file. -/
def alp : UInt8 := 0x50

end AidId

namespace MgaId

def gps : UInt8 := 0x00
def gal : UInt8 := 0x02
def bds : UInt8 := 0x03
def qzss : UInt8 := 0x05
def glo : UInt8 := 0x06
/-- Offline orbit record. -/
def ano : UInt8 := 0x20
/-- Flash record. -/
def flash : UInt8 := 0x21
/-- Initial time or position. -/
def ini : UInt8 := 0x40
/-- Acknowledgement. -/
def ack : UInt8 := 0x60
/-- Navigation data base. -/
def dbd : UInt8 := 0x80

end MgaId

/-! ## Kinds -/

/-- The messages of interest. -/
inductive Kind
  | mgaGps
  | mgaGal
  | mgaBds
  | mgaQzss
  | mgaGlo
  | mgaAno
  | mgaIni
  | mgaAck
  | mgaFlash
  | mgaDbd
  | aidIni
  | aidHui
  | aidAlm
  | aidEph
  | aidAlp
  | aidAlpsrv
  | ack
  | nak
deriving DecidableEq, Repr

namespace Kind

/-- The class and the id of a message. -/
def key : Kind → UInt8 × UInt8
  | mgaGps => (MessageClass.mga, MgaId.gps)
  | mgaGal => (MessageClass.mga, MgaId.gal)
  | mgaBds => (MessageClass.mga, MgaId.bds)
  | mgaQzss => (MessageClass.mga, MgaId.qzss)
  | mgaGlo => (MessageClass.mga, MgaId.glo)
  | mgaAno => (MessageClass.mga, MgaId.ano)
  | mgaIni => (MessageClass.mga, MgaId.ini)
  | mgaAck => (MessageClass.mga, MgaId.ack)
  | mgaFlash => (MessageClass.mga, MgaId.flash)
  | mgaDbd => (MessageClass.mga, MgaId.dbd)
  | aidIni => (MessageClass.aid, AidId.ini)
  | aidHui => (MessageClass.aid, AidId.hui)
  | aidAlm => (MessageClass.aid, AidId.alm)
  | aidEph => (MessageClass.aid, AidId.eph)
  | aidAlp => (MessageClass.aid, AidId.alp)
  | aidAlpsrv => (MessageClass.aid, AidId.alpsrv)
  | ack => (MessageClass.ack, AckId.ack)
  | nak => (MessageClass.ack, AckId.nak)

/-- Every kind once. -/
def all : List Kind :=
  [mgaGps, mgaGal, mgaBds, mgaQzss, mgaGlo, mgaAno, mgaIni, mgaAck, mgaFlash, mgaDbd,
    aidIni, aidHui, aidAlm, aidEph, aidAlp, aidAlpsrv, ack, nak]

/-- The kind of a message with this class and id, if it is of interest. -/
def classify (cls id : UInt8) : Option Kind := all.find? fun k => k.key == (cls, id)

/-- The per-constellation messages, which offline data uses for almanacs. -/
def isAlmanac : Kind → Bool
  | mgaGps | mgaGal | mgaBds | mgaQzss | mgaGlo => true
  | _ => false

theorem mem_all (k : Kind) : k ∈ all := by cases k <;> decide

theorem key_injective {k l : Kind} (h : k.key = l.key) : k = l := by
  revert h; cases k <;> cases l <;> decide

theorem classify_eq_some_iff {cls id : UInt8} {k : Kind} :
    classify cls id = some k ↔ k.key = (cls, id) := by
  constructor
  · intro h
    simpa using List.find?_some h
  · intro h
    cases hf : classify cls id with
    | none => exact absurd h (by simpa using List.find?_eq_none.1 hf k (mem_all k))
    | some l =>
      have hl : l.key = (cls, id) := by simpa using List.find?_some hf
      rw [key_injective (hl.trans h.symm)]

end Kind

end GnssAiding
