/-
The header at the start of a legacy aiding file: a magic word, thirty-two
section offsets, and what the file says of itself. Each field has its place;
`Header.parse` reads it there and `Header.encode` writes it there over zeros.
-/
import GnssAiding.Bytes
import GnssAiding.Error

namespace GnssAiding.Legacy

/-- The first word of every legacy aiding file. -/
def magic : UInt32 := 0x015208EF

/-- The length of the header in bytes. -/
def headerLength : Nat := 84

/-- The header of a legacy aiding file. -/
structure Header where
  magic : UInt32
  /-- Where the sections of the file begin. -/
  offsets : List UInt16
  /-- Length of the file in bytes. -/
  size : UInt32
  /-- Not zero once the file has been stored completely. -/
  completed : UInt32
  /-- Time of week from which the data is valid. -/
  tow : UInt32
  /-- Week from which the data is valid. -/
  wno : UInt16
  /-- Days for which the data is valid. -/
  duration : UInt16
  length_offsets : offsets.length = 32
deriving DecidableEq, Repr

namespace Header

/-! ## Where the fields stand -/

def magicPlace : Nat := 0

/-- The place of the offset with index `i`. -/
def offsetPlace (i : Nat) : Nat := 4 + 2 * i

def sizePlace : Nat := 68

def completedPlace : Nat := 72

def towPlace : Nat := 76

def wnoPlace : Nat := 80

def durationPlace : Nat := 82

theorem offsetPlace_le (i : Fin 32) : offsetPlace i + 2 ≤ headerLength := by
  have := i.isLt
  simp only [offsetPlace, headerLength]
  omega

/-! ## Reading and writing -/

/-- The header at the start of data that is long enough for one, whatever its magic word is. -/
def read (data : Bytes) (h : headerLength ≤ data.length) : Header where
  magic := data.word32 magicPlace (Nat.le_trans (by decide) h)
  offsets := List.ofFn fun i : Fin 32 =>
    data.word16 (offsetPlace i) (Nat.le_trans (offsetPlace_le i) h)
  size := data.word32 sizePlace (Nat.le_trans (by decide) h)
  completed := data.word32 completedPlace (Nat.le_trans (by decide) h)
  tow := data.word32 towPlace (Nat.le_trans (by decide) h)
  wno := data.word16 wnoPlace (Nat.le_trans (by decide) h)
  duration := data.word16 durationPlace (Nat.le_trans (by decide) h)
  length_offsets := List.length_ofFn

/-- The header at the start of a file; shorter files and other magic words
are refused. -/
def parse (data : Bytes) : Except Error Header :=
  if h : headerLength ≤ data.length then
    let header := read data h
    if header.magic = Legacy.magic then .ok header else .error .badData
  else .error .badData

/-- The header as it stands in a file. -/
def encode (h : Header) : Bytes :=
  let out := List.replicate headerLength 0
  let out := Bytes.overwrite magicPlace (Bytes.le32 h.magic) out
  let out := h.offsets.zipIdx.foldl
    (fun out p => Bytes.overwrite (offsetPlace p.2) (Bytes.le16 p.1) out) out
  let out := Bytes.overwrite sizePlace (Bytes.le32 h.size) out
  let out := Bytes.overwrite completedPlace (Bytes.le32 h.completed) out
  let out := Bytes.overwrite towPlace (Bytes.le32 h.tow) out
  let out := Bytes.overwrite wnoPlace (Bytes.le16 h.wno) out
  Bytes.overwrite durationPlace (Bytes.le16 h.duration) out

theorem parse_of_long {data : Bytes} (h : headerLength ≤ data.length) :
    parse data =
      if (read data h).magic = Legacy.magic then .ok (read data h) else .error .badData := dif_pos h

theorem parse_of_short {data : Bytes} (h : data.length < headerLength) :
    parse data = .error .badData := dif_neg (Nat.not_le.2 h)

end Header

end GnssAiding.Legacy
