/-
Frames: two sync characters, class, id, payload length, payload, checksum.
A `Frame` may carry a wrong checksum (`Frame.intact` tells), since a stream
is split by lengths alone. `Frame.take?` reads the frame that a string
begins with, and reads back exactly what `Frame.bytes` writes
(`take?_bytes`, `eq_of_take?`).
-/
import GnssAiding.Frame.Checksum
import GnssAiding.Frame.Kind

namespace GnssAiding

/-- The first sync character. -/
def sync1 : UInt8 := 0xB5

/-- The second sync character. -/
def sync2 : UInt8 := 0x62

/-! ## Headers -/

/-- Class, id and payload length. -/
structure Header where
  cls : UInt8
  id : UInt8
  payloadLength : UInt16
deriving DecidableEq, Repr

namespace Header

/-- The header that `data` begins with, after the sync characters. -/
def peek? : Bytes → Option Header
  | s :: t :: cls :: id :: l0 :: l1 :: _ =>
    if s = sync1 ∧ t = sync2 then some ⟨cls, id, Bytes.read16 l0 l1⟩ else none
  | _ => none

/-- The same read byte by byte. -/
def read (data : Bytes) : Except Fault (Option Header) :=
  if data.length < 6 then pure none
  else do
    let s ← Checked.get data 0
    let t ← Checked.get data 1
    if s = sync1 ∧ t = sync2 then
      let cls ← Checked.get data 2
      let id ← Checked.get data 3
      let l0 ← Checked.get data 4
      let l1 ← Checked.get data 5
      pure (some ⟨cls, id, Bytes.read16 l0 l1⟩)
    else pure none

/-- The length of the whole frame. -/
def frameLength (h : Header) : Nat := h.payloadLength.toNat + 8

def kind? (h : Header) : Option Kind := Kind.classify h.cls h.id

/-- Whether assistance deals in this message. -/
def ofInterest (h : Header) : Bool := h.kind?.isSome

end Header

/-! ## Frames -/

/-- A frame, whatever its checksum bytes are. -/
structure Frame where
  cls : UInt8
  id : UInt8
  payload : Bytes
  checksum : Checksum
  /-- The length field has 16 bits. -/
  fits : payload.length < 65536
deriving DecidableEq, Repr

namespace Frame

/-- What the checksum is taken over. -/
def body (f : Frame) : Bytes :=
  f.cls :: f.id :: Bytes.le16 (UInt16.ofNat f.payload.length) ++ f.payload

/-- The frame as it is sent. -/
def bytes (f : Frame) : Bytes := sync1 :: sync2 :: (f.body ++ f.checksum.bytes)

/-- The length of the whole frame. -/
def length (f : Frame) : Nat := f.payload.length + 8

def header (f : Frame) : Header := ⟨f.cls, f.id, UInt16.ofNat f.payload.length⟩

def kind? (f : Frame) : Option Kind := Kind.classify f.cls f.id

/-- Whether the checksum is right. -/
def intact (f : Frame) : Bool := Checksum.of f.body == f.checksum

/-- The frame around a payload that fits, with its checksum. -/
def sealed (cls id : UInt8) (payload : Bytes) (fits : payload.length < 65536) : Frame :=
  let bare : Frame := ⟨cls, id, payload, ⟨0, 0⟩, fits⟩
  { bare with checksum := Checksum.of bare.body }

/-- The frame around a payload, unless the payload is too long for the length field. -/
def build (cls id : UInt8) (payload : Bytes) : Except Error Frame :=
  if fits : payload.length < 65536 then .ok (sealed cls id payload fits)
  else .error (.invalidArgument .payloadTooLong)

/-- `out` followed by the frame around a payload that fits. The checksum is taken over
what stands behind the sync characters in the buffer. -/
def put (out : Bytes) (cls id : UInt8) (payload : Bytes) : Bytes :=
  let unsealed := out ++ sync1 :: sync2 :: cls :: id ::
    (Bytes.le16 (UInt16.ofNat payload.length) ++ payload)
  unsealed ++ (Checksum.of (unsealed.drop (out.length + 2))).bytes

/-- `out` followed by the frame around a payload, unless the payload is too long. -/
def appendTo (out : Bytes) (cls id : UInt8) (payload : Bytes) : Except Error Bytes :=
  if payload.length < 65536 then .ok (put out cls id payload)
  else .error (.invalidArgument .payloadTooLong)

/-- Writes the frame around a payload into a buffer, behind what it holds: how that
ends, and the buffer afterwards. -/
def write (buffer : Bytes) (cls id : UInt8) (payload : Bytes) : Except Error Unit × Bytes :=
  match appendTo buffer cls id payload with
  | .ok grown => (.ok (), grown)
  | .error e => (.error e, buffer)

/-- The frame that `data` begins with, whatever its checksum, and what
follows it. -/
def take? : Bytes → Option (Frame × Bytes)
  | s :: t :: cls :: id :: l0 :: l1 :: rest =>
    if s = sync1 ∧ t = sync2 then
      let n := (Bytes.read16 l0 l1).toNat
      match rest.drop n with
      | a :: b :: tail =>
        some (⟨cls, id, rest.take n, ⟨a, b⟩, by
          have h := (Bytes.read16 l0 l1).toNat_lt
          have ht : (rest.take n).length ≤ n := List.length_take_le ..
          omega⟩, tail)
      | _ => none
    else none
  | _ => none

/-- `data` as a single frame with a right checksum. -/
def parse? (data : Bytes) : Option Frame :=
  match take? data with
  | some (f, []) => if f.intact then some f else none
  | _ => none

/-- The same by offsets: the payload and what the checksum is taken over are slices of
`data`. -/
def read (data : Bytes) : Except Fault (Option Frame) := do
  match ← Header.read data with
  | none => pure none
  | some h =>
    if data.length ≠ h.frameLength then pure none
    else
      let stop ← Checked.sub data.length 2
      let body ← Checked.slice data 2 stop
      let a ← Checked.get data stop
      let b ← Checked.get data (stop + 1)
      let payload ← Checked.slice data 6 stop
      if ok : Checksum.of body = ⟨a, b⟩ ∧ payload.length < 65536 then
        pure (some ⟨h.cls, h.id, payload, ⟨a, b⟩, ok.2⟩)
      else pure none

@[simp] theorem length_bytes (f : Frame) : f.bytes.length = f.length := by
  simp only [bytes, body, length, Checksum.bytes, List.length_cons, List.length_append,
    Bytes.length_le16, List.length_nil]
  omega

theorem intact_sealed (cls id : UInt8) (payload : Bytes) (fits : payload.length < 65536) :
    (sealed cls id payload fits).intact = true := by
  simp [intact, sealed, body]

/-- A frame is read back, whatever follows it. -/
theorem take?_bytes (f : Frame) (rest : Bytes) : take? (f.bytes ++ rest) = some (f, rest) := by
  have hl : (UInt16.ofNat f.payload.length).toNat = f.payload.length := by
    have := f.fits
    simp only [UInt16.toNat_ofNat']
    omega
  have hr : (Bytes.read16 (UInt8.ofNat (UInt16.ofNat f.payload.length).toNat)
      (UInt8.ofNat ((UInt16.ofNat f.payload.length).toNat / 256))).toNat = f.payload.length := by
    rw [Bytes.read16_le16, hl]
  simp only [bytes, body, Bytes.le16, List.cons_append, List.nil_append, take?, and_self,
    if_true, List.append_assoc]
  simp only [hr, List.drop_left, List.take_left, Checksum.bytes, List.cons_append, List.nil_append]

/-- What is read is what stands there. -/
theorem eq_of_take? {data rest : Bytes} {f : Frame} (h : take? data = some (f, rest)) :
    data = f.bytes ++ rest := by
  unfold take? at h
  split at h
  · next s t cls id l0 l1 tail =>
    split at h
    · next hs =>
      obtain ⟨rfl, rfl⟩ := hs
      simp only at h
      split at h
      · next a b tail' hd =>
        simp only [Option.some.injEq, Prod.mk.injEq] at h
        obtain ⟨rfl, rfl⟩ := h
        have hn : (Bytes.read16 l0 l1).toNat ≤ tail.length := by
          have := congrArg List.length hd
          simp only [List.length_drop, List.length_cons] at this
          omega
        have hlen : (tail.take (Bytes.read16 l0 l1).toNat).length = (Bytes.read16 l0 l1).toNat := by
          simp only [List.length_take]
          omega
        simp only [bytes, body, hlen, UInt16.ofNat_toNat, Bytes.le16_read16, List.cons_append,
          List.nil_append, List.append_assoc, Checksum.bytes]
        rw [← hd, List.take_append_drop]
      · simp at h
    · simp at h
  · simp at h

theorem length_of_take? {data rest : Bytes} {f : Frame} (h : take? data = some (f, rest)) :
    data.length = f.length + rest.length := by
  rw [eq_of_take? h, List.length_append, length_bytes]

/-- Reading a frame leaves less to read. -/
theorem length_lt_of_take? {data rest : Bytes} {f : Frame} (h : take? data = some (f, rest)) :
    rest.length < data.length := by
  rw [length_of_take? h, length]
  omega

end Frame

end GnssAiding
