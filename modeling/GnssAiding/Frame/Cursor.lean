/-
Streams frame by frame. A cursor stands behind the frames that it has given
out; each call of `Cursor.next` moves it behind the next one. Where what is
left begins with no complete frame it refuses once, and then it gives nothing.
-/
import GnssAiding.Frame.Basic

namespace GnssAiding

/-- A frame that was found in a buffer: where it begins, what its header says, and all of
its bytes. -/
structure Found where
  offset : Nat
  header : Header
  bytes : Bytes
deriving DecidableEq, Repr

namespace Found

/-- What lies between the header and the checksum. -/
def payload (f : Found) : Bytes := Bytes.extract 6 (f.bytes.length - 2 - 6) f.bytes

/-- Whether the checksum is right. -/
def intact (f : Found) : Bool := Checksum.verify (f.bytes.drop 2)

def kind? (f : Found) : Option Kind := f.header.kind?

end Found

/-- How far a buffer has been read. -/
structure Cursor where
  buffer : Bytes
  pos : Nat
  /-- What stands at the position has been refused. -/
  failed : Bool
deriving DecidableEq, Repr

namespace Cursor

/-- At the start of a buffer. -/
def start (data : Bytes) : Cursor := ⟨data, 0, false⟩

/-- What a call gives, if anything, and the cursor after it. -/
def next (c : Cursor) : Option (Except Error Found) × Cursor :=
  if c.failed ∨ c.buffer.length ≤ c.pos then (none, c)
  else
    let rest := c.buffer.drop c.pos
    match Header.peek? rest with
    | some h =>
      if h.frameLength ≤ rest.length then
        (some (.ok ⟨c.pos, h, rest.take h.frameLength⟩), { c with pos := c.pos + h.frameLength })
      else (some (.error .badData), { c with failed := true })
    | none => (some (.error .badData), { c with failed := true })

/-- What the call with index `n` gives. -/
def call (c : Cursor) : Nat → Option (Except Error Found)
  | 0 => c.next.1
  | n + 1 => c.next.2.call n

/-- A bound on what the calls still give: no frame is empty, and a refusal is the last. -/
def left (c : Cursor) : Nat := if c.failed then 0 else c.buffer.length + 1 - c.pos

theorem left_next_lt {c d : Cursor} {item : Except Error Found} (h : c.next = (some item, d)) :
    d.left < c.left := by
  unfold next at h
  split at h
  · cases h
  · next hgo =>
    obtain ⟨hfailed, hpos⟩ := not_or.1 hgo
    have hleft : c.left = c.buffer.length + 1 - c.pos := if_neg hfailed
    dsimp only at h
    split at h
    · next hd _ =>
      split at h
      · cases h
        have hpositive : 0 < hd.frameLength := Nat.succ_pos _
        rw [hleft, left, if_neg hfailed]
        dsimp only
        omega
      · cases h
        rw [hleft, left, if_pos rfl]
        omega
    · cases h
      rw [hleft, left, if_pos rfl]
      omega

/-- What calls give until one gives nothing. -/
def items (c : Cursor) : List (Except Error Found) :=
  match _h : c.next with
  | (some item, d) => item :: items d
  | (none, _) => []
termination_by c.left
decreasing_by exact left_next_lt _h

end Cursor

end GnssAiding
