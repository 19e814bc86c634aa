/-
Frames out of bytes that arrive in pieces, with other text between them.
Whatever belongs to no frame is dropped; a frame with a wrong checksum is
given up after its first byte only, since its length may be wrong too. A
buffer that ends with the first sync character keeps it, whatever it is
the end of.
-/
import GnssAiding.Frame.Basic

namespace GnssAiding

namespace Reassembler

/-- The frames found in `data` and the end of `data` that may still become
one: a frame that is not complete, or a lone first sync character. -/
def scan : Bytes → List Frame × Bytes
  | [] => ([], [])
  | [b] => ([], if b = sync1 then [b] else [])
  | b :: c :: rest =>
    if b = sync1 ∧ c = sync2 then
      match _h : Frame.take? (b :: c :: rest) with
      | none => ([], b :: c :: rest)
      | some (f, tail) =>
        if f.intact then
          let (fs, pending) := scan tail
          (f :: fs, pending)
        else scan (c :: rest)
    else scan (c :: rest)
termination_by data => data.length
decreasing_by
  · exact Frame.length_lt_of_take? _h
  · simp
  · simp

/-- What is held back of a buffer of which `rest` is left over. Where nothing is, a first sync
character at its end is held back all the same, even the last byte of a frame given out. -/
def held (buffer rest : Bytes) : Bytes :=
  if rest = [] ∧ buffer.getLast? = some sync1 then [sync1] else rest

end Reassembler

/-- Bytes held back for the rest of a frame. -/
structure Reassembler where
  pending : Bytes
deriving DecidableEq, Repr

namespace Reassembler

def empty : Reassembler := ⟨[]⟩

/-- Takes received bytes and gives the frames that they complete. -/
def push (r : Reassembler) (data : Bytes) : List Frame × Reassembler :=
  let buffer := r.pending ++ data
  let (fs, rest) := scan buffer
  (fs, ⟨held buffer rest⟩)

/-- Pushes the pieces one after another: the frames each one completes, and
how many bytes are held back after it. -/
def pushAll (r : Reassembler) : List Bytes → List (List Frame × Nat)
  | [] => []
  | d :: ds =>
    let (fs, r) := r.push d
    (fs, r.pending.length) :: pushAll r ds

/-- The reassembler after the pieces have been pushed. -/
def after (r : Reassembler) (chunks : List Bytes) : Reassembler :=
  chunks.foldl (fun r d => (r.push d).2) r

end Reassembler

end GnssAiding
