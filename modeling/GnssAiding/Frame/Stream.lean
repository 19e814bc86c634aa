/-
Streams of frames without anything between them. `Stream.split` cuts the
frames off the front of a string, by their lengths alone, until what is left
begins with no complete frame; a string is a clean stream when nothing is
left.
-/
import GnssAiding.Frame.Basic

namespace GnssAiding

/-- A frame and where it begins in the string it was found in. -/
structure Located where
  offset : Nat
  frame : Frame
deriving DecidableEq, Repr

namespace Stream

/-- The frames at the front of `data` and what is left behind them. -/
def split (data : Bytes) : List Frame × Bytes :=
  match _h : Frame.take? data with
  | some (f, rest) =>
    let p := split rest
    (f :: p.1, p.2)
  | none => ([], data)
termination_by data.length
decreasing_by exact Frame.length_lt_of_take? _h

/-- The frames with their offsets, when the first one begins at `offset`. -/
def locate (offset : Nat) : List Frame → List Located
  | [] => []
  | f :: fs => ⟨offset, f⟩ :: locate (offset + f.length) fs

/-- The frames at the front of `data`, each with its offset, and whether
they are all of it. -/
def scan (data : Bytes) : List Located × Bool :=
  let (fs, rest) := split data
  (locate 0 fs, rest.isEmpty)

/-- The frames of a clean stream, each with its offset. -/
def frames (data : Bytes) : Except Error (List Located) :=
  match scan data with
  | (located, true) => .ok located
  | (_, false) => .error .badData

theorem split_append (f : Frame) (rest : Bytes) :
    split (f.bytes ++ rest) = (f :: (split rest).1, (split rest).2) := by
  rw [split]
  split
  · next g rest' h =>
    rw [Frame.take?_bytes] at h
    simp only [Option.some.injEq, Prod.mk.injEq] at h
    obtain ⟨rfl, rfl⟩ := h
    rfl
  · next h => simp [Frame.take?_bytes] at h

theorem split_nil : split [] = ([], []) := by
  rw [split]
  rfl

/-- Frames one behind the other are found again. -/
theorem split_flatMap (fs : List Frame) : split (fs.flatMap Frame.bytes) = (fs, []) := by
  induction fs with
  | nil => exact split_nil
  | cons f fs ih => rw [List.flatMap_cons, split_append, ih]

/-- Splitting loses nothing. -/
theorem flatten_split (data : Bytes) :
    (split data).1.flatMap Frame.bytes ++ (split data).2 = data := by
  fun_induction split data with
  | case1 data f rest h p ih =>
    rw [List.flatMap_cons, List.append_assoc, ih, ← Frame.eq_of_take? h]
  | case2 => rfl

theorem length_locate (offset : Nat) (fs : List Frame) : (locate offset fs).length = fs.length := by
  induction fs generalizing offset with
  | nil => rfl
  | cons f fs ih => simp [locate, ih]

theorem map_frame_locate (offset : Nat) (fs : List Frame) :
    (locate offset fs).map (·.frame) = fs := by
  induction fs generalizing offset with
  | nil => rfl
  | cons f fs ih => simp [locate, ih]

end Stream

end GnssAiding
