/-
Selections from a clean stream: the wanted frames one behind the other, which
is never more than the stream.
-/
import GnssAiding.Offline
import GnssAiding.Proofs.Frame.Stream
import Mathlib.Data.List.Flatten

namespace GnssAiding.Offline

/-- The frames of a clean stream. -/
theorem frames_of_split {data : Bytes} {fs : List Frame} (hs : Stream.split data = (fs, [])) :
    Stream.frames data = .ok (Stream.locate 0 fs) :=
  Stream.frames_eq_ok_iff.2 (by simp only [hs, and_self])

theorem select_eq {data : Bytes} {fs : List Frame} (hs : Stream.split data = (fs, []))
    {want : Frame → Bool} (hne : fs.filter (fun f => f.intact && want f) ≠ []) :
    select want data = .ok ((fs.filter fun f => f.intact && want f).flatMap Frame.bytes) := by
  simp only [select, frames_of_split hs, bind, Except.bind, Stream.map_frame_locate]

/-- A selection comes to something if there is a frame to select, and then to
all of them. -/
theorem select_eq_ok_iff {data out : Bytes} {fs : List Frame} (hs : Stream.split data = (fs, []))
    {want : Frame → Bool} :
    select want data = .ok out ↔ fs.filter (fun f => f.intact && want f) ≠ [] ∧
      out = (fs.filter fun f => f.intact && want f).flatMap Frame.bytes := by
  by_cases hne : fs.filter (fun f => f.intact && want f) = []
  · simp [select, frames_of_split hs, bind, Except.bind, Stream.map_frame_locate, hne]
  · simp [select_eq hs hne, hne, eq_comm]

/-- Frames one behind the other determine the frames. -/
theorem flatMap_bytes_injective {fs gs : List Frame}
    (h : fs.flatMap Frame.bytes = gs.flatMap Frame.bytes) : fs = gs := by
  have hsplit := congrArg Stream.split h
  rw [Stream.split_flatMap, Stream.split_flatMap] at hsplit
  exact congrArg Prod.fst hsplit

/-- What is selected is a part of the stream. -/
theorem length_select_le {want : Frame → Bool} {data out : Bytes}
    (h : select want data = .ok out) : out.length ≤ data.length := by
  cases hf : Stream.frames data with
  | error e =>
    simp only [select, hf, bind, Except.bind] at h
    cases h
  | ok located =>
    obtain ⟨hclean, rfl⟩ := Stream.frames_eq_ok_iff.1 hf
    have hs : Stream.split data = ((Stream.split data).1, []) := Prod.ext rfl hclean
    obtain ⟨-, rfl⟩ := (select_eq_ok_iff hs).1 h
    exact Nat.le_trans (List.filter_sublist.flatMap Frame.bytes).length_le
      (Stream.length_flatMap_split_le data)

end GnssAiding.Offline
