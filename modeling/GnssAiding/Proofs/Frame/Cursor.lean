/-
A cursor cuts its buffer into frames.

Each call moves the cursor behind one frame (`next_of_take?`), or refuses where none can be taken
(`next_of_none`), so what all calls give is the frames at the front of the buffer and, if anything
is left behind them, one refusal (`items_split`). Calls go on for ever, but they are an
index into this list (`call_eq_getElem?`): behind its end nothing comes any more. The frames
are the ones that splitting the buffer finds, and with them what is known of a split holds of
the cursor: they join to the front of the buffer, and each stands at its offset.
-/
import GnssAiding.Frame.Cursor
import GnssAiding.Proofs.Frame.Envelope
import GnssAiding.Proofs.Frame.Stream

namespace GnssAiding

namespace Located

/-- A frame of a stream as it is found in the buffer. -/
def found (l : Located) : Found := ⟨l.offset, l.frame.header, l.frame.bytes⟩

end Located

namespace Cursor

/-! ## One call -/

theorem next_of_take? {data rest : Bytes} {f : Frame} (h : Frame.take? data = some (f, rest))
    (front : Bytes) :
    next ⟨front ++ data, front.length, false⟩ =
      (some (.ok (Located.found ⟨front.length, f⟩)),
        ⟨front ++ f.bytes ++ rest, (front ++ f.bytes).length, false⟩) := by
  have hdata := Frame.eq_of_take? h
  have hgo : ¬ (false = true ∨ (front ++ data).length ≤ front.length) := by
    rw [hdata, List.length_append, List.length_append, Frame.length_bytes, Frame.length]
    simp only [Bool.false_eq_true, false_or]
    omega
  have hlen : f.header.frameLength = f.bytes.length := by
    rw [Frame.frameLength_header, Frame.length_bytes]
  have hroom : f.header.frameLength ≤ data.length := by
    rw [hdata, List.length_append, hlen]
    exact Nat.le_add_right _ _
  have hpeek : Header.peek? data = some f.header := hdata ▸ f.peek?_bytes rest
  have htake : data.take f.header.frameLength = f.bytes := by rw [hdata, hlen, List.take_left]
  simp only [next, if_neg hgo, List.drop_left, hpeek, if_pos hroom, htake]
  rw [hlen, List.append_assoc, ← hdata, List.length_append]
  rfl

theorem next_of_none {data : Bytes} (h : Frame.take? data = none) (hdata : data ≠ [])
    (front : Bytes) :
    next ⟨front ++ data, front.length, false⟩ =
      (some (.error .badData), ⟨front ++ data, front.length, true⟩) := by
  have hpos := List.length_pos_iff.2 hdata
  have hgo : ¬ (false = true ∨ (front ++ data).length ≤ front.length) := by
    rw [List.length_append]
    simp only [Bool.false_eq_true, false_or]
    omega
  have hshort := Frame.take?_eq_none_iff.1 h
  simp only [next, if_neg hgo, List.drop_left]
  cases hpeek : Header.peek? data with
  | none => rfl
  | some hd => simp only [if_neg (Nat.not_le.2 (hshort hd hpeek))]

/-- At the end of the buffer and behind a refusal nothing comes. -/
theorem next_of_done {c : Cursor} (h : c.failed = true ∨ c.buffer.length ≤ c.pos) :
    c.next = (none, c) := if_pos h

theorem eq_of_next_none {c d : Cursor} (h : c.next = (none, d)) : d = c := by
  unfold next at h
  split at h
  · exact (congrArg Prod.snd h).symm
  · dsimp only at h
    split at h
    · split at h <;> cases h
    · cases h

/-! ## All calls -/

theorem items_of_some {c d : Cursor} {item : Except Error Found} (h : c.next = (some item, d)) :
    c.items = item :: d.items := by
  rw [items]
  split
  · next item' d' h' =>
    rw [h] at h'
    cases h'
    rfl
  · next d' h' =>
    rw [h] at h'
    cases h'

theorem items_of_none {c d : Cursor} (h : c.next = (none, d)) : c.items = [] := by
  rw [items]
  split
  · next item' d' h' =>
    rw [h] at h'
    cases h'
  · rfl

/-- The calls give the items one after another, and then nothing for ever. -/
theorem call_eq_getElem? (c : Cursor) (n : Nat) : c.call n = c.items[n]? := by
  induction n generalizing c with
  | zero =>
    rcases hnext : c.next with ⟨_ | item, d⟩
    · rw [call, hnext, items_of_none hnext, List.getElem?_nil]
    · rw [call, hnext, items_of_some hnext, List.getElem?_cons_zero]
  | succ n ih =>
    rcases hnext : c.next with ⟨_ | item, d⟩
    · rw [call, hnext, eq_of_next_none hnext, ih, items_of_none hnext, List.getElem?_nil,
        List.getElem?_nil]
    · rw [call, hnext, ih, items_of_some hnext, List.getElem?_cons_succ]

/-- The refusal of what is left over, if anything is. -/
def closing (rest : Bytes) : List (Except Error Found) :=
  if rest = [] then [] else [.error .badData]

/-- From any place on, the items are the frames that splitting what is left finds. -/
theorem items_split (front data : Bytes) :
    items ⟨front ++ data, front.length, false⟩ =
      (Stream.locate front.length (Stream.split data).1).map (fun l => .ok l.found) ++
        closing (Stream.split data).2 := by
  fun_induction Stream.split data generalizing front with
  | case1 data f rest htake p ih =>
    have hnext := ih (front ++ f.bytes)
    rw [List.length_append, f.length_bytes] at hnext
    rw [items_of_some (next_of_take? htake front), List.length_append, f.length_bytes, hnext]
    rfl
  | case2 data htake =>
    by_cases hdata : data = []
    · have hend : (front ++ data).length ≤ front.length :=
        Nat.le_of_eq (by rw [hdata, List.append_nil])
      rw [items_of_none (next_of_done (.inr hend)), closing, if_pos hdata]
      rfl
    · have hfailed : next ⟨front ++ data, front.length, true⟩ = (none, _) := next_of_done (.inl rfl)
      rw [items_of_some (next_of_none htake hdata front), items_of_none hfailed, closing,
        if_neg hdata]
      rfl

theorem items_start (data : Bytes) :
    (start data).items =
      (Stream.locate 0 (Stream.split data).1).map (fun l => .ok l.found) ++
        closing (Stream.split data).2 := items_split [] data

/-! ## The cut -/

/-- A buffer is cut into frames one behind the other and a rest that begins with none. -/
structure Partition (data : Bytes) (found : List Found) (rest : Bytes) : Prop where
  joined : found.flatMap (·.bytes) ++ rest = data
  /-- A frame begins where those in front of it end. -/
  offset : ∀ before f after, found = before ++ f :: after →
    f.offset = (before.flatMap (·.bytes)).length
  /-- The header is the one that the bytes begin with, and they are as many as it announces. -/
  slice : ∀ f ∈ found, Header.peek? f.bytes = some f.header ∧
    Checked.slice data f.offset (f.offset + f.header.frameLength) = .ok f.bytes
  rest_begins_with_none : ∀ f : Frame, ¬ f.bytes <+: rest

theorem offset_of_locate {fs : List Frame} {start : Nat} {before after : List Located}
    {l : Located} (h : Stream.locate start fs = before ++ l :: after) :
    l.offset = start + (before.flatMap (·.frame.bytes)).length := by
  induction before generalizing fs start with
  | nil =>
    cases fs with
    | nil => cases h
    | cons f fs =>
      obtain ⟨rfl, -⟩ := List.cons.inj h
      rfl
  | cons m before ih =>
    cases fs with
    | nil => cases h
    | cons f fs =>
      obtain ⟨rfl, htail⟩ := List.cons.inj h
      rw [ih htail, List.flatMap_cons, List.length_append, f.length_bytes, Nat.add_assoc]

theorem flatMap_bytes_locate (start : Nat) (fs : List Frame) :
    (Stream.locate start fs).flatMap (·.frame.bytes) = fs.flatMap Frame.bytes := by
  conv => rhs; rw [← Stream.map_frame_locate start fs, List.flatMap_map]

/-- Splitting goes on as long as a frame can be taken. -/
theorem take?_left (data : Bytes) : Frame.take? (Stream.split data).2 = none := by
  fun_induction Stream.split data with
  | case1 data f rest htake p ih => exact ih
  | case2 data htake => exact htake

/-- Splitting a buffer partitions it. -/
theorem partition_split (data : Bytes) :
    Partition data ((Stream.locate 0 (Stream.split data).1).map Located.found)
      (Stream.split data).2 where
  joined := by
    rw [List.flatMap_map]
    exact (congrArg (· ++ _) (flatMap_bytes_locate 0 _)).trans (Stream.flatten_split data)
  offset before f after hfound := by
    obtain ⟨ahead, behind, hlocate, rfl, hbehind⟩ := List.map_eq_append_iff.1 hfound
    obtain ⟨l, rest, rfl, rfl, -⟩ := List.map_eq_cons_iff.1 hbehind
    rw [List.flatMap_map]
    exact (offset_of_locate hlocate).trans (Nat.zero_add _)
  slice f hf := by
    obtain ⟨l, hl, rfl⟩ := List.mem_map.1 hf
    exact ⟨l.frame.peek?_whole, (congrArg (fun n => Checked.slice data l.offset (l.offset + n))
      l.frame.frameLength_header).trans (Stream.slice_locate hl)⟩
  rest_begins_with_none := Frame.take?_eq_none_iff_not_prefix.1 (take?_left data)

/-- **A cursor partitions its buffer.** For any buffer there are frames that make up its front
one behind the other, each with the bytes at its offset and as many as its header
announces, and a rest that begins with no complete frame. Calls give these frames in order;
then, unless the rest is empty, they refuse it once; and then they give nothing for ever. Where
the buffer is any frames one behind the other, whatever their checksums, these are given, and
no refusal. -/
theorem items_exact :
    (∀ data : Bytes, ∃ found rest, Partition data found rest ∧
      (start data).items =
        found.map .ok ++ (if rest = [] then [] else [.error .badData]) ∧
      ∀ n, (start data).call n = (start data).items[n]?) ∧
      ∀ fs : List Frame, (start (fs.flatMap Frame.bytes)).items =
        (Stream.locate 0 fs).map fun l => .ok l.found := by
  refine ⟨fun data => ⟨_, _, partition_split data, ?_, call_eq_getElem? _⟩, fun fs => ?_⟩
  · rw [items_start, List.map_map]
    rfl
  · rw [items_start, Stream.split_flatMap]
    exact List.append_nil _

end Cursor

end GnssAiding
