/-
Reading a frame by offsets meets no fault: every byte and every slice is taken behind a
check that it is there. So a header is read as `Header.peek?` sees it, and a frame as
`Frame.parse?` does.
-/
import GnssAiding.Proofs.Checked
import GnssAiding.Proofs.Frame.Envelope

namespace GnssAiding

/-! ## Headers -/

namespace Header

theorem exists_cons_of_long {data : Bytes} (h : 6 ≤ data.length) :
    ∃ s t cls id l0 l1 rest, data = s :: t :: cls :: id :: l0 :: l1 :: rest := by
  rcases data with _ | ⟨s, _ | ⟨t, _ | ⟨cls, _ | ⟨id, _ | ⟨l0, _ | ⟨l1, rest⟩⟩⟩⟩⟩⟩
  all_goals first | exact ⟨_, _, _, _, _, _, _, rfl⟩ | simp at h

theorem peek?_of_short {data : Bytes} (h : data.length < 6) : peek? data = none := by
  unfold peek?
  split
  · simp only [List.length_cons] at h
    omega
  · rfl

theorem read_eq (data : Bytes) : read data = .ok (peek? data) := by
  by_cases hshort : data.length < 6
  · rw [read, if_pos hshort, peek?_of_short hshort]
    rfl
  · obtain ⟨s, t, cls, id, l0, l1, rest, rfl⟩ := exists_cons_of_long (Nat.le_of_not_lt hshort)
    rw [read, if_neg hshort, peek?]
    by_cases hsync : s = sync1 ∧ t = sync2
    · rw [if_pos hsync]
      exact if_pos hsync
    · rw [if_neg hsync]
      exact if_neg hsync

end Header

/-! ## Frames -/

namespace Frame

variable (f : Frame)

theorem slice_body : Checked.slice f.bytes 2 (f.payload.length + 6) = .ok f.body := by
  have hlen : f.bytes.length = f.payload.length + 8 := length_bytes f
  have hbody : f.payload.length + 6 - 2 = f.body.length := (length_body f).symm
  rw [Checked.slice_eq_extract (by omega) (by omega), hbody]
  exact congrArg Except.ok List.take_left

theorem slice_payload : Checked.slice f.bytes 6 (f.payload.length + 6) = .ok f.payload := by
  have hlen : f.bytes.length = f.payload.length + 8 := length_bytes f
  rw [Checked.slice_eq_extract (by omega) (by omega), Nat.add_sub_cancel]
  have hdrop : f.bytes.drop 6 = f.payload ++ f.checksum.bytes := rfl
  rw [Bytes.extract, hdrop, List.take_left]

theorem get_checksum :
    Checked.get f.bytes (f.payload.length + 6) = .ok f.checksum.a ∧
      Checked.get f.bytes (f.payload.length + 6 + 1) = .ok f.checksum.b := by
  have hbytes : f.bytes = (sync1 :: sync2 :: f.body) ++ f.checksum.bytes := rfl
  have hfront : (sync1 :: sync2 :: f.body).length = f.payload.length + 6 := by
    simp only [List.length_cons, length_body]
  rw [hbytes, ← hfront]
  constructor
  · exact Checked.get_eq (by simp [Checksum.bytes])
  · exact Checked.get_eq (by rw [List.getElem?_append_right (by omega)]; simp [Checksum.bytes])

/-- What is read of the bytes of a frame is the frame, if its checksum is right. -/
theorem read_bytes : read f.bytes = .ok (if f.intact then some f else none) := by
  have hsub : Checked.sub f.bytes.length 2 = .ok (f.payload.length + 6) := by
    rw [Checked.sub, length_bytes, if_pos (by simp only [length]; omega)]
    rfl
  have hframe : ¬ f.bytes.length ≠ f.header.frameLength := by
    rw [frameLength_header, length_bytes]
    exact fun h => h rfl
  obtain ⟨ha, hb⟩ := f.get_checksum
  simp only [read, Header.read_eq, peek?_whole, if_neg hframe, hsub, f.slice_body, ha, hb,
    f.slice_payload, bind, Except.bind, pure, Except.pure]
  by_cases h : f.intact = true
  · rw [if_pos h, dif_pos ⟨intact_iff.1 h, f.fits⟩]
    rfl
  · rw [if_neg h, dif_neg fun hok => h (intact_iff.2 hok.1)]

theorem length_of_parse? {data : Bytes} {f : Frame} {h : Header}
    (hpeek : Header.peek? data = some h) (hparse : parse? data = some f) :
    data.length = h.frameLength := by
  obtain rfl := (parse?_eq_some_iff.1 hparse).2
  rw [← Option.some.inj (f.peek?_whole.symm.trans hpeek), frameLength_header, length_bytes]

theorem read_eq (data : Bytes) : read data = .ok (parse? data) := by
  cases hpeek : Header.peek? data with
  | none =>
    have htake : take? data = none := take?_eq_none_iff.2 fun h hh => by rw [hpeek] at hh; cases hh
    simp only [read, Header.read_eq, hpeek, parse?, htake]
    rfl
  | some h =>
    by_cases hlen : data.length = h.frameLength
    · obtain ⟨f, htake, -, -⟩ := take?_of_peek? hpeek (Nat.le_of_eq hlen.symm)
      rw [List.drop_eq_nil_of_le (Nat.le_of_eq hlen)] at htake
      have hdata : data = f.bytes := (eq_of_take? htake).trans (List.append_nil _)
      simp only [parse?, htake]
      rw [hdata, read_bytes]
    · have hparse : parse? data = none :=
        Option.eq_none_iff_forall_ne_some.2 fun f hf => hlen (length_of_parse? hpeek hf)
      simp only [read, Header.read_eq, hpeek, hparse]
      exact if_pos hlen

end Frame

end GnssAiding
