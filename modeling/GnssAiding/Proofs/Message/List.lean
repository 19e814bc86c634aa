/-
The messages of a blob.

A blob that is not frames one behind the other is refused, and so is one with no frame
that is worth sending. Of any other there is one message for each frame that is, in the
order of the frames, and it holds what the transfer has to know of the frame and where
it stands (`Message.StandsFor`, `list_exact`).
-/
import GnssAiding.Message.Basic
import GnssAiding.Proofs.Frame.Codec
import GnssAiding.Proofs.Frame.Stream

namespace GnssAiding

/-- The frame is worth sending: of interest, and not damaged. -/
def Frame.wanted (f : Frame) : Bool := f.header.ofInterest && f.intact

theorem Head.bytes_ofPayload (p : Bytes) : (ofPayload p).bytes = (p ++ [0, 0, 0, 0]).take 4 := by
  match p with
  | [] | [_] | [_, _] | [_, _, _] | _ :: _ :: _ :: _ :: _ => rfl

namespace Message

/-- The messages of a blob are its frames that are wanted, if it is a clean stream. -/
theorem list_eq_ok_iff {data : Bytes} {ms : List Message} :
    list data = .ok ms ↔ (Stream.split data).2 = [] ∧ ms ≠ [] ∧
      ms = ((Stream.locate 0 (Stream.split data).1).filter wanted).mapIdx ofLocated := by
  unfold list
  cases hf : Stream.frames data with
  | error e =>
    refine iff_of_false (by rintro ⟨⟩) fun ⟨hclean, _⟩ => ?_
    cases hf.symm.trans (Stream.frames_eq_ok_iff.2 ⟨hclean, rfl⟩)
  | ok ls =>
    obtain ⟨hclean, rfl⟩ := Stream.frames_eq_ok_iff.1 hf
    simp only [bind, Except.bind, hclean, true_and]
    split
    · next hnone => exact iff_of_false (by rintro ⟨⟩) fun ⟨hne, hms⟩ => hne (hms.trans hnone)
    · next hsome =>
      constructor
      · rintro ⟨⟩
        exact ⟨hsome, rfl⟩
      · rintro ⟨-, rfl⟩
        rfl

/-- A blob that is not frames one behind the other is refused, and no other for that. -/
theorem list_eq_badData_iff {data : Bytes} :
    list data = .error .badData ↔ ¬ ∃ fs : List Frame, data = fs.flatMap Frame.bytes := by
  rw [← Stream.frames_eq_badData_iff]
  unfold list
  cases hf : Stream.frames data with
  | error e => simp [bind, Except.bind]
  | ok ls =>
    simp only [bind, Except.bind]
    split <;> simp

section Frames

variable {fs : List Frame}

/-- The messages that these frames make. -/
def ofFrames (fs : List Frame) : List Message :=
  ((Stream.locate 0 fs).filter wanted).mapIdx ofLocated

/-- There is one message for each frame that is wanted. -/
theorem length_ofFrames : (ofFrames fs).length = fs.countP Frame.wanted := by
  rw [ofFrames, List.length_mapIdx, ← List.countP_eq_length_filter]
  conv => rhs; rw [← Stream.map_frame_locate 0 fs, List.countP_map]
  rfl

theorem ofFrames_eq_nil_iff : ofFrames fs = [] ↔ ∀ f ∈ fs, f.wanted = false := by
  rw [← List.length_eq_zero_iff, length_ofFrames, List.countP_eq_zero]
  simp only [Bool.not_eq_true]

theorem list_flatMap (fs : List Frame) :
    list (fs.flatMap Frame.bytes) =
      if ofFrames fs = [] then .error .noDataToSend else .ok (ofFrames fs) := by
  simp only [list, Stream.frames_flatMap, bind, Except.bind]
  split
  · next hnone => exact (if_pos hnone).symm
  · next hsome => exact (if_neg hsome).symm

/-! ## What a message holds -/

/-- The message is the one of `data` for the frame `f` that has the frames `before` in
front of it, and nothing has been done about it. -/
structure StandsFor (m : Message) (data : Bytes) (before : List Frame) (f : Frame) : Prop where
  /-- In particular the class and the id are those of the frame. -/
  frame : m.frame = f
  sequence : m.sequence = before.countP Frame.wanted
  offset : m.offset = (before.flatMap Frame.bytes).length
  length : m.length = f.bytes.length
  /-- The head of the payload is filled up with zeros. -/
  head : m.head.bytes = (f.payload ++ [0, 0, 0, 0]).take 4
  state : m.state = .waitingToSend
  retries : m.retries = 0
  deadline : m.deadline = 0
  failure : m.failure = none
  bytesIn : m.bytesIn data = .ok f.bytes
  parses : Frame.parse? f.bytes = some f

theorem StandsFor.eq_ofLocated {m : Message} {data : Bytes} {before : List Frame} {f : Frame}
    (h : m.StandsFor data before f) :
    m = ofLocated (before.countP Frame.wanted) ⟨(before.flatMap Frame.bytes).length, f⟩ := by
  obtain ⟨offset, frame, sequence, state, retries, deadline, failure⟩ := m
  obtain ⟨rfl, rfl, rfl, -, -, rfl, rfl, rfl, rfl, -, -⟩ := h
  rfl

/-- The slice of the blob where a frame stands is the frame. -/
theorem standsFor_ofLocated {before after : List Frame} {f : Frame} (h : f.wanted = true) :
    (ofLocated (before.countP Frame.wanted) ⟨(before.flatMap Frame.bytes).length, f⟩).StandsFor
      ((before ++ f :: after).flatMap Frame.bytes) before f where
  frame := rfl
  sequence := rfl
  offset := rfl
  length := f.length_bytes.symm
  head := Head.bytes_ofPayload _
  state := rfl
  retries := rfl
  deadline := rfl
  failure := rfl
  bytesIn := by
    rw [List.flatMap_append, List.flatMap_cons, ← List.append_assoc]
    exact Stream.slice_middle _ f _
  parses := Frame.parse?_bytes (Bool.and_eq_true_iff.1 h).2

/-- The message with index `k` stands for the frame with `k` wanted ones in front of it. -/
theorem getElem?_ofFrames {k : Nat} {m : Message} :
    (ofFrames fs)[k]? = some m ↔ ∃ before f after, fs = before ++ f :: after ∧
      f.wanted = true ∧ before.countP Frame.wanted = k ∧
        m.StandsFor (fs.flatMap Frame.bytes) before f := by
  have hplace := @Stream.getElem?_filter_locate Frame.wanted fs 0 k
  rw [ofFrames, List.getElem?_mapIdx, Option.map_eq_some_iff]
  constructor
  · rintro ⟨⟨offset, f⟩, hl, rfl⟩
    obtain ⟨before, after, rfl, hf, rfl, hoffset⟩ := hplace.1 hl
    rw [Nat.zero_add] at hoffset
    cases hoffset
    exact ⟨before, f, after, rfl, hf, rfl, standsFor_ofLocated hf⟩
  · rintro ⟨before, f, after, rfl, hf, rfl, hm⟩
    refine ⟨⟨(before.flatMap Frame.bytes).length, f⟩, hplace.2 ?_, hm.eq_ofLocated.symm⟩
    exact ⟨before, after, rfl, hf, rfl, (Nat.zero_add _).symm⟩

theorem map_frame_ofFrames (fs : List Frame) :
    (ofFrames fs).map (·.frame) = fs.filter Frame.wanted := by
  conv => rhs; rw [← Stream.map_frame_locate 0 fs, List.filter_map]
  refine List.ext_getElem? fun k => ?_
  simp only [ofFrames, List.getElem?_map, List.getElem?_mapIdx, Option.map_map]
  rfl

/-- What stands in the blob where its messages are is the frames that are wanted. -/
theorem map_bytesIn_ofFrames (fs : List Frame) :
    (ofFrames fs).map (·.bytesIn (fs.flatMap Frame.bytes)) =
      (fs.filter Frame.wanted).map fun f => .ok f.bytes := by
  rw [← map_frame_ofFrames, List.map_map]
  refine List.map_congr_left fun m hm => ?_
  obtain ⟨k, hk⟩ := List.getElem?_of_mem hm
  obtain ⟨before, f, after, -, -, -, hstands⟩ := getElem?_ofFrames.1 hk
  rw [hstands.bytesIn, Function.comp_apply, hstands.frame]

end Frames

/-- **A blob is listed exactly.** A blob is refused as no stream just when it is not frames
one behind the other, whatever their checksums. If it is, there is nothing to send just
when no frame is both of interest and intact; otherwise there is one message for each of
these, in order, with its place among them, its place in the blob, what is known of the
frame, and nothing done about it yet. -/
theorem list_exact (data : Bytes) :
    (list data = .error .badData ↔ ¬ ∃ fs : List Frame, data = fs.flatMap Frame.bytes) ∧
      ∀ fs : List Frame, data = fs.flatMap Frame.bytes →
        (list data = .error .noDataToSend ↔ ∀ f ∈ fs, f.wanted = false) ∧
          ((∃ f ∈ fs, f.wanted = true) → ∃ messages, list data = .ok messages ∧
            messages.length = fs.countP Frame.wanted ∧
              ∀ k m, messages[k]? = some m ↔ ∃ before f after, fs = before ++ f :: after ∧
                f.wanted = true ∧ before.countP Frame.wanted = k ∧ m.StandsFor data before f) := by
  refine ⟨list_eq_badData_iff, ?_⟩
  rintro fs rfl
  rw [list_flatMap]
  refine ⟨?_, fun ⟨f, hf, hwanted⟩ => ?_⟩
  · rw [← ofFrames_eq_nil_iff]
    split
    · next hnone => exact iff_of_true rfl hnone
    · next hsome => exact iff_of_false (by rintro ⟨⟩) hsome
  · have hsome : ofFrames fs ≠ [] := fun hnone =>
      absurd (ofFrames_eq_nil_iff.1 hnone f hf) (by simp [hwanted])
    exact ⟨ofFrames fs, if_neg hsome, length_ofFrames, fun k m => getElem?_ofFrames⟩

/-- A frame of no interest, one with two sync characters in its payload, and the same
with a wrong checksum. -/
def mixedFrames : List Frame :=
  let gps : Frame := .sealed MessageClass.mga MgaId.gps [1, 0, 0xB5, 0x62, 3, 4] (by decide)
  [.sealed 0x01 0x07 [0, 0, 0] (by decide), gps, { gps with checksum := ⟨0, 0⟩ }]

/-- A frame with a single byte for a payload. -/
def shortFrame : Frame := .sealed MessageClass.mga MgaId.dbd [7] (by decide)

theorem list_exact_shortFrame :
    let fs := mixedFrames ++ [shortFrame]
    let blob := fs.flatMap Frame.bytes
    (∃ f ∈ fs, f.wanted = true) ∧ ∃ messages, list blob = .ok messages ∧
      messages.length = 2 ∧ ∃ m, messages[1]? = some m ∧ m.sequence = 1 ∧ m.offset = 39 ∧
        m.head.bytes = [7, 0, 0, 0] ∧ m.bytesIn blob = .ok shortFrame.bytes := by
  intro fs blob
  have hshort : shortFrame.wanted = true := by decide +kernel
  have hwanted : ∃ f ∈ fs, f.wanted = true := ⟨shortFrame, by simp [fs], hshort⟩
  obtain ⟨messages, hlist, hlength, hall⟩ := ((list_exact blob).2 fs rfl).2 hwanted
  have hstands := @standsFor_ofLocated mixedFrames [] shortFrame hshort
  have hindex : mixedFrames.countP Frame.wanted = 1 := by decide +kernel
  have hoffset : (mixedFrames.flatMap Frame.bytes).length = 39 := by decide +kernel
  have hone := (hall 1 _).2 ⟨mixedFrames, shortFrame, [], rfl, hshort, hindex, hstands⟩
  refine ⟨hwanted, messages, hlist, ?_, _, hone, hindex, hoffset, hstands.head, hstands.bytesIn⟩
  rw [hlength]
  decide +kernel

end Message

end GnssAiding
