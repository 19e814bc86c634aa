/-
Initial messages in front of a blob, and the messages that are listed then.

What leads a blob is found by looking at its first frame alone, and the frames of a stream
are found one behind the other, so both cut at the same place: a clean stream without the
initial time message that leads it is the stream of its other frames
(`withoutTime_flatMap`), and with new messages in front it is clean just when it was
(`clean_append_iff`). The messages of the other frames move up by what is in front of them
(`ofFrames_append`). A second initial time takes the place of the first.
-/
import GnssAiding.Proofs.Initial.Lead
import GnssAiding.Proofs.Message.List

namespace GnssAiding

namespace Stream

/-- Frames one behind the other. -/
def Clean (data : Bytes) : Prop := ∃ fs : List Frame, data = fs.flatMap Frame.bytes

theorem clean_cons_iff {f : Frame} {rest : Bytes} : Clean (f.bytes ++ rest) ↔ Clean rest := by
  constructor
  · rintro ⟨fs, hfs⟩
    cases fs with
    | nil => cases hfs
    | cons g fs =>
      have hf := f.take?_bytes rest
      rw [hfs, List.flatMap_cons, g.take?_bytes] at hf
      cases hf
      exact ⟨fs, rfl⟩
  · rintro ⟨fs, rfl⟩
    exact ⟨f :: fs, rfl⟩

/-- Frames in front of a stream leave it as clean as it was. -/
theorem clean_append_iff {fs : List Frame} {rest : Bytes} :
    Clean (fs.flatMap Frame.bytes ++ rest) ↔ Clean rest := by
  induction fs with
  | nil => exact Iff.rfl
  | cons f fs ih => rw [List.flatMap_cons, List.append_assoc, clean_cons_iff, ih]

theorem locate_append (offset : Nat) (fs gs : List Frame) :
    locate offset (fs ++ gs) =
      locate offset fs ++ locate (offset + (fs.flatMap Frame.bytes).length) gs := by
  induction fs generalizing offset with
  | nil => rfl
  | cons f fs ih =>
    simp only [List.cons_append, locate, ih, List.flatMap_cons, List.length_append, f.length_bytes,
      Nat.add_assoc]

theorem locate_add (offset more : Nat) (fs : List Frame) :
    locate (offset + more) fs =
      (locate offset fs).map fun l => { l with offset := l.offset + more } := by
  induction fs generalizing offset with
  | nil => rfl
  | cons f fs ih =>
    have hnext : offset + more + f.length = offset + f.length + more := Nat.add_right_comm _ _ _
    simp only [locate, List.map_cons, hnext, ih]

end Stream

namespace Message

/-- The message with so many messages and so many bytes put in front of it. -/
def shift (messages bytes : Nat) (m : Message) : Message :=
  { m with sequence := m.sequence + messages, offset := m.offset + bytes }

/-- The messages of frames with others in front of them move up. -/
theorem ofFrames_append (fs gs : List Frame) :
    ofFrames (fs ++ gs) = ofFrames fs ++
      (ofFrames gs).map (shift (fs.countP Frame.wanted) (fs.flatMap Frame.bytes).length) := by
  have hlength : ((Stream.locate 0 fs).filter wanted).length = fs.countP Frame.wanted := by
    rw [← length_ofFrames, ofFrames, List.length_mapIdx]
  have hlocate := Stream.locate_add 0 (fs.flatMap Frame.bytes).length gs
  rw [ofFrames, Stream.locate_append, List.filter_append, List.mapIdx_append, hlength, hlocate,
    List.filter_map]
  refine congrArg (ofFrames fs ++ ·) (List.ext_getElem? fun k => ?_)
  simp only [ofFrames, List.getElem?_mapIdx, List.getElem?_map, Option.map_map]
  rfl

end Message

namespace Initial

/-- A stream without the initial time message that leads it. -/
def behindTime : List Frame → List Frame
  | [] => []
  | f :: fs => if IsTime f then fs else f :: fs

/-- Bytes and frames are cut at the same place. -/
theorem withoutTime_flatMap (fs : List Frame) :
    withoutTime (fs.flatMap Frame.bytes) = (behindTime fs).flatMap Frame.bytes := by
  cases fs with
  | nil => rfl
  | cons f fs =>
    rw [List.flatMap_cons, behindTime]
    by_cases ht : IsTime f
    · rw [if_pos ht, withoutTime, lead?_of_isTime ht]
    · rw [if_neg ht, withoutTime, ← List.flatMap_cons]
      split
      · next g rest hg hl =>
        obtain ⟨hdata, hg⟩ := isTime_of_lead? hl
        have htake := f.take?_bytes (fs.flatMap Frame.bytes)
        rw [← List.flatMap_cons, hdata, g.take?_bytes] at htake
        cases htake
        exact absurd hg ht
      · rfl

/-- What is left behind an initial time is a clean stream just when the whole is. -/
theorem clean_withoutTime_iff {data : Bytes} :
    Stream.Clean (withoutTime data) ↔ Stream.Clean data := by
  unfold withoutTime
  split
  · next f rest hf hl =>
    obtain ⟨rfl, -⟩ := isTime_of_lead? hl
    exact Stream.clean_cons_iff.symm
  · exact Iff.rfl

/-! ## The initial messages -/

/-- The initial messages that go in front of a blob. -/
def frames (t : TimeAdjustment) (p : Option Position) : List Frame :=
  messageOf t :: p.toList.map positionFrame

theorem wanted_frames (t : TimeAdjustment) (p : Option Position) :
    ∀ f ∈ frames t p, f.wanted = true := by
  have hini : ∀ payload fits,
      (Frame.sealed MessageClass.mga MgaId.ini payload fits).wanted = true :=
    fun payload fits => Bool.and_eq_true_iff.2 ⟨rfl, Frame.intact_sealed _ _ payload fits⟩
  intro f hf
  rcases List.mem_cons.1 hf with rfl | hf
  · exact hini _ _
  · obtain ⟨q, -, rfl⟩ := List.mem_map.1 hf
    exact hini _ _

theorem prepend_eq {t : TimeAdjustment} (h : t.Complete) (data : Bytes) (p : Option Position) :
    prepend data t p = .ok ((frames t p).flatMap Frame.bytes ++ withoutTime data) := by
  unfold prepend
  rw [timeFrame_eq h]
  cases p <;> simp [frames]

/-- The initial time that was put in front is the one that is left out. -/
theorem withoutTime_frames (t : TimeAdjustment) (data : Bytes) :
    withoutTime ((frames t none).flatMap Frame.bytes ++ withoutTime data) = withoutTime data := by
  have htime : IsTime (messageOf t) := isTime_timeMessage _ _ _
  have hone : (frames t none).flatMap Frame.bytes = (messageOf t).bytes := List.append_nil _
  rw [hone]
  conv => lhs; rw [withoutTime, lead?_of_isTime htime]

/-- A stream with initial messages in front of it has something to list. -/
theorem list_frames (t : TimeAdjustment) (p : Option Position) (fs : List Frame) :
    Message.list ((frames t p ++ fs).flatMap Frame.bytes) =
      .ok (Message.ofFrames (frames t p ++ fs)) := by
  have hsome : Message.ofFrames (frames t p ++ fs) ≠ [] := by
    rw [Ne, Message.ofFrames_eq_nil_iff]
    intro hnone
    have htime : messageOf t ∈ frames t p := List.mem_cons_self
    exact Bool.false_ne_true
      ((hnone _ (List.mem_append_left _ htime)).symm.trans (wanted_frames t p _ htime))
  rw [Message.list_flatMap, if_neg hsome]

/-- **Initial messages go with the listing and do not stack.** A blob with an initial time put
in front of it, and then new initial messages, is the blob with the new ones in front. The
result is refused as no stream exactly if the data is none. Otherwise the initial messages
are listed, and after them the wanted messages of the data without an initial time message that
leads it, in order and moved up by what is in front of them. -/
theorem prepend_composes (data : Bytes) {t₁ t₂ : TimeAdjustment} (h₁ : t₁.Complete)
    (h₂ : t₂.Complete) (p : Option Position) :
    (∃ once blob, prependTime data t₁ = .ok once ∧ prepend once t₂ p = .ok blob ∧
        prepend data t₂ p = .ok blob) ∧
      ∃ time blob, timeFrame t₁ = .ok time ∧ prepend data t₁ p = .ok blob ∧
        (Message.list blob = .error .badData ↔ ¬ Stream.Clean data) ∧
        ∀ fs : List Frame, data = fs.flatMap Frame.bytes →
          let initial := time :: p.toList.map positionFrame
          let listed := Message.ofFrames initial ++ (Message.ofFrames (behindTime fs)).map
            (Message.shift initial.length (initial.flatMap Frame.bytes).length)
          Message.list blob = .ok listed ∧
            listed.map (·.frame) = initial ++ (behindTime fs).filter Frame.wanted ∧
            listed.map (·.bytesIn blob) =
              (initial ++ (behindTime fs).filter Frame.wanted).map fun f => .ok f.bytes := by
  refine ⟨⟨_, _, prepend_eq h₁ data none, ?_, prepend_eq h₂ data p⟩, messageOf t₁, _,
    timeFrame_eq h₁, prepend_eq h₁ data p, ?_, ?_⟩
  · rw [prepend_eq h₂, withoutTime_frames]
  · rw [Message.list_eq_badData_iff]
    exact not_congr (Stream.clean_append_iff.trans clean_withoutTime_iff)
  · rintro fs rfl initial listed
    have hblob : (frames t₁ p).flatMap Frame.bytes ++ withoutTime (fs.flatMap Frame.bytes) =
        (frames t₁ p ++ behindTime fs).flatMap Frame.bytes := by
      rw [withoutTime_flatMap, List.flatMap_append]
    have hlisted : listed = Message.ofFrames (frames t₁ p ++ behindTime fs) := by
      rw [Message.ofFrames_append, List.countP_eq_length.2 (wanted_frames t₁ p)]
      rfl
    have hwanted : (frames t₁ p ++ behindTime fs).filter Frame.wanted =
        initial ++ (behindTime fs).filter Frame.wanted := by
      rw [List.filter_append, List.filter_eq_self.2 (wanted_frames t₁ p)]
      rfl
    rw [hblob, hlisted]
    refine ⟨list_frames t₁ p _, ?_, ?_⟩
    · rw [Message.map_frame_ofFrames, hwanted]
    · rw [Message.map_bytesIn_ofFrames, hwanted]

/-- A blob that leads with a damaged initial time, and behind it a frame of no interest, one
that is wanted and one that is damaged. -/
theorem prepend_composes_damaged :
    let eve := TimeAdjustment.absolute ⟨⟨2023, 12, 31⟩, 23, 59, 59⟩ 3 500
    let noon := TimeAdjustment.absolute ⟨⟨2024, 1, 1⟩, 12, 0, 0⟩ 10 0
    let place : Position := ⟨473000000, 85000000, 408000, 100000⟩
    let fs : List Frame := { messageOf eve with checksum := ⟨0, 0⟩ } :: Message.mixedFrames
    let data := fs.flatMap Frame.bytes
    noon.Complete ∧ eve.Complete ∧
      (∃ once blob, prependTime data noon = .ok once ∧ prepend once eve (some place) = .ok blob ∧
        prepend data eve (some place) = .ok blob) ∧
      ∃ blob messages, prepend data noon (some place) = .ok blob ∧
        Message.list blob = .ok messages ∧
        messages.map (fun m => (m.sequence, m.offset, m.frame.id)) =
          [(0, 0, MgaId.ini), (1, 32, MgaId.ini), (2, 71, MgaId.gps)] := by
  intro eve noon place fs data
  have hnoon : noon.Complete :=
    TimeAdjustment.complete_absolute (by decide) (by decide) 10 (by decide)
  have heve : eve.Complete :=
    TimeAdjustment.complete_absolute (by decide) (by decide) 3 (by decide)
  obtain ⟨hstack, time, blob, htime, hblob, -, hlist⟩ :=
    prepend_composes data hnoon heve (some place)
  obtain ⟨hlisted, -, -⟩ := hlist fs rfl
  obtain rfl : messageOf noon = time := Except.ok.inj ((timeFrame_eq hnoon).symm.trans htime)
  exact ⟨hnoon, heve, hstack, blob, _, hblob, hlisted, by decide +kernel +zetaReduce⟩

end Initial

end GnssAiding
