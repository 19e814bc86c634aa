/-
A served file is a byte array.

What a frame from the receiver makes of the file is `Server.edit`, and what goes back
for it is `Server.replies`: for a request one frame with bytes of the file, for any
other frame nothing. The machine gets there by checked slices, offsets cut to the
length of the file and a check of the length of the reply. None of these checks ever
fails, since a frame holds less than 65536 bytes (`receive_eq`).
-/
import GnssAiding.Legacy.Server
import GnssAiding.Proofs.Transfer.Turn

namespace GnssAiding.Legacy

/-! ## Bytes written over a file -/

/-- `data` with `fresh` written over it from byte `start` on. What would reach beyond
the end is dropped. -/
def patch (start : Nat) (fresh data : Bytes) : Bytes :=
  data.mapIdx fun i b => if start ≤ i then fresh.getD (i - start) b else b

@[simp]
theorem length_patch (start : Nat) (fresh data : Bytes) :
    (patch start fresh data).length = data.length := List.length_mapIdx

/-- What fits is written as it is. -/
theorem splice_eq {start : Nat} {fresh data : Bytes} (h : start + fresh.length ≤ data.length) :
    Checked.splice start fresh data = .ok (patch start fresh data) := by
  have hhead : (data.take start).length = start := List.length_take_of_le (by omega)
  have hlen : (data.take start ++ fresh).length = start + fresh.length := by
    rw [List.length_append, hhead]
  rw [Checked.splice, if_pos h]
  congr 1
  refine List.ext_getElem (by simp; omega) fun i hi _ => ?_
  simp only [patch, List.getElem_mapIdx, List.getD_eq_getElem?_getD]
  rcases Nat.lt_or_ge i start with hlt | hge
  · rw [if_neg (Nat.not_le_of_lt hlt), List.getElem_append_left (by omega),
      List.getElem_append_left (by omega), List.getElem_take]
  · rw [if_pos hge]
    rcases Nat.lt_or_ge (i - start) fresh.length with hf | hf
    · rw [List.getElem_append_left (by omega), List.getElem_append_right (by omega),
        List.getElem?_eq_getElem hf, Option.getD_some]
      simp only [hhead]
    · have hi' : start + fresh.length + (i - (start + fresh.length)) = i := by omega
      rw [List.getElem_append_right (by omega), List.getElem_drop, List.getElem?_eq_none hf,
        Option.getD_none]
      simp only [hlen, hi']

/-- Only the bytes up to the end of the file count. -/
theorem patch_take {start n : Nat} {fresh data : Bytes} (h : data.length ≤ start + n) :
    patch start (fresh.take n) data = patch start fresh data := by
  refine List.ext_getElem (by simp) fun i hi _ => ?_
  have hin : i < data.length := by rwa [length_patch] at hi
  simp only [patch, List.getElem_mapIdx, List.getD_eq_getElem?_getD]
  split
  · rw [List.getElem?_take_of_lt (by omega)]
  · rfl

theorem patch_of_length_le {start : Nat} {fresh data : Bytes} (h : data.length ≤ start) :
    patch start fresh data = data := by
  refine List.ext_getElem (by simp) fun i hi hin => ?_
  simp only [patch, List.getElem_mapIdx]
  rw [if_neg (by omega)]

/-- An offset and an end that are cut to the length of the file say the same as the
patch that is clipped. -/
theorem splice_clipped (start : Nat) (fresh data : Bytes) :
    Checked.splice (min start data.length)
        (fresh.take (min (start + fresh.length) data.length - min start data.length)) data =
      .ok (patch start fresh data) := by
  rw [splice_eq (by rw [List.length_take]; omega)]
  rcases Nat.le_total start data.length with h | h
  · rw [Nat.min_eq_left h]
    rcases Nat.le_total (start + fresh.length) data.length with hend | hend
    · rw [Nat.min_eq_left hend, Nat.add_sub_cancel_left, List.take_length]
    · rw [Nat.min_eq_right hend, patch_take (by omega)]
  · rw [patch_of_length_le h, patch_of_length_le (Nat.le_min.2 ⟨h, Nat.le_refl _⟩)]

/-- The same for bytes that are read. -/
theorem slice_clipped (start n : Nat) (data : Bytes) :
    Checked.slice data (min start data.length) (min (start + n) data.length) =
      .ok (Bytes.extract start n data) := by
  rw [Checked.slice, if_pos (by omega), Bytes.extract]
  congr 1
  rcases Nat.le_total start data.length with h | h
  · rw [Nat.min_eq_left h]
    rcases Nat.le_total (start + n) data.length with hend | hend
    · rw [Nat.min_eq_left hend, Nat.add_sub_cancel_left]
    · have hrest : (data.drop start).length = data.length - start := List.length_drop
      rw [Nat.min_eq_right hend, ← hrest, List.take_length, List.take_of_length_le (by omega)]
  · rw [Nat.min_eq_right h, List.drop_length, List.drop_eq_nil_of_le h, List.take_nil,
      List.take_nil]

theorem length_extract (start n : Nat) (data : Bytes) :
    (Bytes.extract start n data).length =
      min (start + n) data.length - min start data.length := by
  rw [Bytes.extract, List.length_take, List.length_drop]
  omega

namespace Server

/-! ## What a message says -/

/-- The word at byte `i` of a payload that holds it. -/
def word (p : Bytes) (i : Nat) : UInt16 := Bytes.read16 (p.getD i 0) (p.getD (i + 1) 0)

theorem wordAt_eq {p : Bytes} {i : Nat} (h : i + 1 < p.length) : wordAt p i = .ok (word p i) := by
  rw [wordAt, Checked.get_eq_getD (by omega), Checked.get_eq_getD h]
  rfl

/-- Where in the file the message begins, in bytes. -/
def offset (p : Bytes) : Nat := 2 * (word p 2).toNat

/-- How many bytes the message is about. -/
def size (p : Bytes) : Nat := 2 * (word p 4).toNat

/-- The file that the message is about. -/
def subject (p : Bytes) : UInt16 := word p 6

theorem asked_eq {p : Bytes} (h : requestLength ≤ p.length) : asked p = .ok (offset p, size p) := by
  unfold requestLength at h
  rw [asked, wordAt_eq (by omega), wordAt_eq (by omega), offset, size, Nat.mul_comm 2,
    Nat.mul_comm 2]
  rfl

/-- The frame is a message to a server: an update or a request. -/
def Addressed (f : Frame) : Prop := f.kind? = some .aidAlpsrv ∧ requestLength ≤ f.payload.length

instance (f : Frame) : Decidable (Addressed f) := inferInstanceAs (Decidable (_ ∧ _))

/-- The message is an update. -/
def Updates (p : Bytes) : Prop := p.getD 1 0 = updateType

instance (p : Bytes) : Decidable (Updates p) := inferInstanceAs (Decidable (_ = _))

/-! ## What a message does -/

/-- What an update has to write. -/
def fresh (p : Bytes) : Bytes := (p.drop 8).take (min (size p) (p.length - 8))

/-- The file after a frame: changed by an update of this file, else the same. -/
def edit (fileId : UInt16) (file : Bytes) (f : Frame) : Bytes :=
  if Addressed f ∧ Updates f.payload ∧ subject f.payload = fileId then
    patch (offset f.payload) (fresh f.payload) file
  else file

@[simp]
theorem length_edit (fileId : UInt16) (file : Bytes) (f : Frame) :
    (edit fileId file f).length = file.length := by
  unfold edit
  split
  · exact length_patch _ _ _
  · rfl

/-- How much of a request goes back with its answer. -/
def echoed (p : Bytes) : Nat := max requestLength (min (p.getD 0 0).toNat p.length)

/-- The bytes of the file that a request is answered with: what it asks for, as far as
the file goes and a frame has room. -/
def served (file p : Bytes) : Bytes :=
  Bytes.extract (offset p) (min (size p) (maxPayload - echoed p)) file

/-- What goes back of a request, with the file id and the number of bytes filled in. -/
def heading (fileId : UInt16) (file p : Bytes) : Bytes :=
  patch 8 (Bytes.le16 (UInt16.ofNat (served file p).length))
    (patch 6 (Bytes.le16 fileId) (p.take (echoed p)))

theorem length_served_le (file p : Bytes) :
    (served file p).length ≤ maxPayload - echoed p := by
  rw [served, Bytes.extract]
  exact Nat.le_trans (List.length_take_le _ _) (Nat.min_le_right _ _)

theorem echoed_le {p : Bytes} (h : p.length < 65536) : echoed p ≤ maxPayload := by
  unfold echoed requestLength maxPayload
  omega

theorem length_answer_lt (fileId : UInt16) (file : Bytes) {p : Bytes} (h : p.length < 65536) :
    (heading fileId file p ++ served file p).length < 65536 := by
  have hserved : (served file p).length ≤ maxPayload - echoed p := length_served_le file p
  have hechoed : echoed p ≤ maxPayload := echoed_le h
  have hhead : (heading fileId file p).length ≤ echoed p := by
    rw [heading, length_patch, length_patch]
    exact List.length_take_le _ _
  rw [List.length_append]
  unfold maxPayload at *
  omega

/-- The frame that answers a request. -/
def reply (fileId : UInt16) (file : Bytes) (f : Frame) : Frame :=
  .sealed MessageClass.aid AidId.alpsrv
    (heading fileId file f.payload ++ served file f.payload)
    (length_answer_lt fileId file f.fits)

/-- What goes to the receiver for a frame: the answer to a request, else nothing. -/
def replies (fileId : UInt16) (file : Bytes) (f : Frame) : List Bytes :=
  if Addressed f ∧ ¬ Updates f.payload then [(reply fileId file f).bytes] else []

/-! ## The machine does it -/

section Machine

variable (s : Server)

theorem answer_eq {p : Bytes} (h : requestLength ≤ p.length) (hp : p.length < 65536) :
    s.answer p (offset p) (size p) =
      .ok (heading s.fileId s.file p ++ served s.file p, (served s.file p).length) := by
  have hechoed : echoed p ≤ maxPayload := echoed_le hp
  have hclamp : Checked.clamp requestLength p.length (p.getD 0 0).toNat = .ok (echoed p) :=
    if_pos h
  have hroom : Checked.sub maxPayload (echoed p) = .ok (maxPayload - echoed p) := if_pos hechoed
  have hten : requestLength ≤ echoed p := Nat.le_max_left _ _
  have hle : echoed p ≤ p.length := by
    unfold echoed
    omega
  have hhead : Checked.slice p 0 (echoed p) = .ok (p.take (echoed p)) := by
    rw [Checked.slice, if_pos ⟨Nat.zero_le _, hle⟩, List.drop_zero, Nat.sub_zero]
  have hlength : (p.take (echoed p)).length = echoed p := List.length_take_of_le hle
  have hcount : Checked.sub (min (offset p + min (size p) (maxPayload - echoed p)) s.file.length)
      (min (offset p) s.file.length) = .ok (served s.file p).length := by
    rw [served, length_extract]
    exact if_pos (by omega)
  have hid : Checked.splice 6 (Bytes.le16 s.fileId) (p.take (echoed p)) =
      .ok (patch 6 (Bytes.le16 s.fileId) (p.take (echoed p))) :=
    splice_eq (by rw [hlength, Bytes.length_le16]; exact Nat.le_trans (by decide) hten)
  have hsize : Checked.splice 8 (Bytes.le16 (UInt16.ofNat (served s.file p).length))
      (patch 6 (Bytes.le16 s.fileId) (p.take (echoed p))) = .ok (heading s.fileId s.file p) :=
    splice_eq (by rw [length_patch, hlength, Bytes.length_le16]; exact hten)
  rw [answer, Checked.get_eq_getD (Nat.lt_of_lt_of_le (by decide) h)]
  simp only [bind, Except.bind, hclamp, hroom, hcount, hhead, hid, hsize, slice_clipped]
  rfl

/-- How many bytes an update writes. -/
def count (file p : Bytes) : Nat :=
  min (offset p + (fresh p).length) file.length - min (offset p) file.length

theorem length_fresh {p : Bytes} : (fresh p).length = min (size p) (p.length - 8) := by
  rw [fresh, List.length_take, List.length_drop]
  omega

theorem changed_eq {p : Bytes} (h : requestLength ≤ p.length) :
    s.changed p (offset p) (size p) =
      .ok (patch (offset p) (fresh p) s.file, count s.file p) := by
  have hgiven : Checked.slice p 8 p.length = .ok (p.drop 8) := by
    rw [Checked.slice, if_pos ⟨Nat.le_trans (by decide) h, Nat.le_refl _⟩,
      List.take_of_length_le (Nat.le_of_eq List.length_drop)]
  have hlength : (p.drop 8).length = p.length - 8 := List.length_drop
  have hcount : Checked.sub (min (offset p + min (size p) (p.length - 8)) s.file.length)
      (min (offset p) s.file.length) = .ok (count s.file p) := by
    rw [count, length_fresh]
    exact if_pos (by omega)
  have hle : count s.file p ≤ (fresh p).length := by
    unfold count
    omega
  have hfresh : Checked.slice (p.drop 8) 0 (count s.file p) =
      .ok ((fresh p).take (count s.file p)) := by
    rw [length_fresh] at hle
    rw [Checked.slice, if_pos (by omega), fresh, List.take_take, Nat.min_eq_left hle]
    rfl
  have hsplice := splice_clipped (offset p) (fresh p) s.file
  rw [changed]
  simp only [bind, Except.bind, hgiven, hlength, hcount, hfresh]
  rw [count, hsplice]
  rfl

theorem respond_eq {f : Frame} (h : requestLength ≤ f.payload.length) :
    s.respond f.payload =
      ⟨[.report (.legacy (.requestReceived (offset f.payload) (size f.payload))),
        .write (reply s.fileId s.file f).bytes,
        .report (.legacy (.requestCompleted (offset f.payload) (served s.file f.payload).length))],
        .ok ()⟩ := by
  have hbuild : Frame.build MessageClass.aid AidId.alpsrv
      (heading s.fileId s.file f.payload ++ served s.file f.payload) =
        .ok (reply s.fileId s.file f) := dif_pos (length_answer_lt _ _ f.fits)
  simp only [respond, asked_eq h, answer_eq s h f.fits, hbuild, report, Turn.check,
    Turn.report, Turn.write, Turn.act, Turn.bind_ok]
  rfl

/-- What an update reports. -/
def updateReports (p : Bytes) : List Event :=
  if subject p = s.fileId then
    [.legacy (.updateReceived (offset p) (size p)),
      .legacy (.updateCompleted (offset p) (count s.file p))]
  else [.legacy (.requestFailedIdMismatch (subject p))]

theorem update_eq {f : Frame} (h : Addressed f) (hu : Updates f.payload) :
    s.update f.payload =
      ⟨(s.updateReports f.payload).map .report,
        .ok { s with file := edit s.fileId s.file f }⟩ := by
  have hlength : requestLength ≤ f.payload.length := h.2
  have hword : wordAt f.payload 6 = .ok (subject f.payload) :=
    wordAt_eq (Nat.lt_of_lt_of_le (by decide) hlength)
  by_cases hid : subject f.payload = s.fileId
  · simp only [update, asked_eq hlength, hword, hid, changed_eq s hlength, edit, h, hu,
      updateReports, report, Turn.check, Turn.report, Turn.act, Turn.bind_ok, and_self, if_true,
      ne_eq, not_true_eq_false, if_false]
    rfl
  · simp only [update, asked_eq hlength, hword, hid, edit, updateReports, report, Turn.check,
      Turn.report, Turn.act, Turn.bind_ok, and_false, if_false, ne_eq, not_false_eq_true, if_true]
    rfl

/-- What a frame makes the server do. -/
def actions (f : Frame) : List Action :=
  if Updates f.payload then (s.updateReports f.payload).map .report
  else
    [.report (.legacy (.requestReceived (offset f.payload) (size f.payload))),
      .write (reply s.fileId s.file f).bytes,
      .report (.legacy (.requestCompleted (offset f.payload) (served s.file f.payload).length))]

/-- All that a frame does: the server takes updates and requests, and it never meets
a fault. -/
theorem receive_eq (f : Frame) :
    s.receive f =
      if Addressed f then
        some ⟨s.actions f, .ok ({ s with file := edit s.fileId s.file f }, .running)⟩
      else none := by
  change (if Addressed f then some _ else none) = _
  by_cases h : Addressed f
  · have htype : Checked.get f.payload 1 = .ok (f.payload.getD 1 0) :=
      Checked.get_eq_getD (Nat.lt_of_lt_of_le (by decide) h.2)
    rw [if_pos h, if_pos h, htype]
    congr 1
    by_cases hu : Updates f.payload
    · have hupdate : f.payload.getD 1 0 = updateType := hu
      simp only [Turn.check, Turn.bind_ok, hupdate, if_true, update_eq s h hu, actions, if_pos hu]
      simp [Turn.pure_def]
    · have hrequest : f.payload.getD 1 0 ≠ updateType := hu
      simp only [Turn.check, Turn.bind_ok, hrequest, if_false, respond_eq s h.2, actions,
        edit, hu, false_and, and_false, Turn.pure_def]
      simp
  · rw [if_neg h, if_neg h]

/-- What the server writes to the receiver. -/
theorem written_actions {f : Frame} (h : Addressed f) :
    (s.actions f).filterMap Action.written? = replies s.fileId s.file f := by
  unfold actions replies
  by_cases hu : Updates f.payload
  · rw [if_pos hu, if_neg (fun hn => hn.2 hu), List.filterMap_map]
    exact List.filterMap_eq_nil_iff.2 fun _ _ => rfl
  · rw [if_neg hu, if_pos ⟨h, hu⟩]
    rfl

end Machine

end Server

end GnssAiding.Legacy
