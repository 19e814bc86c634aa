/-
Every request to a server gets one answer of the right size.

An answer is the request as far as it is echoed, with the file id and a count written over it,
and then as many bytes of the file as the count says (`Legacy.Server.Answers`). The count is
the least of three: what is asked for, what a frame has room for behind the echo, and what the
file has from the offset on (`Legacy.Server.allotted`). So the count fits its field and the
payload its frame, and the branch for payloads that are too long is never taken.
-/
import GnssAiding.Proofs.Frame.Codec
import GnssAiding.Proofs.Session.Serving

namespace GnssAiding

namespace Legacy

theorem patch_eq_overwrite {start : Nat} {fresh data : Bytes}
    (h : start + fresh.length ≤ data.length) :
    patch start fresh data = Bytes.overwrite start fresh data :=
  Except.ok.inj ((splice_eq h).symm.trans (if_pos h))

namespace Server

variable {file p : Bytes}

/-- How many bytes of the file a request is answered with. -/
def allotted (file p : Bytes) : Nat :=
  min (size p) (min (maxPayload - echoed p) (file.length - offset p))

theorem allotted_lt (file p : Bytes) : allotted file p < 65536 := by
  unfold allotted maxPayload
  omega

theorem length_served (file p : Bytes) : (served file p).length = allotted file p := by
  rw [served, length_extract, allotted]
  omega

theorem served_eq (file p : Bytes) :
    served file p = Bytes.extract (offset p) (allotted file p) file := by
  rw [served, Bytes.extract, Bytes.extract, List.take_eq_take_iff, List.length_drop, allotted]
  omega

/-- At least the least request is echoed, and nothing behind the end of the request. -/
theorem echoed_bounds (h : requestLength ≤ p.length) :
    requestLength ≤ echoed p ∧ echoed p ≤ p.length := by
  unfold echoed
  omega

theorem length_echo (h : requestLength ≤ p.length) : (p.take (echoed p)).length = echoed p :=
  List.length_take_of_le (echoed_bounds h).2

theorem length_heading (fileId : UInt16) (file : Bytes) (h : requestLength ≤ p.length) :
    (heading fileId file p).length = echoed p := by
  rw [heading, length_patch, length_patch, length_echo h]

/-- Both fields that are filled in lie within what is echoed. -/
theorem heading_eq (fileId : UInt16) (file : Bytes) (h : requestLength ≤ p.length) :
    heading fileId file p =
      Bytes.overwrite 8 (Bytes.le16 (UInt16.ofNat (allotted file p)))
        (Bytes.overwrite 6 (Bytes.le16 fileId) (p.take (echoed p))) := by
  have hten : 10 ≤ (p.take (echoed p)).length := by
    rw [length_echo h]
    exact (echoed_bounds h).1
  have hid : patch 6 (Bytes.le16 fileId) (p.take (echoed p)) =
      Bytes.overwrite 6 (Bytes.le16 fileId) (p.take (echoed p)) :=
    patch_eq_overwrite (by rw [Bytes.length_le16]; omega)
  rw [heading, length_served, patch_eq_overwrite, hid]
  rw [length_patch, Bytes.length_le16]
  exact hten

/-- The frame answers the request `p` with `n` bytes of the file. -/
structure Answers (fileId : UInt16) (file p : Bytes) (n : Nat) (g : Frame) : Prop where
  parsed : Frame.parse? g.bytes = some g
  kind : g.kind? = some .aidAlpsrv
  payload : g.payload =
    Bytes.overwrite 8 (Bytes.le16 (UInt16.ofNat n))
      (Bytes.overwrite 6 (Bytes.le16 fileId) (p.take (echoed p))) ++ Bytes.extract (offset p) n file
  length : g.payload.length = echoed p + n

theorem reply_answers (fileId : UInt16) (file : Bytes) {f : Frame}
    (h : requestLength ≤ f.payload.length) :
    Answers fileId file f.payload (allotted file f.payload) (reply fileId file f) where
  parsed := Frame.parse?_bytes (Frame.intact_sealed _ _ _ _)
  kind := rfl
  payload := by
    rw [← heading_eq fileId file h, ← served_eq]
    rfl
  length := by
    rw [← length_heading fileId file h, ← length_served, ← List.length_append]
    rfl

end Server

end Legacy

namespace Session

open Legacy.Server

variable {s : Session} {file data : Bytes} {fileId : UInt16} {f : Frame}

/-- All that a request does to a session that serves; the session stays as it is. -/
theorem Serves.perform_request (h : s.Serves ⟨file, fileId⟩) (hf : Frame.parse? data = some f)
    (ha : Addressed f) (hu : ¬ Updates f.payload) (now : Nat) :
    s.perform now (.receive data) =
      ⟨s,
        [.report (.legacy (.requestReceived (offset f.payload) (size f.payload))),
          .write (reply fileId file f).bytes,
          .report (.legacy (.requestCompleted (offset f.payload) (allotted file f.payload)))],
        .ok (.disposition .consumed)⟩ := by
  obtain ⟨settings, hs⟩ := h.configured
  have hsame : edit fileId file f = file := if_neg fun he => hu he.2.1
  have hturn : s.job.receive ⟨settings, now⟩ f =
      some ⟨actions ⟨file, fileId⟩ f, .ok (.server ⟨file, fileId⟩, .running)⟩ := by
    simp [h.job, Job.receive, receive_eq, ha, hsame, Turn.bind_ok, Turn.pure_def]
  rw [perform, receive_of_frame h.processing hs hf, hturn, Option.elim_some, map_advance, actions,
    if_neg hu, length_served]
  obtain ⟨state, settings, job⟩ := s
  cases h.processing
  cases h.job
  rfl

/-- **Every request gets one well-formed answer of exactly the right size.** A session that
serves a file is handed a request: a message to the server of ten bytes or more that is no
update. It writes one frame and stays as it is. That frame is accepted where frames are read.
Its payload is as much of the request as the first byte of the request says, though no less
than ten bytes and no more than it has, with the file id and the number of served bytes written
over bytes 6 to 9; behind that stand the served bytes of the file. They are as many as are asked
for, as fit the frame and as the file has from the offset on, whichever is least; their number
fits its field, and it is reported with the offset. -/
theorem request_answered (h : s.Serves ⟨file, fileId⟩) (hf : Frame.parse? data = some f)
    (hk : f.kind? = some .aidAlpsrv) (hl : 10 ≤ f.payload.length)
    (hu : f.payload.getD 1 0 ≠ 0xFF) (now : Nat) :
    let p := f.payload
    let n := min (size p) (min (65535 - echoed p) (file.length - offset p))
    n < 65536 ∧ (UInt16.ofNat n).toNat = n ∧ (Bytes.extract (offset p) n file).length = n ∧
      ∃ g : Frame, s.perform now (.receive data) =
          ⟨s,
            [.report (.legacy (.requestReceived (offset p) (size p))), .write g.bytes,
              .report (.legacy (.requestCompleted (offset p) n))],
            .ok (.disposition .consumed)⟩ ∧
        Answers fileId file p n g := by
  intro p n
  have hn : n < 65536 := allotted_lt file p
  refine ⟨hn, UInt16.toNat_ofNat_of_lt hn, ?_, reply fileId file f,
    h.perform_request hf ⟨hk, hl⟩ hu now, reply_answers fileId file hl⟩
  have hserved := length_served file p
  rwa [served_eq] at hserved

/-- A request for a hundred words of which the file has two. -/
theorem request_answered_lastWords :
    let s : Session := ⟨.processing, some Transfer.pairSettings, .server ⟨shortFile, 7⟩⟩
    s.Serves ⟨shortFile, 7⟩ ∧ Frame.parse? lastWords.bytes = some lastWords ∧
      lastWords.kind? = some .aidAlpsrv ∧ 10 ≤ lastWords.payload.length ∧
      lastWords.payload.getD 1 0 ≠ 0xFF ∧
      ∃ g : Frame, s.perform 9 (.receive lastWords.bytes) =
          ⟨s,
            [.report (.legacy (.requestReceived 84 200)), .write g.bytes,
              .report (.legacy (.requestCompleted 84 4))],
            .ok (.disposition .consumed)⟩ ∧
        Answers 7 shortFile lastWords.payload 4 g := by
  intro s
  have hs : s.Serves ⟨shortFile, 7⟩ := ⟨rfl, ⟨_, rfl⟩, rfl⟩
  have hf : Frame.parse? lastWords.bytes = some lastWords :=
    Frame.parse?_bytes (Frame.intact_sealed _ _ _ _)
  obtain ⟨-, -, -, hanswer⟩ := request_answered hs hf rfl (by decide) (by decide) 9
  exact ⟨hs, hf, rfl, by decide, by decide, hanswer⟩

end Session

end GnssAiding
