/-
What a frame from the receiver settles.

Every byte of an acknowledgement is read behind a check of its length, so no read fails,
and what the transfer makes of a frame is the plain reading of it (`verdict_eq`). A frame
settles nothing but a message in flight (`verdict?_eq_some`).
-/
import GnssAiding.Proofs.Checked
import GnssAiding.Transfer.Basic

namespace GnssAiding

namespace Transfer

/-- What an assistance acknowledgement settles. -/
def mgaVerdict? (q : Queue) (p : Bytes) : Option (Nat × Option FailureReason) :=
  if 8 ≤ p.length then
    (q.messages.findIdx? fun m => m.matchesAck (p.getD 3 0) ((p.drop 4).take 4)).map fun i =>
      (i, if p.getD 0 0 = 1 then none else some (.ofInfoCode (p.getD 2 0)))
  else none

/-- What a plain acknowledgement settles, which says `failure`. -/
def aidVerdict? (q : Queue) (p : Bytes) (failure : Option FailureReason) :
    Option (Nat × Option FailureReason) :=
  match p with
  | cls :: id :: _ =>
    if cls = MessageClass.aid then
      (q.messages.findIdx? fun m => m.matchesAidAck id).map fun i => (i, failure)
    else none
  | _ => none

/-- What a frame from the receiver settles: the index of a message, and the
reason if it was refused. -/
def verdict? (q : Queue) (f : Frame) : Option (Nat × Option FailureReason) :=
  match f.kind? with
  | some .mgaAck => mgaVerdict? q f.payload
  | some .ack => aidVerdict? q f.payload none
  | some .nak => aidVerdict? q f.payload (some .rejected)
  | _ => none

section Reads

variable (q : Queue) (p : Bytes)

theorem mgaVerdict_eq : mgaVerdict q p = .ok (mgaVerdict? q p) := by
  unfold mgaVerdict mgaVerdict?
  split
  · next h =>
    rw [Checked.get_eq_getD (by omega : 3 < p.length),
      Checked.slice_eq_extract (by decide : 4 ≤ 8) h,
      Checked.get_eq_getD (by omega : 0 < p.length), Checked.get_eq_getD (by omega : 2 < p.length)]
    simp only [Bytes.extract, bind, Except.bind]
    cases q.messages.findIdx? fun m => m.matchesAck (p.getD 3 0) ((p.drop 4).take 4) with
    | none => rfl
    | some i =>
      simp only [Option.map_some]
      split <;> rfl
  · rfl

theorem aidVerdict_eq (failure : Option FailureReason) :
    aidVerdict q p failure = .ok (aidVerdict? q p failure) := by
  match p with
  | [] | [_] => rfl
  | cls :: id :: rest =>
    unfold aidVerdict aidVerdict?
    rw [if_pos (by simp)]
    simp only [Checked.get, List.getElem?_cons_zero, List.getElem?_cons_succ, bind, Except.bind]
    split <;> rfl

/-- No read of a frame fails. -/
theorem verdict_eq (f : Frame) : verdict q f = .ok (verdict? q f) := by
  simp only [verdict, verdict?, mgaVerdict_eq, aidVerdict_eq]
  cases f.kind? with
  | none => rfl
  | some k => cases k <;> rfl

end Reads

/-- What a transfer makes of a frame is what the frame settles. -/
theorem receive_eq (c : Context) (t : Transfer) (f : Frame) :
    t.receive c f =
      if t.discipline.needsAcks then
        (verdict? t.queue f).map fun (i, failure) => do
          let queue ← t.queue.resolve i failure
          let t ← Transfer.proceed c { t with queue := queue }
          pure (t, t.queue.step)
      else none := by
  unfold receive
  rw [verdict_eq]
  cases verdict? t.queue f <;> rfl

/-! ## What is settled, and how -/

section Settled

variable {q : Queue} {f : Frame} {p : Bytes} {i : Nat} {reason failure : Option FailureReason}

theorem exists_of_found {wanted : Message → Bool}
    (h : (q.messages.findIdx? wanted).map (fun j => (j, reason)) = some (i, failure)) :
    ∃ m, q.messages[i]? = some m ∧ wanted m = true ∧ failure = reason := by
  obtain ⟨j, hj, he⟩ := Option.map_eq_some_iff.1 h
  obtain ⟨hlt, hm, -⟩ := List.findIdx?_eq_some_iff_getElem.1 hj
  cases he
  exact ⟨_, List.getElem?_eq_getElem hlt, hm, rfl⟩

theorem mgaVerdict?_eq_some (h : mgaVerdict? q p = some (i, failure)) :
    ∃ m, q.messages[i]? = some m ∧ m.state = .waitingForAck ∧
      failure = if p.getD 0 0 = 1 then none else some (.ofInfoCode (p.getD 2 0)) := by
  unfold mgaVerdict? at h
  split at h
  · obtain ⟨m, hm, hmatch, hfailure⟩ := exists_of_found h
    simp only [Message.matchesAck, Bool.and_eq_true, decide_eq_true_eq] at hmatch
    exact ⟨m, hm, hmatch.1.1.1.1, hfailure⟩
  · cases h

theorem aidVerdict?_eq_some (h : aidVerdict? q p reason = some (i, failure)) :
    ∃ m, q.messages[i]? = some m ∧ m.state = .waitingForAck ∧ failure = reason := by
  unfold aidVerdict? at h
  split at h
  · split at h
    · obtain ⟨m, hm, hmatch, hfailure⟩ := exists_of_found h
      simp only [Message.matchesAidAck, Bool.and_eq_true, decide_eq_true_eq] at hmatch
      exact ⟨m, hm, hmatch.1.1, hfailure⟩
    · cases h
  · cases h

theorem ofInfoCode_ne (code : UInt8) :
    FailureReason.ofInfoCode code ≠ .tooManyRetries := by
  unfold FailureReason.ofInfoCode
  split <;> exact nofun

/-- A frame settles a message in flight, and it does not say that the message was sent too
often. -/
theorem verdict?_eq_some (h : verdict? q f = some (i, failure)) :
    ∃ m, q.messages[i]? = some m ∧ m.state = .waitingForAck ∧
      failure ≠ some .tooManyRetries := by
  unfold verdict? at h
  split at h
  · obtain ⟨m, hm, hs, rfl⟩ := mgaVerdict?_eq_some h
    refine ⟨m, hm, hs, ?_⟩
    split
    · exact nofun
    · exact fun he => ofInfoCode_ne _ (Option.some.inj he)
  · obtain ⟨m, hm, hs, rfl⟩ := aidVerdict?_eq_some h
    exact ⟨m, hm, hs, nofun⟩
  · obtain ⟨m, hm, hs, rfl⟩ := aidVerdict?_eq_some h
    exact ⟨m, hm, hs, nofun⟩
  · cases h

end Settled

end Transfer

end GnssAiding
