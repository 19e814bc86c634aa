/-
How often a block goes out.

A block is sent time after time, and behind each time the receiver may be nudged
once: what is written are its `attempts`. While a block is on its way, its retries
count the attempts behind the first one, and its state says whether there was a nudge
since the last (`Block.Tried`). So a block that may be sent again so many times has
one attempt more at most (`Tries`), and a run over several blocks writes the attempts
of each behind those of the one before (`Reached`).
-/
import GnssAiding.Flash.Transfer
import GnssAiding.Proofs.Flash.Out
import GnssAiding.Proofs.Transfer.Turn
import Mathlib.Data.List.Forall2

namespace GnssAiding.Flash

/-! ## The attempts at one frame -/

/-- A frame, written once for each entry, with a nudge behind it where the entry says
so. -/
def attempts (frame : Bytes) (nudged : List Bool) : List Bytes :=
  nudged.flatMap fun n => if n then [frame, nudge] else [frame]

/-- What is written is the frame, once and at most `limit` times again, with at most
one nudge behind each time, and nothing else. -/
def Tries (limit : Nat) (frame : Bytes) (writes : List Bytes) : Prop :=
  ∃ nudged, nudged ≠ [] ∧ nudged.length ≤ limit + 1 ∧ writes = attempts frame nudged

theorem attempts_append (frame : Bytes) (nudged more : List Bool) :
    attempts frame (nudged ++ more) = attempts frame nudged ++ attempts frame more :=
  List.flatMap_append

/-- Nudged about, and written again. -/
example : attempts [7] [true, false] = [[7], nudge, [7]] := rfl

@[simp]
theorem attempts_singleton_false (frame : Bytes) : attempts frame [false] = [frame] := rfl

@[simp]
theorem attempts_singleton_true (frame : Bytes) : attempts frame [true] = [frame, nudge] := rfl

theorem mem_attempts {frame data : Bytes} {nudged : List Bool} (h : data ∈ attempts frame nudged) :
    data = frame ∨ data = nudge := by
  obtain ⟨n, -, hn⟩ := List.mem_flatMap.1 h
  cases n with
  | false => exact .inl (List.mem_singleton.1 hn)
  | true => simpa using hn

theorem count_attempts {frame : Bytes} (h : frame ≠ nudge) (nudged : List Bool) :
    (attempts frame nudged).count frame = nudged.length ∧
      (attempts frame nudged).count nudge ≤ nudged.length := by
  induction nudged with
  | nil => exact ⟨rfl, Nat.le_refl 0⟩
  | cons n nudged ih =>
    obtain ⟨hframe, hnudge⟩ := ih
    have hcons : attempts frame (n :: nudged) = attempts frame [n] ++ attempts frame nudged :=
      attempts_append frame [n] nudged
    rw [hcons, List.count_append, List.count_append, List.length_cons, hframe]
    cases n with
    | false =>
      simp [h]
      omega
    | true =>
      simp [h, h.symm]
      omega

theorem bytes_ne_nudge (f : Frame) : f.bytes ≠ nudge := by
  intro h
  have hlen := congrArg List.length h
  simp [nudge, Frame.bytes] at hlen

namespace Tries

variable {limit : Nat} {frame : Bytes} {writes : List Bytes}

theorem mem (h : Tries limit frame writes) {data : Bytes} (hdata : data ∈ writes) :
    data = frame ∨ data = nudge := by
  obtain ⟨nudged, -, -, rfl⟩ := h
  exact mem_attempts hdata

/-- The frame is written at most `limit + 1` times, and as many nudges at most. -/
theorem count_le (h : Tries limit frame writes) (hframe : frame ≠ nudge) :
    writes.count frame ≤ limit + 1 ∧ writes.count nudge ≤ limit + 1 := by
  obtain ⟨nudged, -, hlen, rfl⟩ := h
  obtain ⟨hcount, hnudges⟩ := count_attempts hframe nudged
  rw [hcount]
  exact ⟨hlen, Nat.le_trans hnudges hlen⟩

/-- Each of some frames, written once. -/
theorem once (limit : Nat) (frames : List Bytes) :
    List.Forall₂ (Tries limit) frames (frames.map fun f => [f]) := by
  induction frames with
  | nil => exact .nil
  | cons f frames ih => exact .cons ⟨[false], by simp, by simp, rfl⟩ ih

/-- What is no frame of a run and no nudge is not written. -/
theorem count_flatten_eq_zero {frames : List Bytes} {groups : List (List Bytes)} {data : Bytes}
    (h : List.Forall₂ (Tries limit) frames groups) (hnot : data ∉ frames) (hdata : data ≠ nudge) :
    groups.flatten.count data = 0 := by
  induction h with
  | nil => rfl
  | cons htries _ ih =>
    rw [List.mem_cons, not_or] at hnot
    rw [List.flatten_cons, List.count_append, ih hnot.2, Nat.add_zero, List.count_eq_zero]
    intro hmem
    exact (htries.mem hmem).elim hnot.1 hdata

/-- In a run over frames that are distinct, each is written at most `limit + 1` times. -/
theorem count_flatten_le {frames : List Bytes} {groups : List (List Bytes)}
    (h : List.Forall₂ (Tries limit) frames groups) (hnodup : frames.Nodup)
    (hframe : frame ≠ nudge) : groups.flatten.count frame ≤ limit + 1 := by
  induction h with
  | nil => exact Nat.zero_le _
  | @cons f ws frames groups htries hrest ih =>
    obtain ⟨hf, hnodup⟩ := List.nodup_cons.1 hnodup
    rw [List.flatten_cons, List.count_append]
    by_cases he : frame = f
    · subst he
      rw [count_flatten_eq_zero hrest hf hframe]
      exact (htries.count_le hframe).1
    · have hzero : ws.count frame = 0 := by
        rw [List.count_eq_zero]
        intro hmem
        exact (htries.mem hmem).elim he hframe
      rw [hzero, Nat.zero_add]
      exact ih hnodup

end Tries

/-! ## The block on its way -/

namespace Block

/-- What was written for a block on its way: an attempt for each retry, and one more,
with a nudge behind it if the block is waiting for the second time. -/
def Tried (frame : Bytes) (b : Block) (writes : List Bytes) : Prop :=
  ∃ earlier : List Bool, earlier.length = b.retries ∧
    writes = attempts frame (earlier ++ [decide (b.state = .waitingForSecondChance)])

variable {frame : Bytes} {b : Block} {writes : List Bytes}

theorem Tried.first (h : b.retries = 0) (c : Context) : (b.outAt c).Tried frame [frame] :=
  ⟨[], h.symm, rfl⟩

theorem Tried.nudged (h : b.Tried frame writes) (hs : b.state = .waitingForAck) (c : Context) :
    (b.nudgedAt c).Tried frame (writes ++ [nudge]) := by
  obtain ⟨earlier, hlen, rfl⟩ := h
  refine ⟨earlier, hlen, ?_⟩
  rw [attempts_append, attempts_append, hs]
  exact List.append_assoc _ _ _

theorem Tried.again (h : b.Tried frame writes) (c : Context) :
    (b.again.outAt c).Tried frame (writes ++ [frame]) := by
  obtain ⟨earlier, hlen, rfl⟩ := h
  refine ⟨earlier ++ [decide (b.state = .waitingForSecondChance)], ?_, ?_⟩
  · rw [List.length_append, hlen]
    rfl
  · rw [attempts_append _ (earlier ++ _)]
    rfl

theorem Tried.tries {limit : Nat} (h : b.Tried frame writes) (hr : b.retries ≤ limit) :
    Tries limit frame writes := by
  obtain ⟨earlier, hlen, rfl⟩ := h
  refine ⟨_, by simp, ?_, rfl⟩
  rw [List.length_append, hlen]
  exact Nat.succ_le_succ hr

end Block

/-! ## A run over several frames -/

/-- What was written when the frame at `i` is on its way as block `b`: the attempts at
the frames before it, and those at itself. -/
def Reached (limit : Nat) (frames : List Bytes) (i : Nat) (b : Block) (writes : List Bytes) :
    Prop :=
  ∃ frame before last, frames[i]? = some frame ∧
    List.Forall₂ (Tries limit) (frames.take i) before ∧ b.Tried frame last ∧
    writes = before.flatten ++ last

namespace Reached

variable {limit i : Nat} {frames : List Bytes} {frame : Bytes} {b next : Block}
  {writes : List Bytes}

theorem start (hf : frames[0]? = some frame) (hr : b.retries = 0) (c : Context) :
    Reached limit frames 0 (b.outAt c) [frame] :=
  ⟨frame, [], [frame], hf, .nil, .first hr c, rfl⟩

variable (h : Reached limit frames i b writes)

include h

theorem nudged (hs : b.state = .waitingForAck) (c : Context) :
    Reached limit frames i (b.nudgedAt c) (writes ++ [nudge]) := by
  obtain ⟨frame, before, last, hf, hbefore, htried, rfl⟩ := h
  exact ⟨frame, before, _, hf, hbefore, htried.nudged hs c, List.append_assoc _ _ _⟩

theorem again (hf : frames[i]? = some frame) (c : Context) :
    Reached limit frames i (b.again.outAt c) (writes ++ [frame]) := by
  obtain ⟨frame', before, last, hf', hbefore, htried, rfl⟩ := h
  cases hf.symm.trans hf'
  exact ⟨frame, before, _, hf, hbefore, htried.again c, List.append_assoc _ _ _⟩

/-- The attempts fall into groups, one for each frame up to this one. -/
theorem groups (hr : b.retries ≤ limit) :
    ∃ groups, List.Forall₂ (Tries limit) (frames.take (i + 1)) groups ∧
      writes = groups.flatten := by
  obtain ⟨frame, before, last, hf, hbefore, htried, rfl⟩ := h
  refine ⟨before ++ [last], ?_, by simp⟩
  rw [List.take_add_one, hf]
  exact List.rel_append hbefore (.cons (htried.tries hr) .nil)

theorem advance (hr : b.retries ≤ limit) (hf : frames[i + 1]? = some frame)
    (hnext : next.retries = 0) (c : Context) :
    Reached limit frames (i + 1) (next.outAt c) (writes ++ [frame]) := by
  obtain ⟨groups, hgroups, rfl⟩ := h.groups hr
  exact ⟨frame, groups, [frame], hf, hgroups, .first hnext c, rfl⟩

end Reached

end GnssAiding.Flash
