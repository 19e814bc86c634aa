/-
How long a transfer of messages lasts when the receiver is silent.

Each message can be overdue as often as it may still be sent, and once more to
be given up (`Message.left`); of the whole queue that is `Queue.left`. Sending
for the first time leaves it alone, everything else makes it smaller. And while
a transfer runs there is always a message in flight to be overdue
(`Queue.Lively`): that is an invariant of both disciplines under which
acknowledgements matter, kept with the rest of `Transfer.Orderly`.
-/
import GnssAiding.Proofs.Transfer.Course
import Mathlib.Algebra.GroupWithZero.Nat

namespace GnssAiding

/-! ## How often messages may still be overdue -/

/-- How often the message may be overdue until it is given up. -/
def Message.left (limit : Nat) (m : Message) : Nat :=
  if m.state.isDone then 0 else limit + 1 - m.retries

theorem Message.left_le (limit : Nat) (m : Message) : m.left limit ≤ limit + 1 := by
  unfold left
  split <;> omega

theorem Message.left_pos {limit : Nat} {m : Message} (hs : m.state = .waitingForAck)
    (hr : m.retries ≤ limit) : 0 < m.left limit := by
  simp only [left, hs, Progress.isDone, Bool.false_eq_true, if_false]
  omega

namespace Queue

/-- How often messages may be overdue until all are given up. -/
def left (limit : Nat) (q : Queue) : Nat := (q.messages.map (Message.left limit)).sum

variable {limit : Nat} {q q' : Queue}

theorem left_le (limit : Nat) (q : Queue) : q.left limit ≤ q.messages.length * (limit + 1) := by
  unfold left
  induction q.messages with
  | nil => exact Nat.zero_le _
  | cons m ms ih =>
    have hm := m.left_le limit
    rw [List.map_cons, List.sum_cons, List.length_cons, Nat.add_mul, Nat.one_mul]
    omega

/-- What replacing a message does to the sum. -/
theorem left_set {i : Nat} {m m' : Message} (hm : q.messages[i]? = some m)
    (hq : q'.messages = q.messages.set i m') :
    q'.left limit + m.left limit = q.left limit + m'.left limit := by
  obtain ⟨hi, hget⟩ := List.getElem?_eq_some_iff.1 hm
  have hcut : ∃ before after, q.messages = before ++ q.messages[i] :: after ∧
      before.length = i ∧ q.messages.set i m' = before ++ m' :: after := List.exists_of_set hi
  obtain ⟨before, after, hsplit, -, hset⟩ := hcut
  rw [hget] at hsplit
  simp only [left, hq, hset, List.map_append, List.map_cons, List.sum_append, List.sum_cons]
  rw [hsplit]
  simp only [List.map_append, List.map_cons, List.sum_append, List.sum_cons]
  omega

/-- A message that goes out for the first time may be overdue as often as before. -/
theorem left_sentNext (hc : q.Consistent) (c : Context) (n : Nat) :
    (q.sentNext c n).left limit = q.left limit := by
  have hout : ((q.unsent.take n).map (Message.outAt c)).map (Message.left limit) =
      (q.unsent.take n).map (Message.left limit) := by
    rw [List.map_map]
    refine List.map_congr_left fun m hm => ?_
    have hs := hc.unsent m (List.mem_of_mem_take hm)
    simp [Message.left, Message.outAt, hs, Progress.isDone]
  have hall : q.messages = q.taken ++ (q.unsent.take n ++ q.unsent.drop n) := by
    rw [List.take_append_drop, taken_append_unsent]
  rw [left, left, hall]
  simp only [sentNext, List.map_append, hout, taken, List.append_assoc]

end Queue

namespace Transfer

/-! ## Always something in flight -/

/-- Using the room there is leaves a message in flight if any is left to be sent. -/
theorem lively_refilled {t : Transfer} (h : t.queue.Consistent)
    (hn : t.discipline.needsAcks = true) (c : Context) : (t.refilled c).queue.Lively := by
  intro hne
  have hunsent : (t.refilled c).queue.unsent = t.queue.unsent.drop t.room :=
    h.unsent_sentNext c t.room
  have hwaiting : (t.refilled c).queue.waiting =
      t.queue.waiting ++ (t.queue.unsent.take t.room).map (Message.outAt c) :=
    Queue.waiting_sentNext h c t.room
  rw [hunsent] at hne
  cases hd : t.discipline with
  | unacknowledged =>
    rw [hd] at hn
    cases hn
  | stopAndWait =>
    have hroom : t.room = 1 := by rw [room, hd]
    rw [hroom] at hne hwaiting
    obtain ⟨m, ms, hu⟩ : ∃ m ms, t.queue.unsent = m :: ms := by
      refine List.exists_cons_of_ne_nil fun hnil => hne ?_
      rw [hnil, List.drop_nil]
    simp [hwaiting, hu]
  | windowed =>
    have hroom : t.room = Queue.fitting t.budget t.queue.inFlight t.queue.unsent := by
      rw [room, hd]
    rw [hroom] at hne
    obtain ⟨m, ms, hdrop⟩ := List.exists_cons_of_ne_nil hne
    have hlt := Queue.lt_of_head?_drop_fitting (m := m) (by rw [hdrop, List.head?_cons])
    have hflight : (t.refilled c).queue.inFlight = t.queue.inFlight +
        Queue.size (t.queue.unsent.take t.room) := Queue.inFlight_sentNext h c t.room
    rw [hroom] at hflight
    exact Queue.inFlight_pos_iff.1 (hflight ▸ hlt.1)

/-- What is kept while a transfer goes on, under a discipline under which
acknowledgements matter. -/
structure Orderly (s : Settings) (t : Transfer) : Prop where
  consistent : t.queue.Consistent
  needsAcks : t.discipline.needsAcks = true
  retries : ∀ m ∈ t.queue.messages, m.retries ≤ s.retries
  lively : t.queue.Lively

namespace Orderly

variable {s : Settings} {t u : Transfer} {c : Context}

/-- Using the room there is makes the transfer lively again. -/
theorem refilled (hc : t.queue.Consistent) (hn : t.discipline.needsAcks = true)
    (hr : ∀ m ∈ t.queue.messages, m.retries ≤ s.retries) (c : Context) :
    (t.refilled c).Orderly s where
  consistent := hc.sentNext c _
  needsAcks := hn
  retries := by
    intro m hm
    have hmessages : (t.refilled c).queue.messages = t.queue.taken ++
        (t.queue.unsent.take t.room).map (Message.outAt c) ++ t.queue.unsent.drop t.room := rfl
    simp only [hmessages, List.mem_append, List.mem_map] at hm
    rcases hm with (hm | ⟨m, hm, rfl⟩) | hm
    · exact hr m (List.mem_of_mem_take hm)
    · exact hr m (List.mem_of_mem_drop (List.mem_of_mem_take hm))
    · exact hr m (List.mem_of_mem_drop (List.mem_of_mem_drop hm))
  lively := lively_refilled hc hn c

theorem move {i : Nat} {acts : List Action} (h : Move c t i acts u) (ht : t.Orderly c.settings) :
    u.Orderly c.settings := by
  cases h with
  | @settled m failure hn hm hs why =>
    refine refilled (t := t.settle i m failure) (ht.consistent.settle hm hs failure) hn ?_ c
    intro n hn
    rcases List.mem_or_eq_of_mem_set hn with hn | rfl
    · exact ht.retries n hn
    · have hr := ht.retries m (List.mem_of_getElem? hm)
      cases failure <;> exact hr
  | @sentAgain m hn hm hs hd hr =>
    refine ⟨ht.consistent.put hm hs c, hn, ?_, ?_⟩
    · intro n hn
      rcases List.mem_or_eq_of_mem_set hn with hn | rfl
      · exact ht.retries n hn
      · exact hr
    · intro _
      obtain ⟨before, after, -, hw⟩ := Queue.waiting_put hm hs c
      rw [hw]
      simp

/-- A transfer that runs when it has begun. -/
theorem started {data : Bytes} (ht : ofData data s = .ok t)
    (hr : (t.started c).queue.step = .running) : (t.started c).Orderly s := by
  have hc := consistent_of_ofData ht
  have hfresh := fresh_of_ofData ht
  have hretries : ∀ m ∈ t.queue.messages, m.retries ≤ s.retries := by
    intro m hm
    obtain ⟨i, hi⟩ := List.getElem?_of_mem hm
    obtain ⟨l, rfl⟩ := hfresh i m hi
    exact Nat.zero_le _
  cases hd : t.discipline with
  | unacknowledged =>
    have hstart : (t.started c).queue = t.queue.sentAll c := by simp only [Transfer.started, hd]
    obtain ⟨ms, hms, rfl⟩ := ofData_eq_ok ht
    rw [hstart] at hr
    simp [Queue.step, Queue.sentAll, Queue.unsent] at hr
  | stopAndWait | windowed =>
    have hstart : t.started c = t.refilled c := by simp only [Transfer.started, hd]
    rw [hstart]
    exact refilled hc (by rw [hd]; rfl) hretries c

/-- A transfer that runs has something to be overdue. -/
theorem left_pos (h : t.Orderly s) (hr : t.queue.step = .running) :
    0 < t.queue.left s.retries := by
  have hw : t.queue.waiting ≠ [] := h.lively.waiting_ne_nil h.consistent (by simp [hr])
  obtain ⟨m, ms, hcons⟩ := List.exists_cons_of_ne_nil hw
  have hm : m ∈ t.queue.waiting := by simp [hcons]
  obtain ⟨hmem, hs⟩ := List.mem_filter.1 hm
  have hpos := Message.left_pos (of_decide_eq_true hs) (h.retries m hmem)
  exact List.sum_pos_iff_exists_pos_nat.2 ⟨_, List.mem_map_of_mem hmem, hpos⟩

/-- When everything in flight is overdue, there is something overdue. -/
theorem overdue_ne_nil (h : t.Orderly s) (hr : t.queue.step = .running) {now : Nat}
    (hd : ∀ m ∈ t.queue.waiting, m.deadline ≤ now) : t.queue.overdue now ≠ [] := by
  have hw : t.queue.waiting ≠ [] := h.lively.waiting_ne_nil h.consistent (by simp [hr])
  obtain ⟨m, ms, hcons⟩ := List.exists_cons_of_ne_nil hw
  have hm : m ∈ t.queue.waiting := by simp [hcons]
  obtain ⟨hmem, hs⟩ := List.mem_filter.1 hm
  obtain ⟨i, hi⟩ := List.getElem?_of_mem hmem
  have hover : m.overdue now = true := by
    simp only [Message.overdue, Bool.and_eq_true, decide_eq_true_eq]
    exact ⟨by simpa using hs, hd m hm⟩
  exact List.ne_nil_of_mem (Queue.mem_overdue.2 ⟨m, hi, hover⟩)

end Orderly

/-! ## Each lapse counts -/

/-- Every overdue message that is seen to is one less. -/
theorem Lapse.left_lt {c : Context} {t u : Transfer} {i : Nat} {acts : List Action}
    (h : Lapse c t i acts u) (ht : t.Orderly c.settings) :
    u.queue.left c.settings.retries < t.queue.left c.settings.retries := by
  cases h with
  | @givenUp m hn hm hd hr =>
    have hw := Message.state_of_overdue hd
    have hcons := ht.consistent.settle hm hw (some .tooManyRetries)
    have hrefill : ((t.settle i m (some .tooManyRetries)).refilled c).queue.left
        c.settings.retries = (t.settle i m (some .tooManyRetries)).queue.left
        c.settings.retries := Queue.left_sentNext hcons c _
    have hset : (t.settle i m (some .tooManyRetries)).queue.left c.settings.retries +
        m.left c.settings.retries = t.queue.left c.settings.retries +
        (m.settled (some .tooManyRetries)).left c.settings.retries := Queue.left_set hm rfl
    have hdone : (m.settled (some .tooManyRetries)).left c.settings.retries = 0 := rfl
    have hpos := Message.left_pos hw (ht.retries m (List.mem_of_getElem? hm))
    omega
  | @sentAgain m hn hm hd hr =>
    have hw := Message.state_of_overdue hd
    have hset : (t.queue.put i (m.again.outAt c)).left c.settings.retries +
        m.left c.settings.retries = t.queue.left c.settings.retries +
        (m.again.outAt c).left c.settings.retries := Queue.left_set hm rfl
    have hless : (m.again.outAt c).left c.settings.retries < m.left c.settings.retries := by
      simp only [Message.left, Message.outAt, Message.again, hw, Progress.isDone,
        Bool.false_eq_true, if_false]
      omega
    dsimp only
    omega

/-- A sweep that finds something overdue shortens what is left. -/
theorem Lapses.left_lt {c : Context} {n : Nat} {t u : Transfer} {acts : List Action}
    (h : Lapses c n t acts u) (ht : t.Orderly c.settings) (hn : 0 < n) :
    u.queue.left c.settings.retries < t.queue.left c.settings.retries := by
  have hle : ∀ {n t acts u}, Lapses c n t acts u → t.Orderly c.settings →
      u.queue.left c.settings.retries + n ≤ t.queue.left c.settings.retries := by
    intro n t acts u h
    induction h with
    | nil t => exact fun _ => Nat.le_refl _
    | cons hl _ ih =>
      intro ht
      have hlt := hl.left_lt ht
      have := ih (ht.move hl.move)
      omega
  have := hle h ht
  omega

end Transfer

end GnssAiding
