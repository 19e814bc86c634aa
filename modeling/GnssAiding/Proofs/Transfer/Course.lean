/-
The course of a single message through a transfer, as its host is told of it.

The events about a message are its sendings, numbered from zero and each no
earlier than the one before it is overdue, and then at most one event that ends
it (`Told`). `Course` says more: which of these stages the message in the queue
is in, and under which deadline. Each thing a move does to a message takes it
one stage on (`Course.sent`, `Course.sentAgain`, `Course.settled`) and leaves
the others where they are, so every move keeps the record of the whole queue
(`Logged`).
-/
import GnssAiding.Proofs.Transfer.Journal
import GnssAiding.Proofs.Transfer.Window
import Mathlib.Data.List.Chain
import Mathlib.Data.List.Forall2

namespace GnssAiding

open Turn

namespace Transfer

/-! ## What is told about a message -/

/-- The sendings of a message, numbered from zero. -/
def sent (m : Message) (times : List Occasion) : List (Occasion × Event) :=
  times.mapIdx fun k o => (o, .messageSent { m.report with retries := k })

/-- No sending comes before the one before it is overdue. -/
def Paced (s : Settings) (times : List Occasion) : Prop :=
  times.IsChain fun a b => a.now + s.timeout ≤ b.now

/-- The event that ends a message that was sent again `k` times. -/
def closing (m : Message) (k : Nat) : Option FailureReason → Event
  | none => .messageComplete { m.report with retries := k }
  | some reason => .messageFailed { m.report with retries := k, failure := some reason }

/-- On what occasion a message that was sent again `k` times ends, and how. -/
inductive Ends (s : Settings) (k : Nat) : Occasion → Option FailureReason → Prop
  /-- The receiver says so. -/
  | answered (now : Nat) (f : Frame) {failure} (h : failure ≠ some .tooManyRetries) :
    Ends s k (.input (.frame now f)) failure
  /-- It is overdue, and was sent again as often as allowed. -/
  | givenUp (now : Nat) (h : k = s.retries) : Ends s k (.input (.tick now)) (some .tooManyRetries)

/-- What the host may have been told about a message. -/
inductive Told (s : Settings) (m : Message) : List (Occasion × Event) → Prop
  | sent {times} (paced : Paced s times) (hn : times.length ≤ s.retries + 1) :
    Told s m (sent m times)
  | closed {times k o failure} (paced : Paced s times) (hn : times.length = k + 1)
    (hk : k ≤ s.retries) (he : Ends s k o failure) :
    Told s m (Transfer.sent m times ++ [(o, closing m k failure)])

theorem sent_concat (m : Message) (times : List Occasion) (o : Occasion) :
    sent m (times ++ [o]) =
      sent m times ++ [(o, .messageSent { m.report with retries := times.length })] := by
  simp only [sent, List.mapIdx_append, List.mapIdx_cons, List.mapIdx_nil, Nat.zero_add]

theorem Paced.concat {s : Settings} {times : List Occasion} {a b : Occasion}
    (h : Paced s (times ++ [a])) (hb : a.now + s.timeout ≤ b.now) :
    Paced s (times ++ [a] ++ [b]) := by
  refine List.isChain_append.2 ⟨h, .singleton b, ?_⟩
  intro x hx y hy
  simp only [List.getLast?_append, List.getLast?_singleton, Option.some_or, Option.mem_def,
    Option.some.injEq, List.head?_cons] at hx hy
  subst hx hy
  exact hb

/-! ## Stages -/

/-- The message `m` of a blob has become `n`, after the events about it. -/
inductive Course (s : Settings) (m : Message) : List (Occasion × Event) → Message → Prop
  | unsent : Course s m [] m
  | waiting {times last} (paced : Paced s (times ++ [last])) (hn : times.length ≤ s.retries) :
    Course s m (sent m (times ++ [last]))
      { m with
        state := .waitingForAck, retries := times.length, deadline := last.now + s.timeout }
  | concluded {times k o failure n} (paced : Paced s times) (hn : times.length = k + 1)
    (hk : k ≤ s.retries) (he : Ends s k o failure) (hd : n.state.isDone = true)
    (same : n.sequence = m.sequence ∧ n.frame = m.frame) :
    Course s m (sent m times ++ [(o, closing m k failure)]) n

namespace Course

variable {s : Settings} {m n : Message} {es : List (Occasion × Event)}

theorem told (h : Course s m es n) : Told s m es := by
  cases h with
  | unsent => exact @Told.sent s m [] .nil (Nat.zero_le _)
  | waiting paced hn => exact .sent paced (by simpa using hn)
  | concluded paced hn hk he _ _ => exact .closed paced hn hk he

theorem same (h : Course s m es n) : n.sequence = m.sequence ∧ n.frame = m.frame := by
  cases h with
  | unsent => exact ⟨rfl, rfl⟩
  | waiting => exact ⟨rfl, rfl⟩
  | concluded _ _ _ _ _ same => exact same

theorem retries_le (h : Course s m es n) (hm : m.retries = 0) (hw : n.state = .waitingForAck) :
    n.retries ≤ s.retries := by
  cases h with
  | unsent => exact hm ▸ Nat.zero_le _
  | waiting _ hn => exact hn
  | concluded _ _ _ _ hd _ => simp [hw, Progress.isDone] at hd

/-- The message goes out for the first time. -/
theorem sent {c : Context} {o : Occasion} (hc : c.settings = s) (ho : o.now = c.now)
    (hr : m.retries = 0) (h : Course s m es n) (hw : n.state = .waitingToSend) :
    n = m ∧ Course s m (es ++ [(o, .messageSent n.report)]) (n.outAt c) := by
  cases h with
  | unsent =>
    have hreport : m.report = { m.report with retries := 0 } := by simp [Message.report, hr]
    have hout : m.outAt c =
        { m with state := .waitingForAck, retries := 0, deadline := o.now + s.timeout } := by
      simp [Message.outAt, hr, ho, hc]
    refine ⟨rfl, ?_⟩
    rw [hreport, hout]
    exact @waiting s m [] o (.singleton o) (Nat.zero_le _)
  | waiting => cases hw
  | concluded _ _ _ _ hd _ => simp [hw, Progress.isDone] at hd

/-- The message is overdue and goes out once more. -/
theorem sentAgain {c : Context} {o : Occasion} (hc : c.settings = s) (ho : o.now = c.now)
    (hm : m.state = .waitingToSend) (h : Course s m es n) (hd : n.overdue c.now = true)
    (hr : n.retries < s.retries) :
    Course s m (es ++ [(o, .messageSent n.again.report)]) (n.again.outAt c) := by
  have hw := Message.state_of_overdue hd
  cases h with
  | unsent =>
    rw [hm] at hw
    cases hw
  | @waiting times last paced hn =>
    have hdue : last.now + s.timeout ≤ o.now := by
      simpa [Message.overdue, ho] using hd
    have hout : ∀ n : Message, n.again.outAt c = { n with
        state := .waitingForAck, retries := n.retries + 1, deadline := o.now + s.timeout } := by
      intro n
      simp [Message.again, Message.outAt, ho, hc]
    have hnext := Course.waiting (m := m) (paced.concat hdue)
      (by simpa using Nat.succ_le_of_lt hr)
    rw [hout]
    rw [sent_concat, List.length_append, List.length_singleton] at hnext
    exact hnext
  | concluded _ _ _ _ hdone _ => simp [hw, Progress.isDone] at hdone

/-- The message is settled, or given up. -/
theorem settled {o : Occasion} {failure : Option FailureReason} (hm : m.state = .waitingToSend)
    (h : Course s m es n) (hw : n.state = .waitingForAck)
    (he : Ends s n.retries o failure) :
    Course s m (es ++ [(o, n.conclusion failure)]) (n.settled failure) := by
  cases h with
  | unsent =>
    rw [hm] at hw
    cases hw
  | @waiting times last paced hn =>
    have hclose : ∀ deadline, Message.conclusion failure { m with
        state := .waitingForAck, retries := times.length, deadline := deadline } =
        closing m times.length failure := by
      intro deadline
      cases failure <;> rfl
    rw [hclose]
    refine .concluded paced (by simp) hn he (Message.settled_isDone _ _) ?_
    cases failure <;> exact ⟨rfl, rfl⟩
  | concluded _ _ _ _ hd _ => simp [hw, Progress.isDone] at hd

end Course

end Transfer

/-! ## Places in a queue -/

/-- None of the messages of a blob has been sent, and each has its place for a
sequence number. -/
def Queue.Fresh (q : Queue) : Prop :=
  ∀ (i : Nat) (m : Message), q.messages[i]? = some m → ∃ l, m = .ofLocated i l

theorem Transfer.fresh_of_ofData {data : Bytes} {s : Settings} {t : Transfer}
    (h : ofData data s = .ok t) : t.queue.Fresh := by
  obtain ⟨ms, hl, rfl⟩ := ofData_eq_ok h
  obtain ⟨-, -, rfl⟩ := Message.list_eq_ok_iff.1 hl
  intro i m hm
  rw [List.getElem?_mapIdx] at hm
  obtain ⟨l, -, rfl⟩ := Option.map_eq_some_iff.1 hm
  exact ⟨l, rfl⟩

namespace Queue

/-- Of messages numbered from `a` on, at most one has the number `i`. -/
theorem filter_sequence {ms : List Message} {a : Nat}
    (h : ∀ (j : Nat) (m : Message), ms[j]? = some m → m.sequence = a + j) (i : Nat) :
    ms.filter (fun m => decide (m.sequence = i)) = if a ≤ i then ms[i - a]?.toList else [] := by
  induction ms generalizing a with
  | nil => simp
  | cons m ms ih =>
    have hm : m.sequence = a := h 0 m rfl
    have hms : ∀ (j : Nat) (n : Message), ms[j]? = some n → n.sequence = a + 1 + j := by
      intro j n hn
      have := h (j + 1) n hn
      omega
    rw [List.filter_cons, ih hms, hm]
    rcases Nat.lt_trichotomy a i with hlt | rfl | hgt
    · have hsub : i - a = i - (a + 1) + 1 := by omega
      rw [if_neg (by simpa using hlt.ne), if_pos (Nat.succ_le_of_lt hlt), if_pos hlt.le, hsub,
        List.getElem?_cons_succ]
    · simp
    · rw [if_neg (by simpa using hgt.ne'), if_neg (by omega), if_neg (by omega)]

theorem length_sentNext (c : Context) (k : Nat) (q : Queue) :
    (q.sentNext c k).messages.length = q.messages.length := by
  rw [← q.taken_append_unsent, ← List.take_append_drop k q.unsent]
  simp only [sentNext, taken, List.length_append, List.length_map, Nat.add_assoc]

/-- Sending the next messages either leaves the one at `i` alone or sends it. -/
theorem sentNext_at {q : Queue} (h : q.Consistent)
    (hseq : ∀ (j : Nat) (m : Message), q.messages[j]? = some m → m.sequence = j)
    (c : Context) (k : Nat) {i : Nat} {n : Message} (hn : q.messages[i]? = some n) :
    (q.unsent.take k).filter (fun m => decide (m.sequence = i)) = [] ∧
        (q.sentNext c k).messages[i]? = some n ∨
      n.state = .waitingToSend ∧
        (q.unsent.take k).filter (fun m => decide (m.sequence = i)) = [n] ∧
        (q.sentNext c k).messages[i]? = some (n.outAt c) := by
  have hfirst : ∀ (j : Nat) (m : Message), (q.unsent.take k)[j]? = some m →
      m.sequence = q.next + j := by
    intro j m hm
    rw [List.getElem?_take] at hm
    split at hm
    · rw [unsent, List.getElem?_drop] at hm
      exact hseq _ _ hm
    · cases hm
  have hmessages : (q.sentNext c k).messages =
      q.taken ++ ((q.unsent.take k).map (Message.outAt c) ++ q.unsent.drop k) :=
    List.append_assoc _ _ _
  rw [filter_sequence hfirst, hmessages]
  by_cases hi : i < q.next
  · have htaken : q.taken[i]? = some n := by
      rw [Queue.taken, List.getElem?_take, if_pos hi, hn]
    refine .inl ⟨if_neg (Nat.not_le_of_lt hi), ?_⟩
    rwa [List.getElem?_append_left (h.length_taken.symm ▸ hi)]
  · have hle := Nat.le_of_not_lt hi
    have hunsent : q.unsent[i - q.next]? = some n := by
      rw [unsent, List.getElem?_drop, Nat.add_sub_cancel' hle, hn]
    have hlt := (List.getElem?_eq_some_iff.1 hunsent).1
    rw [if_pos hle, List.getElem?_append_right (h.length_taken.symm ▸ hle), h.length_taken]
    by_cases hk : i - q.next < k
    · have hnext : (q.unsent.take k)[i - q.next]? = some n := by
        rw [List.getElem?_take, if_pos hk, hunsent]
      have hin := (List.getElem?_eq_some_iff.1 hnext).1
      refine .inr ⟨h.unsent n (List.mem_of_getElem? hunsent), by rw [hnext]; rfl, ?_⟩
      rw [List.getElem?_append_left (by rwa [List.length_map]), List.getElem?_map, hnext]
      rfl
    · have hlen : ((q.unsent.take k).map (Message.outAt c)).length = k := by
        rw [List.length_map, List.length_take]
        omega
      refine .inl ⟨by rw [List.getElem?_take, if_neg hk]; rfl, ?_⟩
      rw [List.getElem?_append_right (by omega), hlen, List.getElem?_drop,
        Nat.add_sub_cancel' (Nat.le_of_not_lt hk), hunsent]

end Queue

namespace Transfer

/-! ## The record of a transfer -/

/-- What was written is the message that was reported as sent. -/
def Written (t : Transfer) (data : Bytes) (r : MessageReport) : Prop :=
  ∃ m, t.queue.messages[r.sequence]? = some m ∧ data = m.frame.bytes

/-- The transfer `t₀`, not begun yet, has become `t`, and these are the
entries of its journal since its messages were first sent. -/
structure Logged (s : Settings) (t₀ : Transfer) (es : List Entry) (t : Transfer) : Prop where
  needsAcks : t.discipline.needsAcks = true
  consistent : t.queue.Consistent
  length : t.queue.messages.length = t₀.queue.messages.length
  course : ∀ (i : Nat) (m n : Message), t₀.queue.messages[i]? = some m →
    t.queue.messages[i]? = some n → Course s m (about i es) n
  written : List.Forall₂ (Written t₀) (writes es) (sendings es)

namespace Logged

variable {s : Settings} {t₀ t u : Transfer} {es : List Entry} {c : Context} {o : Occasion}

/-- Nothing has happened yet. -/
theorem nil (hn : t₀.discipline.needsAcks = true) (h : t₀.queue.Consistent) :
    Logged s t₀ [] t₀ where
  needsAcks := hn
  consistent := h
  length := rfl
  course := by
    intro i m n hm hn
    rw [hm] at hn
    cases hn
    exact .unsent
  written := .nil

variable (fresh : t₀.queue.Fresh) (h : Logged s t₀ es t)

include fresh h

theorem origin {i : Nat} {n : Message} (hn : t.queue.messages[i]? = some n) :
    ∃ l, t₀.queue.messages[i]? = some (.ofLocated i l) ∧
      Course s (.ofLocated i l) (about i es) n := by
  have hi := (List.getElem?_eq_some_iff.1 hn).1
  rw [h.length] at hi
  obtain ⟨l, hl⟩ := fresh i _ (List.getElem?_eq_getElem hi)
  have hm := (List.getElem?_eq_getElem hi).trans (congrArg some hl)
  exact ⟨l, hm, h.course i _ n hm hn⟩

theorem sequence_eq {i : Nat} {n : Message} (hn : t.queue.messages[i]? = some n) :
    n.sequence = i := by
  obtain ⟨l, -, hcourse⟩ := h.origin fresh hn
  exact hcourse.same.1

/-- A message that went out is the message of the blob. -/
theorem written_of_mem {n : Message} (hn : n ∈ t.queue.messages) {r : MessageReport}
    (hr : r.sequence = n.sequence) : Written t₀ n.frame.bytes r := by
  obtain ⟨i, hi⟩ := List.getElem?_of_mem hn
  obtain ⟨l, hl, hcourse⟩ := h.origin fresh hi
  have hseq : r.sequence = i := hr.trans (h.sequence_eq fresh hi)
  refine ⟨.ofLocated i l, ?_, by rw [hcourse.same.2]⟩
  rw [hseq, hl]

/-- The room is used: messages go out for the first time. -/
theorem refill (hc : c.settings = s) (ho : o.now = c.now) :
    Logged s t₀ (es ++ t.refill.map (Entry.mk o)) (t.refilled c) where
  needsAcks := h.needsAcks
  consistent := h.consistent.sentNext c _
  length := (Queue.length_sentNext c _ t.queue).trans h.length
  course := by
    intro i m n' hm hn'
    have hi := (List.getElem?_eq_some_iff.1 hm).1
    rw [← h.length] at hi
    have hn := List.getElem?_eq_getElem hi
    have hcourse := h.course i m _ hm hn
    rw [about_append, Transfer.refill, about_transmissions]
    rcases Queue.sentNext_at h.consistent (fun _ _ => h.sequence_eq fresh) c t.room hn with
      ⟨hout, hstays⟩ | ⟨hw, hout, hgoes⟩
    · cases hstays.symm.trans hn'
      rw [hout, List.map_nil, List.append_nil]
      exact hcourse
    · cases hgoes.symm.trans hn'
      obtain ⟨l, rfl⟩ := fresh i m hm
      rw [hout]
      exact (hcourse.sent hc ho rfl hw).2
  written := by
    rw [Transfer.refill, writes_append, sendings_append, writes_transmissions,
      sendings_transmissions]
    refine List.rel_append h.written ?_
    rw [List.forall₂_map_left_iff, List.forall₂_map_right_iff, List.forall₂_same]
    intro n hn
    exact h.written_of_mem fresh (List.mem_of_mem_drop (List.mem_of_mem_take hn)) rfl

variable {i : Nat} {n : Message} (hn : t.queue.messages[i]? = some n)

include hn

/-- A message in flight ends. -/
theorem settle (hw : n.state = .waitingForAck) {failure : Option FailureReason}
    (he : Ends s n.retries o failure) :
    Logged s t₀ (es ++ [⟨o, .report (n.conclusion failure)⟩]) (t.settle i n failure) where
  needsAcks := h.needsAcks
  consistent := h.consistent.settle hn hw failure
  length := List.length_set.trans h.length
  course := by
    intro j m n' hm hn'
    rw [about_append, about_conclusion, h.sequence_eq fresh hn]
    by_cases hj : i = j
    · subst hj
      have hself : (t.settle i n failure).queue.messages[i]? = some (n.settled failure) :=
        List.getElem?_set_self (List.getElem?_eq_some_iff.1 hn).1
      cases hself.symm.trans hn'
      obtain ⟨l, rfl⟩ := fresh i m hm
      rw [if_pos rfl]
      exact (h.course i _ n hm hn).settled rfl hw he
    · have hother : (t.settle i n failure).queue.messages[j]? = t.queue.messages[j]? :=
        List.getElem?_set_ne hj
      rw [if_neg hj, List.append_nil]
      exact h.course j m n' hm (hother.symm.trans hn')
  written := by
    have hw : writes [⟨o, .report (n.conclusion failure)⟩] = [] := rfl
    have hs : sendings [⟨o, .report (n.conclusion failure)⟩] = [] := by
      cases failure <;> rfl
    rw [writes_append, sendings_append, hw, hs, List.append_nil, List.append_nil]
    exact h.written

/-- An overdue message goes out once more. -/
theorem sentAgain (hc : c.settings = s) (ho : o.now = c.now) (hd : n.overdue c.now = true)
    (hr : n.retries < s.retries) :
    Logged s t₀ (es ++ n.again.transmission.map (Entry.mk o))
      { t with queue := t.queue.put i (n.again.outAt c) } where
  needsAcks := h.needsAcks
  consistent := h.consistent.put hn (Message.state_of_overdue hd) c
  length := List.length_set.trans h.length
  course := by
    intro j m n' hm hn'
    have hsame : n.again.sequence = n.sequence := rfl
    rw [about_append, about_transmission, hsame, h.sequence_eq fresh hn]
    by_cases hj : i = j
    · subst hj
      have hself : (t.queue.put i (n.again.outAt c)).messages[i]? = some (n.again.outAt c) :=
        List.getElem?_set_self (List.getElem?_eq_some_iff.1 hn).1
      cases hself.symm.trans hn'
      obtain ⟨l, rfl⟩ := fresh i m hm
      rw [if_pos rfl]
      exact (h.course i _ n hm hn).sentAgain hc ho rfl hd hr
    · have hother : (t.queue.put i (n.again.outAt c)).messages[j]? = t.queue.messages[j]? :=
        List.getElem?_set_ne hj
      rw [if_neg hj, List.append_nil]
      exact h.course j m n' hm (hother.symm.trans hn')
  written := by
    rw [writes_append, sendings_append]
    refine List.rel_append h.written (.cons ?_ .nil)
    exact h.written_of_mem fresh (List.mem_of_getElem? hn) rfl

end Logged

/-! ## The record of a history -/

namespace Logged

variable {s : Settings} {t₀ t u : Transfer} {es : List Entry} {c : Context}
  (fresh : t₀.queue.Fresh)

include fresh

theorem answer {f : Frame} {i : Nat} {acts : List Action} (hc : c.settings = s)
    (h : Logged s t₀ es t) (ha : Answer c t f i acts u) :
    Logged s t₀ (es ++ acts.map (Entry.mk (.input (.frame c.now f)))) u := by
  cases ha with
  | settled hn hv hm hs =>
    obtain ⟨-, -, -, hfailure⟩ := verdict?_eq_some hv
    have hsettled := h.settle fresh hm hs (.answered c.now f hfailure)
    rw [List.map_cons, List.append_cons]
    exact hsettled.refill fresh hc rfl

theorem lapse {i : Nat} {acts : List Action} (hc : c.settings = s) (h : Logged s t₀ es t)
    (hl : Lapse c t i acts u) :
    Logged s t₀ (es ++ acts.map (Entry.mk (.input (.tick c.now)))) u := by
  cases hl with
  | givenUp hn hm hd hr =>
    obtain ⟨l, -, hcourse⟩ := h.origin fresh hm
    have hw := Message.state_of_overdue hd
    have hk := hcourse.retries_le rfl hw
    rw [hc] at hr
    have hspent := Nat.le_antisymm hk (Nat.le_of_not_lt hr)
    have hsettled := h.settle fresh hm hw (.givenUp c.now hspent)
    rw [List.map_cons, List.append_cons]
    exact hsettled.refill fresh hc rfl
  | sentAgain hn hm hd hr => exact h.sentAgain fresh hm hc rfl hd (hc ▸ hr)

theorem lapses {n : Nat} {acts : List Action} (hc : c.settings = s) (h : Logged s t₀ es t)
    (hl : Lapses c n t acts u) :
    Logged s t₀ (es ++ acts.map (Entry.mk (.input (.tick c.now)))) u := by
  induction hl generalizing es with
  | nil t =>
    rw [List.map_nil, List.append_nil]
    exact h
  | cons hl _ ih =>
    rw [List.map_append, ← List.append_assoc]
    exact ih (h.lapse fresh hc hl)

/-- An input is taken without a fault, and the record goes on. -/
theorem take {p : Transfer × Step} (h : Logged s t₀ es p.1) (hp : p.2 = p.1.queue.step) {i : Input}
    (hi : Context.Fits ⟨s, i.now⟩) :
    ∃ acts q, Transfer.take s p i = ⟨acts, .ok q⟩ ∧ q.2 = q.1.queue.step ∧
      Logged s t₀ (es ++ acts.map (Entry.mk (.input i))) q.1 := by
  cases i with
  | frame now f =>
    simp only [Transfer.take]
    cases hr : p.1.receive ⟨s, now⟩ f with
    | none =>
      refine ⟨[], p, rfl, hp, ?_⟩
      rw [List.map_nil, List.append_nil]
      exact h
    | some turn =>
      obtain ⟨i, acts, u, hturn, hanswer⟩ := receive_comes h.consistent hr
      exact ⟨acts, _, hturn.eq hi, rfl, h.answer fresh rfl hanswer⟩
  | tick now =>
    obtain ⟨n, acts, u, hturn, hlapses, -⟩ := checkTimeouts_comes ⟨s, now⟩ h.consistent
    exact ⟨acts, _, hturn.eq hi, rfl, h.lapses fresh rfl hlapses⟩

theorem takeAll {p : Transfer × Step} (h : Logged s t₀ es p.1) (hp : p.2 = p.1.queue.step)
    {inputs : List Input} (hin : ∀ i ∈ inputs, Context.Fits ⟨s, i.now⟩) :
    ∃ acts q, inputs.foldlM (Transfer.take s) p = ⟨acts, .ok q⟩ ∧ q.2 = q.1.queue.step ∧
      Logged s t₀ (es ++ journalFrom s inputs p) q.1 := by
  induction inputs generalizing es p with
  | nil =>
    refine ⟨[], p, rfl, hp, ?_⟩
    rw [journalFrom, List.append_nil]
    exact h
  | cons i is ih =>
    obtain ⟨acts, q, htake, hq, hlog⟩ := h.take fresh hp (hin i (by simp))
    obtain ⟨more, r, hrest, hr, hlog⟩ := ih hlog hq fun j hj => hin j (by simp [hj])
    refine ⟨acts ++ more, r, ?_, hr, ?_⟩
    · rw [List.foldlM_cons, htake, bind_ok, hrest]
    · rw [journalFrom, note, htake, ← List.append_assoc]
      exact hlog

end Logged

/-- What is told at the start, before the first messages are sent. -/
def opened (s : Settings) (now : Nat) (t : Transfer) : List Entry :=
  [⟨.start now, .report (.start t.queue.messages.length)⟩,
    ⟨.start now, .write s.ackSetup.frame.bytes⟩]

/-- The journal of a transfer is its opening and a record of its queue. -/
theorem history_logged {s : Settings} {t : Transfer} {now : Nat} {inputs : List Input}
    (fresh : t.queue.Fresh) (hcons : t.queue.Consistent) (hn : t.discipline.needsAcks = true)
    (hnow : Context.Fits ⟨s, now⟩) (hin : ∀ i ∈ inputs, Context.Fits ⟨s, i.now⟩) :
    (t.history s now inputs).Yields fun p => p.2 = p.1.queue.step ∧
      ∃ es, t.journal s now inputs = opened s now t ++ es ∧ Logged s t es p.1 := by
  have hstart : t.start ⟨s, now⟩ = ⟨.report (.start t.queue.messages.length) ::
      .write s.ackSetup.frame.bytes :: t.refill,
      .ok (t.refilled ⟨s, now⟩, (t.refilled ⟨s, now⟩).queue.step)⟩ := by
    rw [start_eq hnow hcons.sliced, Transfer.opening, started]
    cases hd : t.discipline with
    | unacknowledged =>
      rw [hd] at hn
      cases hn
    | stopAndWait | windowed => rfl
  have hlog := (Logged.nil (s := s) hn hcons).refill fresh (c := ⟨s, now⟩) (o := .start now) rfl rfl
  obtain ⟨acts, p, hrest, hp, hlog⟩ := hlog.takeAll fresh
    (p := (t.refilled ⟨s, now⟩, (t.refilled ⟨s, now⟩).queue.step)) rfl hin
  rw [history, hstart, bind_ok, hrest]
  refine ⟨_, p, rfl, hp, _, ?_, hlog⟩
  rw [journal, note, hstart]
  rfl

/-- A message that is done has been told to be so, once. -/
theorem Course.countP_concludes {s : Settings} {m n : Message} {es : List (Occasion × Event)}
    (hm : m.state = .waitingToSend) (h : Course s m es n) (hd : n.state.isDone = true) :
    es.countP (fun x => x.2.concludes) = 1 := by
  cases h with
  | unsent => simp [hm, Progress.isDone] at hd
  | waiting => cases hd
  | @concluded times k o failure n _ _ _ _ _ _ =>
    have hsent : (Transfer.sent m times).countP (fun x => x.2.concludes) = 0 := by
      refine List.countP_eq_zero.2 fun x hx => ?_
      obtain ⟨k, hk, rfl⟩ := List.mem_mapIdx.1 hx
      simp [Event.concludes]
    rw [List.countP_append, hsent]
    cases failure <;> rfl

/-- **What is told about each message.** Take any blob, a discipline under
which acknowledgements matter, and frames and ticks in any order. What the
host is told about a message is `Told`: it is sent, sent again at most
`retries` times and each time only when overdue, and then ends at most once,
for too many retries exactly if a tick gave it up. What is reported as sent was
written, and nothing else but the message that switches acknowledgements on.
When the transfer is finished, every message has ended. -/
theorem history_told {data : Bytes} {s : Settings} {t : Transfer} {now : Nat}
    {inputs : List Input} (ht : ofData data s = .ok t) (hn : s.discipline.needsAcks = true)
    (hnow : Context.Fits ⟨s, now⟩) (hin : ∀ i ∈ inputs, Context.Fits ⟨s, i.now⟩) :
    (t.history s now inputs).Yields fun p =>
      (∀ (i : Nat) (m : Message), t.queue.messages[i]? = some m →
        Told s m (about i (t.journal s now inputs))) ∧
      (∃ data, writes (t.journal s now inputs) = s.ackSetup.frame.bytes :: data ∧
        List.Forall₂ (Written t) data (sendings (t.journal s now inputs))) ∧
      (p.2 = .finished → ∀ i < t.queue.messages.length,
        (about i (t.journal s now inputs)).countP (fun x => x.2.concludes) = 1) := by
  have fresh := fresh_of_ofData ht
  have hrun :=
    history_logged fresh (consistent_of_ofData ht) (discipline_of_ofData ht ▸ hn) hnow hin
  refine hrun.mono fun p hp => ?_
  obtain ⟨hstep, es, hjournal, hlog⟩ := hp
  have habout : ∀ i, about i (t.journal s now inputs) = about i es := by
    intro i
    rw [hjournal, about_append]
    rfl
  -- A place of the blob is a place of the queue, with its course.
  have place : ∀ (i : Nat) (m : Message), t.queue.messages[i]? = some m →
      ∃ n, p.1.queue.messages[i]? = some n ∧
        Course s m (about i (t.journal s now inputs)) n := by
    intro i m hm
    have hi := (List.getElem?_eq_some_iff.1 hm).1
    rw [← hlog.length] at hi
    have hn := List.getElem?_eq_getElem hi
    rw [habout]
    exact ⟨_, hn, hlog.course i m _ hm hn⟩
  refine ⟨fun i m hm => ?_, ⟨writes es, ?_, ?_⟩, fun hfin i hi => ?_⟩
  · obtain ⟨n, -, hcourse⟩ := place i m hm
    exact hcourse.told
  · rw [hjournal, writes_append]
    rfl
  · rw [hjournal, sendings_append]
    exact hlog.written
  · obtain ⟨l, hl⟩ := fresh i _ (List.getElem?_eq_getElem hi)
    obtain ⟨n, hn, hcourse⟩ := place i _ (List.getElem?_eq_getElem hi)
    rw [hstep, hlog.consistent.step_eq_finished_iff] at hfin
    rw [hl] at hcourse
    exact hcourse.countP_concludes rfl (hfin n (List.mem_of_getElem? hn))

theorem history_told_pair :
    ofData pairData pairSettings = .ok pairTransfer ∧
      pairSettings.discipline.needsAcks = true ∧ Context.Fits ⟨pairSettings, 0⟩ ∧
      (∀ i ∈ pairInputs, Context.Fits ⟨pairSettings, i.now⟩) ∧
      (pairTransfer.history pairSettings 0 pairInputs).Yields fun p =>
        (∀ (i : Nat) (m : Message), pairTransfer.queue.messages[i]? = some m →
          Told pairSettings m (about i (pairTransfer.journal pairSettings 0 pairInputs))) ∧
        (p.2 = .finished → ∀ i < 2,
          (about i (pairTransfer.journal pairSettings 0 pairInputs)).countP
            (fun x => x.2.concludes) = 1) :=
  ⟨ofData_pair, by decide, by decide, by decide,
    (history_told ofData_pair (by decide) (by decide) (by decide)).mono
      fun _ hp => ⟨hp.1, hp.2.2⟩⟩

/-- The first message of the pair: sent, sent again, given up. -/
example :
    (about 0 (pairTransfer.journal pairSettings 0 pairInputs)).map (fun x => x.1.now) =
      [0, 100, 200] := by decide

end Transfer

end GnssAiding
