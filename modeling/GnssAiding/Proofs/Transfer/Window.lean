/-
The windowed discipline: how many bytes may be in flight.

After every turn the bytes in flight fit the budget, or a single message
larger than the budget is in flight alone; and the next message not sent yet
would not fit any more (`Queue.Windowed`). A settled message leaves the first
half true and breaks the second, and filling up mends it. A running transfer
is never without a message in flight, because nothing in flight leaves room
for whatever comes next.
-/
import GnssAiding.Proofs.Transfer.History

namespace GnssAiding

open Turn

/-- A message has a header and a checksum at least. -/
theorem Message.length_pos (m : Message) : 0 < m.length := by
  simp only [length, Frame.length]
  omega

namespace Queue

/-! ## Sizes -/

theorem size_append (ms ns : List Message) : size (ms ++ ns) = size ms + size ns := by
  induction ms with
  | nil => simp only [List.nil_append, size, Nat.zero_add]
  | cons m ms ih => simp only [List.cons_append, size, ih, Nat.add_assoc]

theorem size_map {f : Message → Message} (hf : ∀ m, (f m).length = m.length) (ms : List Message) :
    size (ms.map f) = size ms := by
  induction ms with
  | nil => rfl
  | cons m ms ih => simp only [List.map_cons, size, hf, ih]

theorem size_eq_zero_iff {ms : List Message} : size ms = 0 ↔ ms = [] := by
  cases ms with
  | nil => simp [size]
  | cons m ms =>
    have := m.length_pos
    simp only [size, List.cons_ne_nil, iff_false]
    omega

/-! ## What fits -/

/-- Fitting messages stay within the budget, unless there is none, or a
single one that goes out alone. -/
theorem fitting_le (budget used : Nat) (ms : List Message) :
    used + size (ms.take (fitting budget used ms)) ≤ budget ∨ fitting budget used ms = 0 ∨
      used = 0 ∧ (ms.take (fitting budget used ms)).length = 1 := by
  induction ms generalizing used with
  | nil => exact .inr (.inl rfl)
  | cons m ms ih =>
    rw [fitting]
    split
    · exact .inr (.inl rfl)
    · next hgo =>
      have hpos := m.length_pos
      simp only [List.take_succ_cons, size, List.length_cons, ← Nat.add_assoc]
      rcases ih (used + m.length) with hle | hzero | ⟨hused, -⟩
      · exact .inl hle
      · rw [hzero]
        by_cases hused : used = 0
        · exact .inr (.inr ⟨hused, rfl⟩)
        · left
          simp only [List.take_zero, size]
          omega
      · omega

/-- What comes behind the fitting messages does not fit any more. -/
theorem lt_of_head?_drop_fitting {budget used : Nat} {ms : List Message} {m : Message}
    (h : (ms.drop (fitting budget used ms)).head? = some m) :
    0 < used + size (ms.take (fitting budget used ms)) ∧
      budget < used + size (ms.take (fitting budget used ms)) + m.length := by
  induction ms generalizing used with
  | nil => simp at h
  | cons n ms ih =>
    rw [fitting] at h ⊢
    split at h
    · next hstop =>
      cases h
      rw [if_pos hstop]
      simpa [size] using hstop
    · next hgo =>
      rw [if_neg hgo]
      simp only [List.take_succ_cons, size, ← Nat.add_assoc]
      exact ih h

/-! ## Messages in flight -/

theorem inFlight_pos_iff {q : Queue} : 0 < q.inFlight ↔ q.waiting ≠ [] := by
  rw [Nat.pos_iff_ne_zero, inFlight, ne_eq, size_eq_zero_iff]

section

variable {q : Queue} (h : q.Consistent)

include h

theorem waiting_eq : q.waiting = q.taken.filter fun m => decide (m.state = .waitingForAck) := by
  have hu : q.unsent.filter (fun m => decide (m.state = .waitingForAck)) = [] := by
    rw [List.filter_eq_nil_iff]
    intro m hm
    simp [h.unsent m hm]
  rw [waiting, ← q.taken_append_unsent, List.filter_append, hu, List.append_nil]

/-- What is sent is in flight. -/
theorem waiting_sentNext (c : Context) (n : Nat) :
    (q.sentNext c n).waiting = q.waiting ++ (q.unsent.take n).map (Message.outAt c) := by
  have hout : ((q.unsent.take n).map (Message.outAt c)).filter
      (fun m => decide (m.state = .waitingForAck)) = (q.unsent.take n).map (Message.outAt c) := by
    rw [List.filter_eq_self]
    intro m hm
    obtain ⟨m, -, rfl⟩ := List.mem_map.1 hm
    simp
  rw [waiting_eq (h.sentNext c n), h.taken_sentNext, List.filter_append, hout, ← waiting_eq h]

theorem inFlight_sentNext (c : Context) (n : Nat) :
    (q.sentNext c n).inFlight = q.inFlight + size (q.unsent.take n) := by
  rw [inFlight, waiting_sentNext h, size_append, size_map (Message.outAt_length c)]
  rfl

/-- The next message to be sent is the first one behind those taken up. -/
theorem find?_eq_head?_unsent :
    q.messages.find? (fun m => decide (m.state = .waitingToSend)) = q.unsent.head? := by
  have ht : q.taken.find? (fun m => decide (m.state = .waitingToSend)) = none := by
    rw [List.find?_eq_none]
    intro m hm
    rcases h.taken m hm with hs | hs | hs <;> simp [hs]
  rw [← q.taken_append_unsent, List.find?_append, ht, Option.none_or]
  cases hu : q.unsent with
  | nil => rfl
  | cons m ms =>
    have hs := h.unsent m (by simp [hu])
    simp [hs]

end

/-- Where a message in flight stands among those in flight, and what becomes
of them when it is replaced. -/
theorem waiting_set {q q' : Queue} {i : Nat} {m m' : Message} (hm : q.messages[i]? = some m)
    (hs : m.state = .waitingForAck) (hq : q'.messages = q.messages.set i m') :
    ∃ before after, q.waiting = before ++ m :: after ∧
      q'.waiting = before ++ [m'].filter (fun m => decide (m.state = .waitingForAck)) ++ after := by
  obtain ⟨hi, hget⟩ := List.getElem?_eq_some_iff.1 hm
  have hcut : ∃ before after, q.messages = before ++ q.messages[i] :: after ∧
      before.length = i ∧ q.messages.set i m' = before ++ m' :: after := List.exists_of_set hi
  obtain ⟨before, after, hsplit, -, hset⟩ := hcut
  rw [hget] at hsplit
  refine ⟨before.filter fun m => decide (m.state = .waitingForAck),
    after.filter fun m => decide (m.state = .waitingForAck), ?_, ?_⟩
  · rw [waiting, hsplit, List.filter_append, List.filter_cons_of_pos (by simp [hs])]
  · rw [waiting, hq, hset, List.append_cons, List.filter_append, List.filter_append]

theorem waiting_settle {q : Queue} {i : Nat} {m : Message} (hm : q.messages[i]? = some m)
    (hs : m.state = .waitingForAck) (failure : Option FailureReason) :
    ∃ before after, q.waiting = before ++ m :: after ∧
      (q.settle i (m.settled failure)).waiting = before ++ after := by
  have hset : (q.settle i (m.settled failure)).messages =
      q.messages.set i (m.settled failure) := rfl
  obtain ⟨before, after, hw, hw'⟩ := waiting_set hm hs hset
  refine ⟨before, after, hw, ?_⟩
  rw [hw']
  cases failure <;> simp [Message.settled]

theorem waiting_put {q : Queue} {i : Nat} {m : Message} (hm : q.messages[i]? = some m)
    (hs : m.state = .waitingForAck) (c : Context) :
    ∃ before after, q.waiting = before ++ m :: after ∧
      (q.put i (m.again.outAt c)).waiting = before ++ m.again.outAt c :: after := by
  have hset : (q.put i (m.again.outAt c)).messages = q.messages.set i (m.again.outAt c) := rfl
  obtain ⟨before, after, hw, hw'⟩ := waiting_set hm hs hset
  refine ⟨before, after, hw, ?_⟩
  rw [hw']
  simp

/-! ## The window -/

/-- The bytes in flight fit the budget or belong to a single message, and
nothing more fits. -/
structure Windowed (budget : Nat) (q : Queue) : Prop where
  bounded : q.inFlight ≤ budget ∨ q.waiting.length = 1
  greedy : ∀ m, q.unsent.head? = some m → 0 < q.inFlight ∧ budget < q.inFlight + m.length

/-- Filling up opens the window as far as it goes. -/
theorem Windowed.fill {q : Queue} {budget : Nat} (h : q.Consistent) (hq : q.inFlight ≤ budget)
    (c : Context) :
    (q.sentNext c (fitting budget q.inFlight q.unsent)).Windowed budget where
  bounded := by
    rw [inFlight_sentNext h, waiting_sentNext h, List.length_append, List.length_map]
    rcases fitting_le budget q.inFlight q.unsent with hle | hzero | ⟨hidle, hone⟩
    · exact .inl hle
    · rw [hzero]
      exact .inl hq
    · have hnone : q.waiting = [] := size_eq_zero_iff.1 hidle
      rw [hnone, hone]
      exact .inr rfl
  greedy := by
    intro m hm
    rw [h.unsent_sentNext] at hm
    rw [inFlight_sentNext h]
    exact lt_of_head?_drop_fitting hm

/-- With one message less in flight the rest fits the budget. -/
theorem Windowed.inFlight_settle_le {q : Queue} {budget i : Nat} {m : Message}
    (h : q.Windowed budget) (hm : q.messages[i]? = some m) (hs : m.state = .waitingForAck)
    (failure : Option FailureReason) : (q.settle i (m.settled failure)).inFlight ≤ budget := by
  obtain ⟨before, after, hw, hw'⟩ := waiting_settle hm hs failure
  have hb := h.bounded
  rw [inFlight, hw, size_append, size] at hb
  rw [inFlight, hw', size_append]
  rcases hb with hle | hone
  · omega
  · have hnil : before = [] ∧ after = [] := by
      simp only [List.length_append, List.length_cons] at hone
      constructor <;> apply List.length_eq_zero_iff.1 <;> omega
    rw [hnil.1, hnil.2]
    exact Nat.zero_le budget

theorem Windowed.put {q : Queue} {budget i : Nat} {m : Message} (h : q.Windowed budget)
    (hc : q.Consistent) (hm : q.messages[i]? = some m) (hs : m.state = .waitingForAck)
    (c : Context) : (q.put i (m.again.outAt c)).Windowed budget := by
  obtain ⟨before, after, hw, hw'⟩ := waiting_put hm hs c
  have hsize : (q.put i (m.again.outAt c)).inFlight = q.inFlight := by
    rw [inFlight, hw', inFlight, hw, size_append, size_append, size, size, Message.outAt_length,
      Message.again_length]
  have hlength : (q.put i (m.again.outAt c)).waiting.length = q.waiting.length := by
    rw [hw', hw, List.length_append, List.length_append, List.length_cons, List.length_cons]
  have hunsent : (q.put i (m.again.outAt c)).unsent = q.unsent := hc.unsent_put hm hs _
  exact ⟨by rw [hsize, hlength]; exact h.bounded, by rw [hsize, hunsent]; exact h.greedy⟩

/-- Where messages are left to be sent, one is in flight. -/
def Lively (q : Queue) : Prop := q.unsent ≠ [] → q.waiting ≠ []

theorem Windowed.lively {q : Queue} {budget : Nat} (h : q.Windowed budget) : q.Lively := by
  intro hne
  obtain ⟨m, ms, hu⟩ := List.exists_cons_of_ne_nil hne
  exact inFlight_pos_iff.1 (h.greedy m (by simp [hu])).1

/-- A lively queue that is not finished has a message in flight. -/
theorem Lively.waiting_ne_nil {q : Queue} (h : q.Lively) (hc : q.Consistent)
    (hr : q.step ≠ .finished) : q.waiting ≠ [] := by
  intro hnone
  have hsent : q.unsent = [] := Decidable.not_not.1 fun hne => h hne hnone
  refine hr (hc.step_eq_finished_iff.2 fun m hm => ?_)
  have ht : m ∈ q.taken := by
    rw [← q.taken_append_unsent, hsent, List.append_nil] at hm
    exact hm
  rcases hc.taken m ht with hs | hs | hs
  · have hw : m ∈ q.waiting := List.mem_filter.2 ⟨hm, by simp [hs]⟩
    rw [hnone] at hw
    cases hw
  · simp [hs, Progress.isDone]
  · simp [hs, Progress.isDone]

/-- A queue that is not finished has a message in flight. -/
theorem Windowed.waiting_ne_nil {q : Queue} {budget : Nat} (h : q.Windowed budget)
    (hc : q.Consistent) (hr : q.step ≠ .finished) : q.waiting ≠ [] :=
  h.lively.waiting_ne_nil hc hr

end Queue

namespace Transfer

/-- A transfer of the windowed discipline with its window filled up. -/
structure WindowKept (s : Settings) (t : Transfer) : Prop where
  consistent : t.queue.Consistent
  discipline : t.discipline = .windowed
  budget : t.budget = s.budget
  windowed : t.queue.Windowed s.budget

/-- Using the room there is fills the window up. -/
theorem WindowKept.refilled {s : Settings} {t : Transfer} (h : t.queue.Consistent)
    (hd : t.discipline = .windowed) (hb : t.budget = s.budget) (hq : t.queue.inFlight ≤ s.budget)
    (c : Context) : (t.refilled c).WindowKept s where
  consistent := h.sentNext c _
  discipline := hd
  budget := hb
  windowed := by
    have hroom : t.room = Queue.fitting s.budget t.queue.inFlight t.queue.unsent := by
      rw [room, hd, hb]
    rw [Transfer.refilled, hroom]
    exact .fill h hq c

theorem WindowKept.started {data : Bytes} {s : Settings} {t : Transfer} (ht : ofData data s = .ok t)
    (hd : s.discipline = .windowed) (c : Context) : (t.started c).WindowKept s := by
  have hcons := consistent_of_ofData ht
  obtain ⟨ms, -, rfl⟩ := ofData_eq_ok ht
  have hstart : (⟨⟨data, ms, 0, 0, 0⟩, s.discipline, s.budget⟩ : Transfer).started c =
      (⟨⟨data, ms, 0, 0, 0⟩, s.discipline, s.budget⟩ : Transfer).refilled c := by
    simp only [Transfer.started, hd]
  rw [hstart]
  refine .refilled hcons hd rfl ?_ c
  rw [Queue.inFlight, Queue.waiting_eq hcons]
  exact Nat.zero_le _

theorem Move.windowKept {s : Settings} {c : Context} {t u : Transfer} {i : Nat} {acts : List Action}
    (h : Move c t i acts u) (ht : t.WindowKept s) : u.WindowKept s := by
  cases h with
  | @settled m failure _ hm hs _ =>
    have hcons := ht.consistent.settle hm hs failure
    have hfits := ht.windowed.inFlight_settle_le hm hs failure
    exact .refilled (t := t.settle i m failure) hcons ht.discipline ht.budget hfits c
  | sentAgain _ hm hs _ _ =>
    have hcons := ht.consistent.put hm hs c
    exact ⟨hcons, ht.discipline, ht.budget, ht.windowed.put ht.consistent hm hs c⟩

/-- **Within the budget, greedy, and never stalled.** Under the windowed
discipline, after the start and after every input: the messages in flight fit
the budget or are one message alone; and while the transfer runs there is a
message in flight, and the next message not sent yet, if there is one, would
not fit with those in flight. -/
theorem history_windowed {data : Bytes} {s : Settings} {t : Transfer} {now : Nat}
    {inputs : List Input} (ht : ofData data s = .ok t) (hd : s.discipline = .windowed)
    (hnow : Context.Fits ⟨s, now⟩) (hin : ∀ i ∈ inputs, Context.Fits ⟨s, i.now⟩) :
    (t.history s now inputs).Yields fun p =>
      (p.1.queue.inFlight ≤ s.budget ∨ p.1.queue.waiting.length = 1) ∧
      (p.2 = .running →
        p.1.queue.waiting ≠ [] ∧
        ∀ m, p.1.queue.messages.find? (fun m => decide (m.state = .waitingToSend)) = some m →
          s.budget < p.1.queue.inFlight + m.length) := by
  refine (history_yields WindowKept.consistent (fun _ hmove => hmove.windowKept) hnow hin
    (consistent_of_ofData ht).sliced (WindowKept.started ht hd _)).mono ?_
  rintro p ⟨hp, hstep⟩
  refine ⟨hp.windowed.bounded, fun hrun => ⟨?_, fun m hm => ?_⟩⟩
  · refine hp.windowed.waiting_ne_nil hp.consistent ?_
    rw [← hstep, hrun]
    exact Step.noConfusion
  · rw [Queue.find?_eq_head?_unsent hp.consistent] at hm
    exact (hp.windowed.greedy m hm).2

/-- Both messages are larger than the budget; the second one goes out when
the first has been given up. -/
theorem history_windowed_pair :
    ofData pairData pairSettings = .ok pairTransfer ∧ pairSettings.discipline = .windowed ∧
      Context.Fits ⟨pairSettings, 0⟩ ∧ (∀ i ∈ pairInputs, Context.Fits ⟨pairSettings, i.now⟩) ∧
      (pairTransfer.history pairSettings 0 pairInputs).Yields fun p =>
        (p.1.queue.inFlight ≤ pairSettings.budget ∨ p.1.queue.waiting.length = 1) ∧
        (p.2 = .running →
          p.1.queue.waiting ≠ [] ∧
          ∀ m, p.1.queue.messages.find? (fun m => decide (m.state = .waitingToSend)) = some m →
            pairSettings.budget < p.1.queue.inFlight + m.length) :=
  ⟨ofData_pair, rfl, by decide, by decide,
    history_windowed ofData_pair rfl (by decide) (by decide)⟩

end Transfer

end GnssAiding
