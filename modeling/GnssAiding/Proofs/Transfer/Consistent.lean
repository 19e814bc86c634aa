/-
The counters of a queue and the states of its messages tell the same story.

A queue is cut in two at `Queue.next`: the messages taken up, each waiting,
received or failed, and the ones not sent yet. `Queue.Consistent` says so,
that the other two counters count what they should, and that every message
stands in the blob at its offset. Each operation of `Proofs.Transfer.Queue` keeps
it; the cargo of the queue it leaves as it is.
-/
import GnssAiding.Proofs.Transfer.Queue

namespace GnssAiding

/-! ## Single messages -/

namespace Message

/-- A message that has been taken up: on its way or done, with a reason
exactly if it failed. -/
structure TakenUp (m : Message) : Prop where
  state : m.state = .waitingForAck ∨ m.state = .received ∨ m.state = .failed
  failure : m.failure.isSome = true ↔ m.state = .failed

/-- A message that has not been sent. -/
structure Untouched (m : Message) : Prop where
  state : m.state = .waitingToSend
  failure : m.failure = none

theorem Untouched.not_isDone {m : Message} (h : m.Untouched) : ¬ m.state.isDone = true := by
  simp [h.state, Progress.isDone]

theorem TakenUp.outAt {m : Message} (c : Context) (h : m.failure = none) : (m.outAt c).TakenUp :=
  ⟨.inl rfl, by simp [h]⟩

theorem TakenUp.takenForReceived {m : Message} (c : Context) (h : m.failure = none) :
    (m.takenForReceived c).TakenUp :=
  ⟨.inr (.inl rfl), by simp [Message.takenForReceived, h]⟩

theorem TakenUp.settled {m : Message} (failure : Option FailureReason) (h : m.failure = none) :
    (m.settled failure).TakenUp := by
  cases failure with
  | none => exact ⟨.inr (.inl rfl), by simp [Message.settled, h]⟩
  | some reason => exact ⟨.inr (.inr rfl), by simp [Message.settled]⟩

/-- A message in flight has not failed. -/
theorem TakenUp.failure_eq_none {m : Message} (h : m.TakenUp) (hs : m.state = .waitingForAck) :
    m.failure = none := by
  have hf := h.failure
  rw [hs] at hf
  simpa using hf

end Message

namespace Queue

/-- The messages that have been taken up. -/
def taken (q : Queue) : List Message := q.messages.take q.next

/-- Counters, states and the blob agree. -/
structure Consistent (q : Queue) : Prop where
  next_le : q.next ≤ q.messages.length
  taken : ∀ m ∈ q.taken, m.state = .waitingForAck ∨ m.state = .received ∨ m.state = .failed
  unsent : ∀ m ∈ q.unsent, m.state = .waitingToSend
  sent : q.sent = q.next
  acked : q.acked = q.resolved
  failure : ∀ m ∈ q.messages, m.failure.isSome = true ↔ m.state = .failed
  sliced : q.Sliced

theorem taken_append_unsent (q : Queue) : q.taken ++ q.unsent = q.messages :=
  List.take_append_drop q.next q.messages

/-! ## What lasts -/

section Lasting

variable {α : Type} {f : Message → α} {c : Context}

/-- What sending leaves alone about a message is the same afterwards all over the queue. -/
theorem map_sentNext (hf : ∀ m, f (m.outAt c) = f m) (n : Nat) (q : Queue) :
    (q.sentNext c n).messages.map f = q.messages.map f := by
  rw [← q.taken_append_unsent, ← List.take_append_drop n q.unsent]
  simp [sentNext, taken, Function.comp_def, hf]

theorem map_sentAll (hf : ∀ m, f (m.takenForReceived c) = f m) (q : Queue) :
    (q.sentAll c).messages.map f = q.messages.map f := by
  rw [← q.taken_append_unsent]
  simp [sentAll, taken, Function.comp_def, hf]

theorem map_set {q : Queue} {i : Nat} {m m' : Message} (hm : q.messages[i]? = some m)
    (hf : f m' = f m) : (q.messages.set i m').map f = q.messages.map f := by
  obtain ⟨hi, rfl⟩ := List.getElem?_eq_some_iff.1 hm
  rw [List.map_set, hf, ← List.getElem_map f (h := by rwa [List.length_map])]
  exact List.set_getElem_self _

end Lasting

@[simp]
theorem cargo_sentNext (c : Context) (n : Nat) (q : Queue) : (q.sentNext c n).cargo = q.cargo :=
  map_sentNext (Message.located_outAt c) n q

@[simp]
theorem cargo_sentAll (c : Context) (q : Queue) : (q.sentAll c).cargo = q.cargo :=
  map_sentAll (Message.located_takenForReceived c) q

/-- Replacing a message by one with the same frame. -/
theorem cargo_set {q q' : Queue} {i : Nat} {m m' : Message} (hm : q.messages[i]? = some m)
    (hq : q'.messages = q.messages.set i m') (hl : m'.located = m.located) :
    q'.cargo = q.cargo := by
  rw [cargo, hq]
  exact map_set hm hl

/-- A queue with the cargo of another and its blob is sliced as the other is. -/
theorem Sliced.congr {q q' : Queue} (h : q.Sliced) (data : q'.data = q.data)
    (cargo : q'.cargo = q.cargo) : q'.Sliced := by
  intro l hl
  rw [data]
  exact h l (cargo ▸ hl)

/-! ## What holds of a consistent queue -/

namespace Consistent

variable {q : Queue} (h : q.Consistent)

include h

theorem length_taken : q.taken.length = q.next := by
  rw [Queue.taken, List.length_take, Nat.min_eq_left h.next_le]

theorem takenUp {m : Message} (hm : m ∈ q.taken) : m.TakenUp :=
  ⟨h.taken m hm, h.failure m (List.mem_of_mem_take hm)⟩

theorem untouched {m : Message} (hm : m ∈ q.unsent) : m.Untouched := by
  have hs := h.unsent m hm
  have hf := h.failure m (List.mem_of_mem_drop hm)
  rw [hs] at hf
  exact ⟨hs, by simpa using hf⟩

/-- A message that has been sent stands among those taken up, where the
whole list has it. -/
theorem getElem?_taken {i : Nat} {m : Message} (hm : q.messages[i]? = some m)
    (hs : m.state ≠ .waitingToSend) : q.taken[i]? = some m := by
  by_cases hi : i < q.next
  · rw [Queue.taken, List.getElem?_take, if_pos hi, hm]
  · refine absurd (h.unsent m ?_) hs
    have hd : q.unsent[i - q.next]? = some m := by
      rw [Queue.unsent, List.getElem?_drop, Nat.add_sub_cancel' (Nat.le_of_not_lt hi), hm]
    exact List.mem_of_getElem? hd

/-- Sending moves the border between the two parts behind what is sent. -/
theorem next_sentNext (c : Context) (n : Nat) :
    (q.taken ++ (q.unsent.take n).map (Message.outAt c)).length = (q.sentNext c n).next := by
  rw [List.length_append, h.length_taken, List.length_map]
  rfl

theorem taken_sentNext (c : Context) (n : Nat) :
    (q.sentNext c n).taken = q.taken ++ (q.unsent.take n).map (Message.outAt c) :=
  List.take_left' (h.next_sentNext c n)

theorem unsent_sentNext (c : Context) (n : Nat) : (q.sentNext c n).unsent = q.unsent.drop n :=
  List.drop_left' (h.next_sentNext c n)

/-- Sending the next messages leaves those sent before as they are. -/
theorem getElem?_sentNext (c : Context) (n : Nat) {i : Nat} {m : Message}
    (hm : q.messages[i]? = some m) (hs : m.state ≠ .waitingToSend) :
    (q.sentNext c n).messages[i]? = some m := by
  have ht := h.getElem?_taken hm hs
  have hlt := (List.getElem?_eq_some_iff.1 ht).1
  rw [Queue.taken] at ht hlt
  simp only [sentNext, List.append_assoc]
  rw [List.getElem?_append_left hlt, ht]

theorem countP_unsent_isDone : q.unsent.countP (fun m => m.state.isDone) = 0 :=
  List.countP_eq_zero.2 fun _ hm => (h.untouched hm).not_isDone

theorem acked_eq_countP_taken : q.acked = q.taken.countP fun m => m.state.isDone := by
  rw [h.acked, resolved, ← q.taken_append_unsent, List.countP_append, h.countP_unsent_isDone,
    Nat.add_zero]

theorem step_eq_finished_iff : q.step = .finished ↔ ∀ m ∈ q.messages, m.state.isDone = true := by
  rw [step, h.acked, resolved, ← List.countP_eq_length]
  split <;> simp_all

/-- When every message is done, all have been taken up. -/
theorem next_of_finished (hf : q.step = .finished) : q.next = q.messages.length := by
  refine Nat.le_antisymm h.next_le (Nat.le_of_not_lt fun hlt => ?_)
  have hm := List.getElem_mem (l := q.unsent) (n := 0)
    (by rw [Queue.unsent, List.length_drop]; omega)
  exact (h.untouched hm).not_isDone (h.step_eq_finished_iff.1 hf _ (List.mem_of_mem_drop hm))

end Consistent

/-! ## What keeps a queue consistent -/

/-- A queue in two parts is consistent when the parts are. -/
theorem Consistent.of_append {q : Queue} {front back : List Message}
    (messages : q.messages = front ++ back) (next : q.next = front.length)
    (taken : ∀ m ∈ front, m.TakenUp) (unsent : ∀ m ∈ back, m.Untouched) (sent : q.sent = q.next)
    (acked : q.acked = front.countP fun m => m.state.isDone) (sliced : q.Sliced) :
    q.Consistent where
  next_le := by simp [messages, next]
  taken := by
    rw [Queue.taken, messages, next, List.take_left]
    exact fun m hm => (taken m hm).state
  unsent := by
    rw [Queue.unsent, messages, next, List.drop_left]
    exact fun m hm => (unsent m hm).state
  sent := sent
  acked := by
    have hu : back.countP (fun m => m.state.isDone) = 0 :=
      List.countP_eq_zero.2 fun m hm => (unsent m hm).not_isDone
    rw [acked, resolved, messages, List.countP_append, hu, Nat.add_zero]
  failure := by
    intro m hm
    rw [messages, List.mem_append] at hm
    rcases hm with hm | hm
    · exact (taken m hm).failure
    · simp [(unsent m hm).failure, (unsent m hm).state]
  sliced := sliced

namespace Consistent

variable {q : Queue} (h : q.Consistent)

include h

/-- Taking up the messages `first`, each turned into one that is taken up. -/
theorem advance {q' : Queue} {first rest : List Message} {f : Message → Message}
    (hu : q.unsent = first ++ rest) (hf : ∀ m ∈ first, (f m).TakenUp)
    (messages : q'.messages = q.taken ++ first.map f ++ rest)
    (next : q'.next = q.next + first.length)
    (sent : q'.sent = q.sent + first.countP fun m => decide (m.state = .waitingToSend))
    (acked : q'.acked = q.acked + (first.map f).countP fun m => m.state.isDone)
    (data : q'.data = q.data) (cargo : q'.cargo = q.cargo) : q'.Consistent := by
  have hfirst : ∀ m ∈ first, m ∈ q.unsent := fun m hm => by simp [hu, hm]
  have hrest : ∀ m ∈ rest, m ∈ q.unsent := fun m hm => by simp [hu, hm]
  have hcount : first.countP (fun m => decide (m.state = .waitingToSend)) = first.length :=
    List.countP_eq_length.2 fun m hm => by simpa using h.unsent m (hfirst m hm)
  refine .of_append messages ?_ ?_ (fun m hm => h.untouched (hrest m hm)) ?_ ?_
    (h.sliced.congr data cargo)
  · rw [next, List.length_append, h.length_taken, List.length_map]
  · intro m hm
    rcases List.mem_append.1 hm with hm | hm
    · exact h.takenUp hm
    · obtain ⟨n, hn, rfl⟩ := List.mem_map.1 hm
      exact hf n hn
  · rw [sent, next, hcount, h.sent]
  · rw [acked, List.countP_append, h.acked_eq_countP_taken]

theorem sentNext (c : Context) (n : Nat) : (q.sentNext c n).Consistent := by
  refine h.advance (f := Message.outAt c) (List.take_append_drop n q.unsent).symm ?_ rfl rfl rfl ?_
    rfl (cargo_sentNext c n q)
  · intro m hm
    exact .outAt c (h.untouched (List.mem_of_mem_take hm)).failure
  · have : ((q.unsent.take n).map (Message.outAt c)).countP (fun m => m.state.isDone) = 0 := by
      rw [List.countP_map, List.countP_eq_zero]
      simp [Progress.isDone]
    rw [this]
    rfl

theorem sentAll (c : Context) : (q.sentAll c).Consistent := by
  refine h.advance (f := Message.takenForReceived c) (List.append_nil _).symm ?_
    (List.append_nil _).symm rfl rfl ?_ rfl (cargo_sentAll c q)
  · intro m hm
    exact .takenForReceived c (h.untouched hm).failure
  · have : (q.unsent.map (Message.takenForReceived c)).countP (fun m => m.state.isDone) =
        q.unsent.length := by
      simp [List.countP_map, Message.takenForReceived, Progress.isDone, Function.comp_def]
    rw [this]
    rfl

variable {i : Nat} {m : Message} (hm : q.messages[i]? = some m) (hs : m.state = .waitingForAck)

include hm hs

/-- Replacing a message in flight by one that is taken up too. -/
theorem replace {q' : Queue} {m' : Message} (hm' : m'.TakenUp)
    (messages : q'.messages = q.messages.set i m') (next : q'.next = q.next)
    (sent : q'.sent = q.sent) (acked : q'.acked = q.acked + if m'.state.isDone then 1 else 0)
    (data : q'.data = q.data) (located : m'.located = m.located) : q'.Consistent := by
  obtain ⟨hi, hget⟩ := List.getElem?_eq_some_iff.1 (h.getElem?_taken hm (by simp [hs]))
  have hset : q.messages.set i m' = q.taken.set i m' ++ q.unsent := by
    rw [← List.set_append_left _ _ hi, taken_append_unsent]
  refine .of_append (messages.trans hset) ?_ ?_ (fun m hm => h.untouched hm) ?_ ?_
    (h.sliced.congr data (cargo_set hm messages located))
  · rw [next, List.length_set, h.length_taken]
  · intro n hn
    rcases List.mem_or_eq_of_mem_set hn with hn | rfl
    · exact h.takenUp hn
    · exact hm'
  · rw [sent, next, h.sent]
  · rw [acked, List.countP_set hi, hget, ← h.acked_eq_countP_taken, hs]
    rfl

/-- A message in flight has not failed. -/
theorem failure_eq_none : m.failure = none :=
  (h.takenUp (List.mem_of_getElem? (h.getElem?_taken hm (by simp [hs])))).failure_eq_none hs

theorem settle (failure : Option FailureReason) : (q.settle i (m.settled failure)).Consistent := by
  refine h.replace hm hs (.settled failure (h.failure_eq_none hm hs)) rfl rfl rfl ?_ rfl
    (m.located_settled failure)
  rw [if_pos (m.settled_isDone failure)]
  rfl

theorem unsent_put (m' : Message) : (q.put i m').unsent = q.unsent := by
  have hi := (List.getElem?_eq_some_iff.1 (h.getElem?_taken hm (by simp [hs]))).1
  rw [h.length_taken] at hi
  exact List.drop_set_of_lt hi

theorem put (c : Context) : (q.put i (m.again.outAt c)).Consistent := by
  have hf : m.again.failure = none := m.again_failure.trans (h.failure_eq_none hm hs)
  exact h.replace hm hs (.outAt c hf) rfl rfl rfl rfl rfl rfl

end Consistent

end Queue

end GnssAiding
