/-
The stop-and-wait discipline: one message in flight at a time.

Nothing that sends looks at what is in flight, so this is a fact about whole
runs. The messages that are done stand in front, the one in flight behind them,
and those not sent yet at the end (`Queue.InTurn`). Then an answer or a lapse can
only be about that one message, and the message that goes out for it is the
first of those not sent. So the order is kept by every move, and a transfer that
runs has a message in flight (`history_oneOut`).
-/
import GnssAiding.Proofs.Transfer.History

namespace GnssAiding

open Turn

namespace Queue

/-- The queue is cut at the one message in flight, or everything is done. -/
inductive InTurn (q : Queue) : Prop
  | out {front m back} (messages : q.messages = front ++ m :: back)
    (done : ∀ n ∈ front, n.state.isDone = true) (waits : m.state = .waitingForAck)
    (acked : q.acked = front.length) (next : q.next = front.length + 1)
  | finished (done : ∀ m ∈ q.messages, m.state.isDone = true)

/-- One message is in flight, the first that is not done; those before it are
done and those behind it have not been sent. -/
structure OneOut (q : Queue) : Prop where
  current : ∃ m, q.messages[q.acked]? = some m ∧ q.waiting = [m]
  done : ∀ m ∈ q.messages.take q.acked, m.state = .received ∨ m.state = .failed
  unsent : ∀ m ∈ q.messages.drop (q.acked + 1), m.state = .waitingToSend
  sent : q.sent = q.acked + 1

variable {q : Queue} {front back : List Message}

/-- When everything sent is done, sending one message puts it in flight. -/
theorem InTurn.sentNext (h : q.messages = front ++ back)
    (hdone : ∀ n ∈ front, n.state.isDone = true) (hacked : q.acked = front.length)
    (hnext : q.next = front.length) (c : Context) : (q.sentNext c 1).InTurn := by
  have htaken : q.messages.take q.next = front := by rw [h, hnext, List.take_left]
  have hunsent : q.unsent = back := by rw [unsent, h, hnext, List.drop_left]
  cases back with
  | nil =>
    refine .finished fun n hn => hdone n ?_
    simpa [Queue.sentNext, htaken, hunsent] using hn
  | cons b bs =>
    have hmessages : (q.sentNext c 1).messages = front ++ b.outAt c :: bs := by
      simp [Queue.sentNext, htaken, hunsent]
    refine .out hmessages hdone rfl hacked ?_
    simp [Queue.sentNext, hunsent, hnext]

theorem not_isDone_of_waiting {m : Message} (h : m.state = .waitingForAck) :
    m.state.isDone = false := by
  rw [h]
  rfl

/-- A message in flight is the one at the cut. -/
theorem eq_of_waiting {m n : Message} {i : Nat} (h : q.messages = front ++ m :: back)
    (hdone : ∀ k ∈ front, k.state.isDone = true) (hback : ∀ k ∈ back, k.state = .waitingToSend)
    (hn : q.messages[i]? = some n) (hw : n.state = .waitingForAck) : i = front.length ∧ n = m := by
  rw [h] at hn
  rcases Nat.lt_trichotomy i front.length with hlt | rfl | hgt
  · rw [List.getElem?_append_left hlt] at hn
    have := hdone n (List.mem_of_getElem? hn)
    rw [not_isDone_of_waiting hw] at this
    cases this
  · rw [List.getElem?_append_right (Nat.le_refl _), Nat.sub_self, List.getElem?_cons_zero] at hn
    cases hn
    exact ⟨rfl, rfl⟩
  · obtain ⟨k, rfl⟩ := Nat.exists_eq_add_of_lt hgt
    rw [List.getElem?_append_right (by omega),
      show front.length + k + 1 - front.length = k + 1 by omega,
      List.getElem?_cons_succ] at hn
    have := hback n (List.mem_of_getElem? hn)
    rw [hw] at this
    cases this

/-- Behind the cut nothing has been sent. -/
theorem Consistent.back_unsent (hc : q.Consistent) {m : Message}
    (h : q.messages = front ++ m :: back) (hnext : q.next = front.length + 1) :
    ∀ k ∈ back, k.state = .waitingToSend := by
  intro k hk
  refine hc.unsent k ?_
  rw [Queue.unsent, h, List.append_cons, hnext, List.drop_left' (by simp)]
  exact hk

theorem InTurn.oneOut (h : q.InTurn) (hc : q.Consistent) (hr : q.step ≠ .finished) : q.OneOut := by
  cases h with
  | finished done => exact absurd (hc.step_eq_finished_iff.2 done) hr
  | @out front m back messages done waits acked next =>
    have hback := hc.back_unsent messages next
    have hfront : ∀ n ∈ front, n ∈ q.taken := by
      intro n hn
      rw [taken, messages, next, List.append_cons, List.take_left' (by simp)]
      exact List.mem_append_left _ hn
    refine ⟨⟨m, by simp [messages, acked], ?_⟩, ?_, ?_, by rw [hc.sent, next, acked]⟩
    · have hnone : front.filter (fun n => decide (n.state = .waitingForAck)) = [] := by
        refine List.filter_eq_nil_iff.2 fun n hn hw => ?_
        have := done n hn
        rw [not_isDone_of_waiting (of_decide_eq_true hw)] at this
        cases this
      have hnone' : back.filter (fun n => decide (n.state = .waitingForAck)) = [] := by
        refine List.filter_eq_nil_iff.2 fun n hn => ?_
        simp [hback n hn]
      rw [waiting, messages, List.filter_append, hnone, List.nil_append,
        List.filter_cons_of_pos (by simp [waits]), hnone']
    · intro n hn
      rw [messages, acked, List.take_left] at hn
      have hdone := done n hn
      rcases hc.taken n (hfront n hn) with hs | hs
      · rw [not_isDone_of_waiting hs] at hdone
        cases hdone
      · exact hs
    · intro n hn
      rw [messages, acked, List.append_cons, List.drop_left' (by simp)] at hn
      exact hback n hn

end Queue

namespace Transfer

/-- A transfer of the stop-and-wait discipline with its queue in order. -/
structure StopsAndWaits (t : Transfer) : Prop where
  consistent : t.queue.Consistent
  discipline : t.discipline = .stopAndWait
  inTurn : t.queue.InTurn

variable {c : Context} {t u : Transfer}

/-- When everything sent is done, using the room there is puts one message in flight. -/
theorem StopsAndWaits.refilled {front back : List Message} (hc : t.queue.Consistent)
    (hd : t.discipline = .stopAndWait) (h : t.queue.messages = front ++ back)
    (hdone : ∀ n ∈ front, n.state.isDone = true) (hacked : t.queue.acked = front.length)
    (hnext : t.queue.next = front.length) (c : Context) : (t.refilled c).StopsAndWaits where
  consistent := hc.sentNext c _
  discipline := hd
  inTurn := by
    have hroom : t.room = 1 := by rw [room, hd]
    rw [Transfer.refilled, hroom]
    exact .sentNext h hdone hacked hnext c

theorem StopsAndWaits.started {data : Bytes} {s : Settings} (ht : ofData data s = .ok t)
    (hd : s.discipline = .stopAndWait) (c : Context) : (t.started c).StopsAndWaits := by
  have hcons := consistent_of_ofData ht
  obtain ⟨ms, -, rfl⟩ := ofData_eq_ok ht
  have hstart : (⟨⟨data, ms, 0, 0, 0⟩, s.discipline, s.budget⟩ : Transfer).started c =
      (⟨⟨data, ms, 0, 0, 0⟩, s.discipline, s.budget⟩ : Transfer).refilled c := by
    simp only [Transfer.started, hd]
  have hunsent : ms = [] ++ ms := rfl
  rw [hstart]
  exact .refilled hcons hd hunsent (List.forall_mem_nil _) rfl rfl c

theorem Move.stopsAndWaits {i : Nat} {acts : List Action} (h : Move c t i acts u)
    (ht : t.StopsAndWaits) : u.StopsAndWaits := by
  have hcurrent : ∀ {n}, t.queue.messages[i]? = some n → n.state = .waitingForAck →
      ∃ front back, t.queue.messages = front ++ n :: back ∧ i = front.length ∧
        (∀ k ∈ front, k.state.isDone = true) ∧ t.queue.acked = front.length ∧
        t.queue.next = front.length + 1 := by
    intro n hn hw
    cases ht.inTurn with
    | finished done =>
      have := done n (List.mem_of_getElem? hn)
      rw [Queue.not_isDone_of_waiting hw] at this
      cases this
    | @out front m back messages done waits acked next =>
      obtain ⟨hi, rfl⟩ := Queue.eq_of_waiting messages done
        (ht.consistent.back_unsent messages next) hn hw
      exact ⟨front, back, messages, hi, done, acked, next⟩
  cases h with
  | @settled m failure _ hm hs _ =>
    obtain ⟨front, back, hq, rfl, hdone, hacked, hnext⟩ := hcurrent hm hs
    have hsettled : (t.settle front.length m failure).queue.messages =
        (front ++ [m.settled failure]) ++ back := by
      simp [settle, Queue.settle, hq]
    have hcons : (t.settle front.length m failure).queue.Consistent :=
      ht.consistent.settle hm hs failure
    refine .refilled hcons ht.discipline hsettled ?_ ?_ ?_ c
    · intro n hn
      rcases List.mem_append.1 hn with hn | hn
      · exact hdone n hn
      · rw [List.mem_singleton.1 hn]
        exact m.settled_isDone failure
    · simp [settle, Queue.settle, hacked]
    · simp [settle, Queue.settle, hnext]
  | @sentAgain m _ hm hs _ _ =>
    obtain ⟨front, back, hq, rfl, hdone, hacked, hnext⟩ := hcurrent hm hs
    have hput : (t.queue.put front.length (m.again.outAt c)).messages =
        front ++ m.again.outAt c :: back := by
      simp [Queue.put, hq]
    exact ⟨ht.consistent.put hm hs c, ht.discipline, .out hput hdone rfl hacked hnext⟩

/-- **One message at a time.** Under the stop-and-wait discipline, after the start
and after every input, whatever the clock says: a transfer that is still running
has exactly one message in flight, it is the first one that is not done, those
before it are done and those behind it have not been sent. No input meets a fault
while the clock can show the deadlines. -/
theorem history_oneOut {data : Bytes} {s : Settings} {t : Transfer} {now : Nat}
    {inputs : List Input} (ht : ofData data s = .ok t) (hd : s.discipline = .stopAndWait) :
    (∀ p, (t.history s now inputs).result = .ok p → p.2 = .running → p.1.queue.OneOut) ∧
      (Context.Fits ⟨s, now⟩ → (∀ i ∈ inputs, Context.Fits ⟨s, i.now⟩) →
        ∃ p, (t.history s now inputs).result = .ok p) := by
  have hstart := StopsAndWaits.started ht hd ⟨s, now⟩
  refine ⟨fun p hp hrun => ?_, fun hnow hin => ?_⟩
  · obtain ⟨hp, hstep⟩ := history_keeps StopsAndWaits.consistent
      (fun _ hmove => hmove.stopsAndWaits) (consistent_of_ofData ht).sliced hstart hp
    refine hp.inTurn.oneOut hp.consistent ?_
    rw [← hstep, hrun]
    exact Step.noConfusion
  · obtain ⟨acts, p, hp, -⟩ := history_yields StopsAndWaits.consistent
      (fun _ hmove => hmove.stopsAndWaits) hnow hin (consistent_of_ofData ht).sliced hstart
    exact ⟨p, by rw [hp]⟩

/-- The first message was sent twice and given up, and the second one is out. -/
theorem history_oneOut_pair :
    let s := { pairSettings with discipline := .stopAndWait }
    let t : Transfer := ⟨pairTransfer.queue, .stopAndWait, 10⟩
    let inputs := [.tick 100, .tick 200]
    ofData pairData s = .ok t ∧ s.discipline = .stopAndWait ∧ Context.Fits ⟨s, 0⟩ ∧
      (∀ i ∈ inputs, Context.Fits ⟨s, i.now⟩) ∧
      ∃ p, (t.history s 0 inputs).result = .ok p ∧ p.2 = .running ∧ p.1.queue.OneOut ∧
        p.1.queue.acked = 1 := by
  intro s t inputs
  have ht : ofData pairData s = .ok t := ofData_pairData s
  have hnow : Context.Fits ⟨s, 0⟩ := by decide
  have hin : ∀ i ∈ inputs, Context.Fits ⟨s, i.now⟩ := by decide
  obtain ⟨hone, hyields⟩ := @history_oneOut pairData s t 0 inputs ht rfl
  obtain ⟨p, hp⟩ := hyields hnow hin
  have hend : (t.history s 0 inputs).result.map (fun p => (p.2, p.1.queue.acked)) =
      .ok (.running, 1) := rfl
  rw [hp] at hend
  obtain ⟨hrun, hacked⟩ := Prod.mk.inj (Except.ok.inj hend)
  exact ⟨ht, rfl, hnow, hin, p, hp, hrun, hone p hp hrun, hacked⟩

end Transfer

end GnssAiding
