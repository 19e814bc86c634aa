/-
What the operations of a queue do, written without turns: unless a deadline
leaves the range of the clock, each is the plain function of the same work
here, and its actions are known (`transmit_comes`, `sendNext_comes`,
`broadcast_comes`, `resolve_eq`, `retry_comes_again`, `retry_eq_giveUp`). What
is sent has to stand in the blob of the queue where it says (`Queue.Sliced`).
-/
import GnssAiding.Transfer.Queue
import GnssAiding.Proofs.Transfer.Turn

namespace GnssAiding

open Turn

/-! ## One message -/

/-- The frame is what stands at its offset in the data. -/
def Located.StandsIn (l : Located) (data : Bytes) : Prop :=
  Checked.slice data l.offset (l.offset + l.frame.length) = .ok l.frame.bytes

namespace Message

/-- The frame of the message, and where it stood in the blob. -/
def located (m : Message) : Located := ⟨m.offset, m.frame⟩

/-- The message when it has just been sent. -/
def outAt (c : Context) (m : Message) : Message :=
  { m with state := .waitingForAck, deadline := c.now + c.settings.timeout }

/-- The message when the receiver has settled it, or the sender given it up. -/
def settled (failure : Option FailureReason) (m : Message) : Message :=
  match failure with
  | none => { m with state := .received }
  | some reason => { m with state := .failed, failure := some reason }

/-- The message about to be sent once more. -/
def again (m : Message) : Message :=
  { m with state := .waitingForResend, retries := m.retries + 1 }

/-- The message sent without waiting for anything. -/
def takenForReceived (c : Context) (m : Message) : Message := { m.outAt c with state := .received }

/-- What sending the message does to the host. -/
def transmission (m : Message) : List Action :=
  [.write m.frame.bytes, .report (.messageSent m.report)]

/-- What is reported when the message is settled. -/
def conclusion (failure : Option FailureReason) (m : Message) : Event :=
  if failure.isNone then .messageComplete (m.settled failure).report
  else .messageFailed (m.settled failure).report

@[simp] theorem outAt_state (c : Context) (m : Message) : (m.outAt c).state = .waitingForAck := rfl
@[simp] theorem outAt_failure (c : Context) (m : Message) : (m.outAt c).failure = m.failure := rfl
@[simp] theorem outAt_length (c : Context) (m : Message) : (m.outAt c).length = m.length := rfl
@[simp] theorem again_failure (m : Message) : m.again.failure = m.failure := rfl
@[simp] theorem again_length (m : Message) : m.again.length = m.length := rfl

theorem settled_isDone (failure : Option FailureReason) (m : Message) :
    (m.settled failure).state.isDone = true := by
  cases failure <;> rfl

@[simp] theorem located_outAt (c : Context) (m : Message) : (m.outAt c).located = m.located := rfl

@[simp] theorem located_takenForReceived (c : Context) (m : Message) :
    (m.takenForReceived c).located = m.located := rfl

@[simp] theorem located_settled (failure : Option FailureReason) (m : Message) :
    (m.settled failure).located = m.located := by
  cases failure <;> rfl

@[simp] theorem located_again (m : Message) : m.again.located = m.located := rfl

@[simp] theorem located_ofLocated (i : Nat) (l : Located) : (ofLocated i l).located = l := rfl

theorem transmit_comes (c : Context) {data : Bytes} {m : Message} (hm : m.located.StandsIn data) :
    (m.transmit c data).Comes c m.transmission (m.outAt c) := by
  have hbytes : m.bytesIn data = .ok m.frame.bytes := hm
  unfold transmit
  rw [hbytes]
  refine Comes.check (Comes.cons ((deadline_comes c).nil_bind ?_))
  exact (Comes.act (.report (.messageSent m.report))).result rfl

end Message

namespace Queue

/-- What the messages of a queue bring to the receiver. -/
def cargo (q : Queue) : List Located := q.messages.map Message.located

/-- Every message stands in the blob where it says it does. -/
def Sliced (q : Queue) : Prop := ∀ l ∈ q.cargo, l.StandsIn q.data

theorem Sliced.standsIn {q : Queue} (h : q.Sliced) {m : Message} (hm : m ∈ q.messages) :
    m.located.StandsIn q.data :=
  h m.located (List.mem_map_of_mem hm)

/-! ## Sending -/

/-- The queue with the next `n` messages sent. -/
def sentNext (c : Context) (n : Nat) (q : Queue) : Queue :=
  { q with
    messages := q.messages.take q.next ++ (q.unsent.take n).map (Message.outAt c) ++ q.unsent.drop n
    next := q.next + (q.unsent.take n).length
    sent := q.sent + (q.unsent.take n).countP fun m => decide (m.state = .waitingToSend) }

theorem sendNext_comes (c : Context) (n : Nat) {q : Queue} (hq : q.Sliced) :
    (q.sendNext c n).Comes c ((q.unsent.take n).flatMap Message.transmission)
      (q.sentNext c n) := by
  refine (mapM_comes fun m hm => Message.transmit_comes c (hq.standsIn ?_)).result rfl
  exact List.mem_of_mem_drop (List.mem_of_mem_take hm)

theorem sentNext_zero (c : Context) (q : Queue) : q.sentNext c 0 = q := by
  simp [sentNext, unsent]

/-- The pause before each message of a train but the first. -/
def pause (c : Context) : List Action :=
  if 0 < c.settings.pacing then [.wait c.settings.pacing] else []

/-- What sending a train of messages does to the host. -/
def trainActions (c : Context) : List Message → List Action
  | [] => []
  | m :: ms => m.transmission ++ ms.flatMap fun m => pause c ++ m.transmission

/-- The queue with every message sent and none awaited. -/
def sentAll (c : Context) (q : Queue) : Queue :=
  { q with
    messages := q.messages.take q.next ++ q.unsent.map (Message.takenForReceived c)
    next := q.next + q.unsent.length
    sent := q.sent + q.unsent.countP fun m => decide (m.state = .waitingToSend)
    acked := q.acked + q.unsent.length }

section Train

variable (c : Context) {data : Bytes} {m : Message}

theorem sendBlindly_comes (hm : m.located.StandsIn data) :
    (sendBlindly c data m).Comes c m.transmission (m.takenForReceived c) :=
  (Message.transmit_comes c hm).result rfl

theorem sendPaced_comes (hm : m.located.StandsIn data) :
    (sendPaced c data m).Comes c (pause c ++ m.transmission) (m.takenForReceived c) := by
  unfold sendPaced pause
  split
  · exact (Comes.act (.wait c.settings.pacing)).bind (sendBlindly_comes c hm)
  · exact sendBlindly_comes c hm

theorem sendTrain_comes {ms : List Message} (hms : ∀ m ∈ ms, m.located.StandsIn data) :
    (sendTrain c data ms).Comes c (trainActions c ms) (ms.map (Message.takenForReceived c)) := by
  cases ms with
  | nil => exact .pure _
  | cons m ms =>
    refine (sendBlindly_comes c (hms m (by simp))).bind ((mapM_comes fun n hn => ?_).result rfl)
    exact sendPaced_comes c (hms n (by simp [hn]))

theorem broadcast_comes {q : Queue} (hq : q.Sliced) :
    (q.broadcast c).Comes c (trainActions c q.unsent) (q.sentAll c) :=
  (sendTrain_comes c fun _ hm => hq.standsIn (List.mem_of_mem_drop hm)).result rfl

end Train

/-! ## Settling and sending again -/

/-- The queue with the message at `i` replaced and one more message done. -/
def settle (i : Nat) (m : Message) (q : Queue) : Queue :=
  { q with messages := q.messages.set i m, acked := q.acked + 1 }

/-- The queue with the message at `i` replaced. -/
def put (i : Nat) (m : Message) (q : Queue) : Queue :=
  { q with messages := q.messages.set i m }

variable {q : Queue} {i : Nat} {m : Message}

theorem resolve_eq (hm : q.messages[i]? = some m) (failure : Option FailureReason) :
    q.resolve i failure =
      ⟨[.report (m.conclusion failure)], .ok (q.settle i (m.settled failure))⟩ := by
  simp only [resolve, Checked.get_eq hm, check, report, act, bind_ok, pure_def]
  cases failure <;> rfl

theorem retry_comes_again {c : Context} (hq : q.Sliced) (hm : q.messages[i]? = some m)
    (hr : m.retries < c.settings.retries) :
    (q.retry c i).Comes c m.again.transmission (q.put i (m.again.outAt c), false) := by
  have hstands : m.located.StandsIn q.data := hq.standsIn (List.mem_of_getElem? hm)
  simp only [retry, Checked.get_eq hm, check, bind_ok, List.nil_append, if_pos hr]
  exact (Message.transmit_comes c hstands (m := m.again)).result rfl

theorem retry_eq_giveUp {c : Context} (hm : q.messages[i]? = some m)
    (hr : ¬ m.retries < c.settings.retries) :
    q.retry c i = ⟨[.report (m.conclusion (some .tooManyRetries))],
      .ok (q.settle i (m.settled (some .tooManyRetries)), true)⟩ := by
  simp only [retry, Checked.get_eq hm, check, bind_ok, List.nil_append, if_neg hr, resolve_eq hm,
    pure_def, List.append_nil]

/-! ## Overdue messages -/

theorem mem_overdue {now : Nat} :
    i ∈ q.overdue now ↔ ∃ m, q.messages[i]? = some m ∧ m.overdue now := by
  simp only [overdue, List.mem_filterMap, Prod.exists, List.mem_zipIdx_iff_getElem?]
  constructor
  · rintro ⟨m, j, hm, hj⟩
    split at hj
    · next ho =>
      cases hj
      exact ⟨m, hm, ho⟩
    · cases hj
  · rintro ⟨m, hm, ho⟩
    exact ⟨m, i, hm, if_pos ho⟩

/-- Picking second components leaves a part of all of them. -/
theorem filterMap_sublist {f : Message × Nat → Option Nat} (hf : ∀ p j, f p = some j → p.2 = j)
    (l : List (Message × Nat)) : (l.filterMap f).Sublist (l.map Prod.snd) := by
  induction l with
  | nil => exact .slnil
  | cons p l ih =>
    rw [List.map_cons]
    cases hp : f p with
    | none =>
      rw [List.filterMap_cons_none hp]
      exact ih.cons _
    | some j =>
      rw [List.filterMap_cons_some hp, ← hf p j hp]
      exact ih.cons_cons _

theorem nodup_overdue (now : Nat) (q : Queue) : (q.overdue now).Nodup := by
  refine (filterMap_sublist ?_ _).nodup ?_
  · intro p j hj
    dsimp only at hj
    split at hj
    · cases hj
      rfl
    · cases hj
  · rw [List.zipIdx_map_snd]
    exact List.nodup_range'

end Queue

end GnssAiding
