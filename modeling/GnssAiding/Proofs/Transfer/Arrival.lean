/-
The order in which acknowledgements arrive.

An acknowledgement is matched by what it echoes, against whatever is in flight
when it comes. Where no two messages look alike to it (`Queue.ToldApart`), it
finds the message it was meant for if that is in flight, and is for nothing else
(`verdict?_of_acknowledges`). So each answer settles its own message and lets the
next ones out, which go out in the order of the blob whatever was answered
(`Answered`): what becomes of a message is its own verdict, and what is written
is the blob (`history_anyOrder`).
-/
import GnssAiding.Proofs.Transfer.Cargo
import Mathlib.Data.List.Perm.Subperm

namespace GnssAiding

open Turn

/-! ## Verdicts -/

/-- What the receiver has to say of a message. -/
inductive Verdict
  | accepted
  | refused (info : UInt8)
deriving DecidableEq, Repr

namespace Verdict

/-- The state that the message ends in. -/
def state : Verdict → Progress
  | accepted => .received
  | refused _ => .failed

/-- The reason that the message ends with. -/
def failure : Verdict → Option FailureReason
  | accepted => none
  | refused info => some (.ofInfoCode info)

end Verdict

/-- The frame is an assistance acknowledgement that says `v` of the message. -/
structure Frame.Acknowledges (f : Frame) (m : Message) (v : Verdict) : Prop where
  kind : f.kind? = some .mgaAck
  length : 8 ≤ f.payload.length
  id : f.payload.getD 3 0 = m.frame.id
  head : (f.payload.drop 4).take 4 = m.head.bytes
  type : f.payload.getD 0 0 = 1 ↔ v = .accepted
  info : ∀ code, v = .refused code → f.payload.getD 2 0 = code

namespace Message

/-- An acknowledgement that says `v` of the message. -/
def answer (v : Verdict) (m : Message) : Frame :=
  let front : Bytes :=
    match v with
    | .accepted => [1, 0, 0, m.frame.id]
    | .refused info => [0, 0, info, m.frame.id]
  .sealed MessageClass.mga MgaId.ack (front ++ m.head.bytes)
    (by cases v <;> simp [front, Head.bytes])

theorem answer_acknowledges (v : Verdict) {m n : Message} (h : n.frame = m.frame) :
    (m.answer v).Acknowledges n v := by
  have hid : m.frame.id = n.frame.id := congrArg Frame.id h.symm
  have hhead : m.head.bytes = n.head.bytes :=
    congrArg (fun f : Frame => (Head.ofPayload f.payload).bytes) h.symm
  cases v with
  | accepted => exact ⟨rfl, Nat.le_refl 8, hid, hhead, by simp [answer, Frame.sealed], by simp⟩
  | refused info =>
    refine ⟨rfl, Nat.le_refl 8, hid, hhead, by simp [answer, Frame.sealed], fun code hcode => ?_⟩
    cases hcode
    rfl

/-- What an acknowledgement echoes of the message. -/
def echo (m : Message) : UInt8 × Head := (m.frame.id, m.head)

theorem settled_of_verdict {m : Message} (v : Verdict) (h : m.failure = none) :
    (m.settled v.failure).state = v.state ∧ (m.settled v.failure).failure = v.failure := by
  cases v with
  | accepted => exact ⟨rfl, h⟩
  | refused info => exact ⟨rfl, rfl⟩

theorem matchesAck_iff {m n : Message} :
    n.matchesAck m.frame.id m.head.bytes = true ↔
      n.state = .waitingForAck ∧ n.frame.cls = MessageClass.mga ∧ n.echo = m.echo := by
  have hhead : Head.ofPayload m.head.bytes = m.head := rfl
  have hlength : m.head.bytes.length = 4 := rfl
  simp [matchesAck, echo, hhead, hlength, and_assoc]

end Message

/-- No two messages look alike to an acknowledgement, and there is one for each. -/
structure Queue.ToldApart (q : Queue) : Prop where
  cls : ∀ m ∈ q.messages, m.frame.cls = MessageClass.mga
  distinct : (q.messages.map Message.echo).Nodup

/-- Only the cargo matters. -/
theorem Queue.ToldApart.of_cargo {q r : Queue} (h : q.ToldApart) (hr : r.cargo = q.cargo) :
    r.ToldApart := by
  have hcls : ∀ q : Queue, (∀ m ∈ q.messages, m.frame.cls = MessageClass.mga) ↔
      ∀ l ∈ q.cargo, l.frame.cls = MessageClass.mga := by
    intro q
    simp [cargo, Message.located]
  have hecho : ∀ q : Queue, q.messages.map Message.echo =
      q.cargo.map fun l => (l.frame.id, Head.ofPayload l.frame.payload) := by
    intro q
    simp [cargo, Message.located, Message.echo, Message.head]
  refine ⟨(hcls r).2 ?_, ?_⟩
  · rw [hr]
    exact (hcls q).1 h.cls
  · rw [hecho, hr, ← hecho]
    exact h.distinct

theorem Queue.ToldApart.index_eq {q : Queue} (h : q.ToldApart) {i j : Nat} {m n : Message}
    (hm : q.messages[i]? = some m) (hn : q.messages[j]? = some n) (he : m.echo = n.echo) :
    i = j := by
  refine (List.getElem?_inj ?_ h.distinct).1 ?_
  · rw [List.length_map]
    exact (List.getElem?_eq_some_iff.1 hm).1
  · rw [List.getElem?_map, List.getElem?_map, hm, hn, Option.map_some, Option.map_some, he]

namespace Transfer

/-- An acknowledgement is about its message if that is in flight, and otherwise
about nothing. -/
theorem verdict?_of_acknowledges {q : Queue} (hq : q.ToldApart) {i : Nat} {m : Message}
    (hm : q.messages[i]? = some m) {f : Frame} {v : Verdict} (h : f.Acknowledges m v) :
    verdict? q f = if m.state = .waitingForAck then some (i, v.failure) else none := by
  have hreason : (if f.payload.getD 0 0 = 1 then none
      else some (.ofInfoCode (f.payload.getD 2 0))) = v.failure := by
    cases v with
    | accepted => exact if_pos (h.type.2 rfl)
    | refused code =>
      have hnot : ¬ f.payload.getD 0 0 = 1 := fun hone => Verdict.noConfusion (h.type.1 hone)
      rw [if_neg hnot, h.info code rfl]
      rfl
  have hsame : ∀ {j n}, q.messages[j]? = some n →
      n.matchesAck m.frame.id m.head.bytes = true → j = i ∧ n.state = .waitingForAck := by
    intro j n hn hmatch
    obtain ⟨hs, -, hecho⟩ := Message.matchesAck_iff.1 hmatch
    exact ⟨hq.index_eq hn hm hecho, hs⟩
  simp only [verdict?, mgaVerdict?, h.kind, if_pos h.length, h.id, h.head, hreason]
  split
  · next hs =>
    have hfind : (q.messages.findIdx? fun n => n.matchesAck m.frame.id m.head.bytes) = some i := by
      obtain ⟨hi, rfl⟩ := List.getElem?_eq_some_iff.1 hm
      refine List.findIdx?_eq_some_iff_getElem.2 ⟨hi, ?_, fun j hj hmatch => ?_⟩
      · exact Message.matchesAck_iff.2 ⟨hs, hq.cls _ (List.getElem_mem hi), rfl⟩
      · have hsome := List.getElem?_eq_getElem (Nat.lt_trans hj hi)
        exact absurd (hsame hsome hmatch).1 (Nat.ne_of_lt hj)
    rw [hfind]
    rfl
  · next hs =>
    have hfind :
        (q.messages.findIdx? fun n => n.matchesAck m.frame.id m.head.bytes) = none := by
      refine List.findIdx?_eq_none_iff.2 fun n hn => Bool.eq_false_iff.2 fun hmatch => ?_
      obtain ⟨j, hj⟩ := List.getElem?_of_mem hn
      obtain ⟨rfl, hw⟩ := hsame hj hmatch
      rw [hm] at hj
      cases hj
      exact hs hw
    rw [hfind]
    rfl

/-! ## What arrives -/

/-- An input that comes while no timeout expires: the index of the message it
answers, if it is the answer to one in flight. -/
inductive Arrival (verdict : Nat → Verdict) (t : Transfer) : Input → Option Nat → Prop
  | answer {now i : Nat} {f m} (hm : t.queue.messages[i]? = some m)
    (hs : m.state = .waitingForAck) (ha : f.Acknowledges m (verdict i)) :
    Arrival verdict t (.frame now f) (some i)
  /-- The message is done or not sent yet; what is said of it may be anything. -/
  | stray {now i : Nat} {f m v} (hm : t.queue.messages[i]? = some m)
    (hs : m.state ≠ .waitingForAck) (ha : f.Acknowledges m v) :
    Arrival verdict t (.frame now f) none
  | early {now} (h : t.queue.overdue now = []) : Arrival verdict t (.tick now) none

/-- Inputs, each of which is an arrival when it comes, and the messages that they
answer in their order. -/
inductive Arrivals (s : Settings) (verdict : Nat → Verdict) :
    Transfer × Step → List Input → List Nat → Prop
  | nil (p) : Arrivals s verdict p [] []
  | cons {p i is k order} (h : Arrival verdict p.1 i k)
    (rest : ∀ q, (take s p i).result = .ok q → Arrivals s verdict q is order) :
    Arrivals s verdict p (i :: is) (k.toList ++ order)

/-! ## Using the room -/

variable {c : Context} {t : Transfer}

theorem started_of_needsAcks (h : t.discipline.needsAcks = true) (c : Context) :
    t.started c = t.refilled c := by
  unfold started
  split
  · next hd => simp [hd, Discipline.needsAcks] at h
  · rfl

theorem opening_of_needsAcks (h : t.discipline.needsAcks = true) (c : Context) :
    t.opening c = .report (.start t.queue.messages.length) ::
      .write c.settings.ackSetup.frame.bytes :: t.refill := by
  unfold opening
  split
  · next hd => simp [hd, Discipline.needsAcks] at h
  · rfl

theorem written_transmissions (ms : List Message) :
    (ms.flatMap Message.transmission).filterMap Action.written? =
      ms.map fun m => m.frame.bytes := by
  induction ms with
  | nil => rfl
  | cons m ms ih =>
    rw [List.flatMap_cons, List.filterMap_append, ih]
    rfl

/-- What is written to use the room is the part of the cargo that comes next. -/
theorem written_refill (c : Context) (t : Transfer) :
    (t.queue.cargo.take t.queue.next).map (fun l => l.frame.bytes) ++
        t.refill.filterMap Action.written? =
      (t.queue.cargo.take (t.refilled c).queue.next).map fun l => l.frame.bytes := by
  have hnext : (t.refilled c).queue.next =
      t.queue.next + (t.queue.unsent.take t.room).length := rfl
  have hcargo : t.queue.cargo.drop t.queue.next =
      (t.queue.unsent.take t.room).map Message.located ++
        (t.queue.unsent.drop t.room).map Message.located := by
    rw [← List.map_append, List.take_append_drop, Queue.cargo, Queue.unsent, List.map_drop]
  rw [hnext, List.take_add, hcargo, List.take_left' (List.length_map _), List.map_append, refill,
    written_transmissions, List.map_map]
  rfl

/-! ## Answers in any order -/

/-- Of the transfer `t₀` the messages in `order` have been answered, one after the
other, and `written` has gone to the receiver. -/
structure Answered (s : Settings) (verdict : Nat → Verdict) (t₀ : Transfer) (order : List Nat)
    (written : List Bytes) (p : Transfer × Step) : Prop where
  needsAcks : p.1.discipline.needsAcks = true
  consistent : p.1.queue.Consistent
  cargo : p.1.queue.cargo = t₀.queue.cargo
  step : p.2 = p.1.queue.step
  nodup : order.Nodup
  settled : ∀ i ∈ order, ∃ m, p.1.queue.messages[i]? = some m ∧
    m.state = (verdict i).state ∧ m.failure = (verdict i).failure
  acked : p.1.queue.acked = order.length
  written_eq : written = s.ackSetup.frame.bytes ::
    (t₀.queue.cargo.take p.1.queue.next).map fun l => l.frame.bytes

namespace Answered

variable {s : Settings} {verdict : Nat → Verdict} {t₀ : Transfer} {order : List Nat}
  {written : List Bytes} {p : Transfer × Step}

/-- A transfer that has just begun has no answers. -/
theorem start {t : Transfer} (hn : t.discipline.needsAcks = true) (hc : t.queue.Consistent)
    (hnext : t.queue.next = 0) (hacked : t.queue.acked = 0) (c : Context) :
    Answered c.settings verdict t [] ((t.opening c).filterMap Action.written?)
      (t.started c, (t.started c).queue.step) where
  needsAcks := by rwa [started_of_needsAcks hn]
  consistent := consistent_started hc
  cargo := cargo_started c t
  step := rfl
  nodup := .nil
  settled := by simp
  acked := by rwa [started_of_needsAcks hn]
  written_eq := by
    rw [started_of_needsAcks hn, opening_of_needsAcks hn, ← written_refill, hnext]
    rfl

variable (h : Answered s verdict t₀ order written p)

include h

theorem length_messages : p.1.queue.messages.length = t₀.queue.messages.length := by
  simpa [Queue.cargo] using congrArg List.length h.cargo

/-- A message that was answered is done. -/
theorem isDone {i : Nat} (hi : i ∈ order) {m : Message} (hm : p.1.queue.messages[i]? = some m) :
    m.state.isDone = true := by
  obtain ⟨n, hn, hs, -⟩ := h.settled i hi
  rw [hm] at hn
  cases hn
  rw [hs]
  cases verdict i <;> rfl

theorem lt_length {i : Nat} (hi : i ∈ order) : i < t₀.queue.messages.length := by
  obtain ⟨m, hm, -⟩ := h.settled i hi
  rw [← h.length_messages]
  exact (List.getElem?_eq_some_iff.1 hm).1

/-- The transfer is finished when every message has been answered. -/
theorem finished_iff :
    p.2 = .finished ↔ order.Perm (List.range t₀.queue.messages.length) := by
  have hcount : p.2 = .finished ↔ order.length = t₀.queue.messages.length := by
    rw [h.step, Queue.step, h.acked, h.length_messages]
    split <;> simp_all
  rw [hcount]
  constructor
  · intro hlength
    have hsub : order ⊆ List.range t₀.queue.messages.length :=
      fun i hi => List.mem_range.2 (h.lt_length hi)
    refine (List.subperm_of_subset h.nodup hsub).perm_of_length_le ?_
    exact Nat.le_of_eq (List.length_range.trans hlength.symm)
  · intro hperm
    rw [hperm.length_eq, List.length_range]

/-- When the transfer is finished, all of the blob has been written. -/
theorem written_of_finished (hf : p.2 = .finished) :
    written = s.ackSetup.frame.bytes :: t₀.queue.messages.map fun m => m.frame.bytes := by
  have hnext := h.consistent.next_of_finished (h.step.symm.trans hf)
  rw [h.written_eq, List.take_of_length_le, Queue.cargo, List.map_map]
  · rfl
  · rw [Queue.cargo, List.length_map, ← h.length_messages]
    exact Nat.le_of_eq hnext.symm

/-- The answer to a message in flight settles it and uses the room. -/
theorem answer {i : Nat} {m : Message} (hm : p.1.queue.messages[i]? = some m)
    (hs : m.state = .waitingForAck) (c : Context) :
    let u := p.1.settle i m (verdict i).failure
    Answered s verdict t₀ (order ++ [i]) (written ++ u.refill.filterMap Action.written?)
      (u.refilled c, (u.refilled c).queue.step) := by
  intro u
  have hsettle : u.queue.Consistent := h.consistent.settle hm hs (verdict i).failure
  have hcargo : u.queue.cargo = t₀.queue.cargo :=
    (Queue.cargo_set hm rfl (m.located_settled _)).trans h.cargo
  -- What is done stays where it is while the room is used.
  have hstays : ∀ {j : Nat} {n : Message}, u.queue.messages[j]? = some n → n.state.isDone = true →
      (u.refilled c).queue.messages[j]? = some n := by
    intro j n hn hd
    refine hsettle.getElem?_sentNext c _ hn fun hw => ?_
    simp [hw, Progress.isDone] at hd
  have hne : ∀ j ∈ order, j ≠ i := by
    rintro j hj rfl
    have hd := h.isDone hj hm
    simp [hs, Progress.isDone] at hd
  refine ⟨h.needsAcks, hsettle.sentNext c _, (cargo_refilled c u).trans hcargo, rfl, ?_, ?_, ?_, ?_⟩
  · refine List.nodup_append.2 ⟨h.nodup, by simp, ?_⟩
    intro j hj k hk
    rw [List.mem_singleton.1 hk]
    exact hne j hj
  · intro j hj
    rcases List.mem_append.1 hj with hj | hj
    · obtain ⟨n, hn, hstate, hfailure⟩ := h.settled j hj
      have hset : u.queue.messages[j]? = some n :=
        (List.getElem?_set_ne (hne j hj).symm).trans hn
      exact ⟨n, hstays hset (h.isDone hj hn), hstate, hfailure⟩
    · obtain rfl := List.mem_singleton.1 hj
      have hset : u.queue.messages[j]? = some (m.settled (verdict j).failure) :=
        List.getElem?_set_self (List.getElem?_eq_some_iff.1 hm).1
      obtain ⟨hstate, hfailure⟩ :=
        Message.settled_of_verdict (verdict j) (h.consistent.failure_eq_none hm hs)
      exact ⟨_, hstays hset (m.settled_isDone _), hstate, hfailure⟩
  · have hacked : (u.refilled c).queue.acked = p.1.queue.acked + 1 := rfl
    rw [hacked, h.acked, List.length_append, List.length_singleton]
  · have hnext : u.queue.next = p.1.queue.next := rfl
    rw [h.written_eq, List.cons_append, ← hnext, ← hcargo, written_refill c u]

/-- An arrival is taken without a fault, and what it answers is answered. -/
theorem take_arrival (hq : t₀.queue.ToldApart) {i : Input} (hi : Context.Fits ⟨s, i.now⟩)
    {k : Option Nat} (ha : Arrival verdict p.1 i k) :
    ∃ acts q, take s p i = ⟨acts, .ok q⟩ ∧
      Answered s verdict t₀ (order ++ k.toList) (written ++ acts.filterMap Action.written?) q := by
  have hapart := hq.of_cargo h.cargo
  have hstill : Answered s verdict t₀ (order ++ []) (written ++ []) p := by
    rwa [List.append_nil, List.append_nil]
  cases ha with
  | @answer now i f m hm hs ha =>
    have hverdict : verdict? p.1.queue f = some (i, (verdict i).failure) := by
      rw [verdict?_of_acknowledges hapart hm ha, if_pos hs]
    have hsome : ∃ turn, p.1.receive ⟨s, now⟩ f = some turn := by
      simp [receive_eq, h.needsAcks, hverdict]
    obtain ⟨turn, hturn⟩ := hsome
    obtain ⟨j, acts, u, hcomes, hanswer⟩ := receive_comes h.consistent hturn
    cases hanswer with
    | settled _ hv hm' _ =>
      cases hverdict.symm.trans hv
      cases hm.symm.trans hm'
      refine ⟨.report (m.conclusion (verdict i).failure) :: _, _, ?_, h.answer hm hs ⟨s, now⟩⟩
      rw [take, hturn, Option.getD_some, hcomes.eq hi]
  | @stray now i f m v hm hs ha =>
    have hverdict : verdict? p.1.queue f = none := by
      rw [verdict?_of_acknowledges hapart hm ha, if_neg hs]
    refine ⟨[], p, ?_, hstill⟩
    simp [take, receive_eq, h.needsAcks, hverdict, pure_def]
  | @early now hnone =>
    refine ⟨[], p, ?_, hstill⟩
    simp only [take, checkTimeouts, hnone, sweep, ← h.step, pure_def]

end Answered

/-- Arrivals are taken without a fault, one after the other. -/
theorem Arrivals.answered {s : Settings} {verdict : Nat → Verdict} {t₀ : Transfer}
    (hq : t₀.queue.ToldApart) {p : Transfer × Step} {inputs : List Input} {more : List Nat}
    (h : Arrivals s verdict p inputs more) {order : List Nat} {written : List Bytes}
    (hp : Answered s verdict t₀ order written p)
    (hin : ∀ i ∈ inputs, Context.Fits ⟨s, i.now⟩) :
    ∃ acts q, inputs.foldlM (take s) p = ⟨acts, .ok q⟩ ∧
      Answered s verdict t₀ (order ++ more) (written ++ acts.filterMap Action.written?) q := by
  induction h generalizing order written with
  | nil p =>
    refine ⟨[], p, rfl, ?_⟩
    rwa [List.filterMap_nil, List.append_nil, List.append_nil]
  | @cons p i is k more ha _ ih =>
    obtain ⟨acts, q, htake, hq'⟩ := hp.take_arrival hq (hin i (by simp)) ha
    obtain ⟨rest, r, hrest, hr⟩ := ih q (by rw [htake]) hq' fun j hj => hin j (by simp [hj])
    refine ⟨acts ++ rest, r, ?_, ?_⟩
    · rw [List.foldlM_cons, htake, bind_ok, hrest]
    · rwa [List.filterMap_append, ← List.append_assoc, ← List.append_assoc]

/-- **The order of acknowledgements does not matter.** Take a blob whose messages are
assistance messages that no acknowledgement confuses, and a verdict on each of them. Let the
acknowledgements arrive in any order, each while its message is in flight, with no timeout
between them, but possibly acknowledgements of messages that are done or not sent yet. Then
no input meets a fault, no message is answered twice, and the transfer is finished just when
every message is answered. What has been answered is in the state of its own verdict, with its
reason. What is written is the setup and then the messages in the order of the blob as far as
they have gone out, and all of them when the transfer is finished. An acknowledgement of a
message that is not in flight is ignored. -/
theorem history_anyOrder {data : Bytes} {s : Settings} {t : Transfer} {now : Nat}
    {inputs : List Input} {verdict : Nat → Verdict} {order : List Nat}
    (ht : ofData data s = .ok t) (hn : s.discipline.needsAcks = true) (hq : t.queue.ToldApart)
    (hnow : Context.Fits ⟨s, now⟩) (hin : ∀ i ∈ inputs, Context.Fits ⟨s, i.now⟩)
    (harrive : ∀ p, (t.start ⟨s, now⟩).result = .ok p → Arrivals s verdict p inputs order) :
    ∃ acts p, t.history s now inputs = ⟨acts, .ok p⟩ ∧
      order.Nodup ∧ (p.2 = .finished ↔ order.Perm (List.range t.queue.messages.length)) ∧
      (∀ i ∈ order, ∃ m, p.1.queue.messages[i]? = some m ∧
        m.state = (verdict i).state ∧ m.failure = (verdict i).failure) ∧
      acts.filterMap Action.written? = s.ackSetup.frame.bytes ::
        (t.queue.messages.take p.1.queue.next).map (fun m => m.frame.bytes) ∧
      (p.2 = .finished → acts.filterMap Action.written? =
        s.ackSetup.frame.bytes :: t.queue.messages.map fun m => m.frame.bytes) ∧
      ∀ (i : Nat) (m : Message) (v : Verdict) (f : Frame) (later : Nat),
        p.1.queue.messages[i]? = some m → m.state ≠ .waitingForAck → f.Acknowledges m v →
        p.1.receive ⟨s, later⟩ f = none := by
  have hstart := start_eq hnow (consistent_of_ofData ht).sliced
  have hbegun : Answered s verdict t [] ((t.opening ⟨s, now⟩).filterMap Action.written?)
      (t.started ⟨s, now⟩, (t.started ⟨s, now⟩).queue.step) := by
    have hcons := consistent_of_ofData ht
    obtain ⟨ms, -, rfl⟩ := ofData_eq_ok ht
    exact Answered.start hn hcons rfl rfl ⟨s, now⟩
  obtain ⟨acts, p, hrun, h⟩ := (harrive _ (by rw [hstart])).answered hq hbegun hin
  rw [List.nil_append, ← List.filterMap_append] at h
  refine ⟨t.opening ⟨s, now⟩ ++ acts, p, ?_, h.nodup, h.finished_iff, h.settled, ?_,
    h.written_of_finished, ?_⟩
  · rw [history, hstart, bind_ok, hrun]
  · rw [h.written_eq, Queue.cargo, ← List.map_take, List.map_map]
    rfl
  · intro i m v f later hm hs hf
    have hverdict : verdict? p.1.queue f = none := by
      rw [verdict?_of_acknowledges (hq.of_cargo h.cargo) hm hf, if_neg hs]
    simp [receive_eq, hverdict]

/-- A budget that both messages fit. -/
def wideSettings : Settings := { pairSettings with budget := 100 }

def wideTransfer : Transfer := ⟨pairTransfer.queue, .windowed, 100⟩

/-- The second message is refused, told so again, and then the first one is accepted. -/
def crossedVerdict : Nat → Verdict
  | 0 => .accepted
  | _ => .refused 2

def crossedInputs : List Input :=
  let first := Message.ofLocated 0 ⟨0, almanac 1⟩
  let second := Message.ofLocated 1 ⟨16, almanac 2⟩
  [.frame 10 (second.answer (.refused 2)), .frame 20 (second.answer .accepted), .tick 30,
    .frame 40 (first.answer .accepted)]

theorem crossed_arrivals {p : Transfer × Step}
    (hp : (wideTransfer.start ⟨wideSettings, 0⟩).result = .ok p) :
    Arrivals wideSettings crossedVerdict p crossedInputs [1, 0] := by
  let first := (Message.ofLocated 0 ⟨0, almanac 1⟩).outAt ⟨wideSettings, 0⟩
  let second := (Message.ofLocated 1 ⟨16, almanac 2⟩).outAt ⟨wideSettings, 0⟩
  cases hp
  refine .cons (.answer (i := 1) (m := second) rfl rfl (Message.answer_acknowledges _ rfl))
    fun q hq => ?_
  cases hq
  refine .cons (.stray (i := 1) (m := second.settled (some (.ofInfoCode 2))) rfl (by decide)
    (Message.answer_acknowledges .accepted rfl)) fun q hq => ?_
  cases hq
  refine .cons (.early rfl) fun q hq => ?_
  cases hq
  exact .cons (.answer (i := 0) (m := first) rfl rfl (Message.answer_acknowledges _ rfl))
    fun q _ => .nil q

theorem history_anyOrder_crossed :
    ofData pairData wideSettings = .ok wideTransfer ∧ wideTransfer.queue.ToldApart ∧
      (∀ p, (wideTransfer.start ⟨wideSettings, 0⟩).result = .ok p →
        Arrivals wideSettings crossedVerdict p crossedInputs [1, 0]) ∧
      ∃ acts p, wideTransfer.history wideSettings 0 crossedInputs = ⟨acts, .ok p⟩ ∧
        p.2 = .finished ∧
        acts.filterMap Action.written? =
          [AckSetup.valset.frame.bytes, (almanac 1).bytes, (almanac 2).bytes] := by
  have ht : ofData pairData wideSettings = .ok wideTransfer := ofData_pairData wideSettings
  have hq : wideTransfer.queue.ToldApart := ⟨by decide, by decide⟩
  obtain ⟨acts, p, hp, -, hfinished, -, -, hwritten, -⟩ :=
    history_anyOrder ht rfl hq (by decide) (by decide) @crossed_arrivals
  have hend : p.2 = .finished := hfinished.2 (by decide)
  exact ⟨ht, hq, @crossed_arrivals, acts, p, hp, hend, hwritten hend⟩

end Transfer

end GnssAiding
