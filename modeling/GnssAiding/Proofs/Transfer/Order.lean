/-
The order in which messages go out.

A transfer keeps the record of `Dispatch`: whatever frames and ticks it takes, what
it adds is the next messages of its queue, one of those in flight again, or the word
that one of them is done. That those are the right messages is read off the queue:
what is reported as done is done there, and what was not sent is as it was listed
(`Dispatched`). Where acknowledgements do not matter, the start does it all
(`Moves.eq_of_unacknowledged`).
-/
import GnssAiding.Proofs.Transfer.Arrival
import GnssAiding.Proofs.Transfer.Course
import GnssAiding.Proofs.Transfer.Dispatch

namespace GnssAiding

open Turn

/-! ## The record and the queue -/

/-- The message as it was listed. -/
def Message.listed (m : Message) : Message := .ofLocated m.sequence m.located

namespace Message

theorem listed_outAt (c : Context) (m : Message) : (m.outAt c).listed = m.listed := rfl

theorem listed_takenForReceived (c : Context) (m : Message) :
    (m.takenForReceived c).listed = m.listed := rfl

theorem listed_settled (failure : Option FailureReason) (m : Message) :
    (m.settled failure).listed = m.listed := by
  cases failure <;> rfl

end Message

namespace Transfer

/-- The transfer `t₀` of a blob has become `t`, and `acts` is what it has done. -/
structure Dispatched (s : Settings) (t₀ : Transfer) (acts : List Action) (t : Transfer) : Prop where
  consistent : t.queue.Consistent
  listed : t.queue.messages.map Message.listed = t₀.queue.messages
  retries : ∀ m ∈ t.queue.unsent, m.retries = 0
  dispatch : Dispatch s t₀.queue acts t.queue.next
  done : ∀ i ∈ concluded acts, ∃ m, t.queue.messages[i]? = some m ∧ m.state.isDone = true

namespace Dispatched

variable {s : Settings} {t₀ t u : Transfer} {acts : List Action} {c : Context} {i : Nat}
  {n : Message} (fresh : t₀.queue.Fresh) (h : Dispatched s t₀ acts t)

include fresh

/-- A transfer that has done nothing but announce itself. -/
theorem announced (hc : t₀.queue.Consistent) (hnext : t₀.queue.next = 0) (total : Nat) :
    Dispatched s t₀ (announcement s total) t₀ where
  consistent := hc
  listed := by
    refine List.ext_getElem? fun i => ?_
    cases hm : t₀.queue.messages[i]? with
    | none => rw [List.getElem?_map, hm, Option.map_none]
    | some m =>
      obtain ⟨l, rfl⟩ := fresh i m hm
      rw [List.getElem?_map, hm]
      rfl
  retries := by
    intro m hm
    obtain ⟨i, hi⟩ := List.getElem?_of_mem (List.mem_of_mem_drop hm)
    obtain ⟨l, rfl⟩ := fresh i m hi
    rfl
  dispatch := hnext ▸ .announced s t₀.queue total
  done := by
    rw [concluded_announcement]
    simp

include h

/-- A message and its entry in the list. -/
theorem getElem?_listed (hn : t.queue.messages[i]? = some n) :
    t₀.queue.messages[i]? = some n.listed ∧ n.sequence = i := by
  have hlisted : t₀.queue.messages[i]? = some n.listed := by
    rw [← h.listed, List.getElem?_map, hn, Option.map_some]
  obtain ⟨l, hl⟩ := fresh i _ hlisted
  exact ⟨hlisted, congrArg Message.sequence hl⟩

/-- What goes out of a message, sent before or not, is named by its report. -/
theorem names (hn : t.queue.messages[i]? = some n) {m : Message} (hl : m.listed = n.listed)
    (hf : m.failure = none) : Names t₀.queue m.frame.bytes m.report := by
  obtain ⟨hlisted, hseq⟩ := h.getElem?_listed fresh hn
  have hm : m.sequence = i := (congrArg Message.sequence hl).trans hseq
  refine ⟨m.listed, ?_, ?_, rfl⟩
  · rw [hl, ← hlisted, ← hm]
    rfl
  · simp [Message.report, Message.listed, Message.ofLocated, Message.located, Message.head, hf]

theorem due : Due t₀.queue t.queue.next t.queue.unsent := by
  intro j m hm
  have hplace : t.queue.messages[t.queue.next + j]? = some m := by
    rwa [Queue.unsent, List.getElem?_drop] at hm
  have hmem := List.mem_of_getElem? hm
  exact ⟨(h.getElem?_listed fresh hplace).2, h.retries m hmem,
    h.names fresh hplace rfl (h.consistent.untouched hmem).failure⟩

/-- The room is used. -/
theorem refill (c : Context) : Dispatched s t₀ (acts ++ t.refill) (t.refilled c) where
  consistent := h.consistent.sentNext c _
  listed := (Queue.map_sentNext (Message.listed_outAt c) _ t.queue).trans h.listed
  retries := by
    intro m hm
    rw [refilled, h.consistent.unsent_sentNext] at hm
    exact h.retries m (List.mem_of_mem_drop hm)
  dispatch := by
    have hnogap : ∀ {acts k}, Dispatch s t₀.queue acts k → Dispatch s t₀.queue (acts ++ []) k := by
      intro acts k h
      rwa [List.append_nil]
    exact Dispatch.sendNext hnogap h.dispatch ((h.due fresh).take _)
  done := by
    intro i hi
    have hnone : concluded t.refill = [] := @concluded_transmissions [] rfl _
    rw [concluded_append, hnone, List.append_nil] at hi
    obtain ⟨m, hm, hd⟩ := h.done i hi
    refine ⟨m, h.consistent.getElem?_sentNext c _ hm fun hw => ?_, hd⟩
    simp [hw, Progress.isDone] at hd

/-- All messages go out, one behind the other. -/
theorem train (c : Context) (hfirst : t.queue.next = 0) :
    Dispatched s t₀ (acts ++ Queue.trainActions c t.queue.unsent)
      { t with queue := t.queue.sentAll c } where
  consistent := h.consistent.sentAll c
  listed := (Queue.map_sentAll (Message.listed_takenForReceived c) t.queue).trans h.listed
  retries := by
    have hnone : (t.queue.sentAll c).unsent = [] := by
      refine List.drop_eq_nil_of_le (Nat.le_of_eq ?_)
      rw [Queue.sentAll, List.length_append, List.length_map]
      exact congrArg (· + _) h.consistent.length_taken
    intro m hm
    rw [hnone] at hm
    cases hm
  dispatch := h.dispatch.train c (h.due fresh)
  done := by
    intro i hi
    rw [concluded_append, concluded_train, List.append_nil] at hi
    have hlt := h.dispatch.done i hi
    omega

omit fresh

variable (hn : t.queue.messages[i]? = some n) (hw : n.state = .waitingForAck)

include hn hw

/-- A message in flight has been sent, and is not done. -/
theorem inFlight : i < t.queue.next ∧ i ∉ concluded acts := by
  have htaken := h.consistent.getElem?_taken hn (by simp [hw])
  refine ⟨h.consistent.length_taken ▸ (List.getElem?_eq_some_iff.1 htaken).1, fun hi => ?_⟩
  obtain ⟨m, hm, hd⟩ := h.done i hi
  cases hn.symm.trans hm
  simp [hw, Progress.isDone] at hd

/-- What is done stays when a message in flight is replaced. -/
theorem done_set (m' : Message) {j : Nat} (hj : j ∈ concluded acts) :
    ∃ m, (t.queue.messages.set i m')[j]? = some m ∧ m.state.isDone = true := by
  have hne : j ≠ i := fun he => (h.inFlight hn hw).2 (he ▸ hj)
  obtain ⟨m, hm, hd⟩ := h.done j hj
  exact ⟨m, (List.getElem?_set_ne hne.symm).trans hm, hd⟩

include fresh

/-- A message in flight ends. -/
theorem settle (failure : Option FailureReason) :
    Dispatched s t₀ (acts ++ [.report (n.conclusion failure)]) (t.settle i n failure) where
  consistent := h.consistent.settle hn hw failure
  listed := (Queue.map_set hn (n.listed_settled failure)).trans h.listed
  retries := by
    intro m hm
    exact h.retries m (h.consistent.unsent_put hn hw (n.settled failure) ▸ hm)
  dispatch := by
    have hseq := (h.getElem?_listed fresh hn).2
    have hlt := (h.inFlight hn hw).1
    refine h.dispatch.quiet rfl ?_ ?_
    · cases failure <;> rfl
    · intro r hr
      have hr' : r.sequence = n.sequence := by
        cases failure <;> cases hr <;> rfl
      omega
  done := by
    intro j hj
    rw [concluded_append, concluded_conclusion, List.mem_append, List.mem_singleton,
      (h.getElem?_listed fresh hn).2] at hj
    rcases hj with hj | rfl
    · exact h.done_set hn hw _ hj
    · exact ⟨_, List.getElem?_set_self (List.getElem?_eq_some_iff.1 hn).1, n.settled_isDone failure⟩

/-- A message in flight goes out again. -/
theorem sentAgain (c : Context) :
    Dispatched s t₀ (acts ++ n.again.transmission)
      { t with queue := t.queue.put i (n.again.outAt c) } where
  consistent := h.consistent.put hn hw c
  listed := by
    have hl : (n.again.outAt c).listed = n.listed := rfl
    exact (Queue.map_set hn hl).trans h.listed
  retries := by
    intro m hm
    exact h.retries m (h.consistent.unsent_put hn hw (n.again.outAt c) ▸ hm)
  dispatch := by
    have hseq : n.again.sequence = i := (h.getElem?_listed fresh hn).2
    obtain ⟨hlt, hopen⟩ := h.inFlight hn hw
    have hf := n.again_failure.trans (h.consistent.failure_eq_none hn hw)
    have hnames := h.names fresh hn (m := n.again) rfl hf
    exact h.dispatch.sendAgain hnames (hseq ▸ hopen) (hseq ▸ hlt) (Nat.succ_pos _)
  done := by
    intro j hj
    rw [concluded_append, concluded_transmission, List.append_nil] at hj
    exact h.done_set hn hw _ hj

omit hn hw

theorem move {more : List Action} (hmove : Move c t i more u) :
    Dispatched s t₀ (acts ++ more) u := by
  cases hmove with
  | settled _ hm hs _ =>
    rw [List.append_cons]
    exact (h.settle fresh hm hs _).refill fresh c
  | sentAgain _ hm hs _ _ => exact h.sentAgain fresh hm hs c

theorem moves {more : List Action} (hmoves : Moves c t more u) :
    Dispatched s t₀ (acts ++ more) u := by
  induction hmoves generalizing acts with
  | nil => rwa [List.append_nil]
  | cons hmove _ ih =>
    rw [← List.append_assoc]
    exact ih (h.move fresh hmove)

end Dispatched

/-! ## Whole transfers -/

section Unacknowledged

variable {c : Context} {t u : Transfer} (hd : t.discipline = .unacknowledged)

include hd

theorem opening_of_unacknowledged (c : Context) :
    t.opening c =
      .report (.start t.queue.messages.length) :: Queue.trainActions c t.queue.unsent := by
  unfold opening
  rw [hd]

theorem started_of_unacknowledged (c : Context) :
    t.started c = { t with queue := t.queue.sentAll c } := by
  unfold started
  rw [hd]

/-- Where acknowledgements do not matter, nothing is left to do after the start. -/
theorem Moves.eq_of_unacknowledged {acts : List Action} (h : Moves c t acts u) :
    acts = [] ∧ u = t := by
  cases h with
  | nil => exact ⟨rfl, rfl⟩
  | cons hmove _ =>
    cases hmove with
    | settled hn _ _ _ | sentAgain hn _ _ _ _ =>
      rw [hd] at hn
      cases hn

end Unacknowledged

theorem written_train (c : Context) (ms : List Message) :
    (Queue.trainActions c ms).filterMap Action.written? = ms.map fun m => m.frame.bytes := by
  have hpause : (Queue.pause c).filterMap Action.written? = [] := by
    unfold Queue.pause
    split <;> rfl
  have hone : ∀ m : Message, m.transmission.filterMap Action.written? = [m.frame.bytes] :=
    fun _ => rfl
  cases ms with
  | nil => rfl
  | cons m ms =>
    simp only [Queue.trainActions, List.filterMap_append, List.filterMap_flatMap, hpause, hone,
      List.nil_append, ← List.map_eq_flatMap]
    rfl

section

variable {data : Bytes} {s : Settings} {t : Transfer} (ht : ofData data s = .ok t)

include ht

theorem Dispatched.started (now : Nat) :
    Dispatched s t (t.opening ⟨s, now⟩) (t.started ⟨s, now⟩) := by
  have fresh := fresh_of_ofData ht
  have hdiscipline := discipline_of_ofData ht
  have hnext := next_of_ofData ht
  have hbegun := announced (s := s) fresh (consistent_of_ofData ht) hnext t.queue.messages.length
  by_cases hn : s.discipline.needsAcks = true
  · rw [announcement, setup, if_pos hn] at hbegun
    rw [← hdiscipline] at hn
    rw [opening_of_needsAcks hn, started_of_needsAcks hn]
    exact hbegun.refill fresh ⟨s, now⟩
  · rw [announcement, setup, if_neg hn] at hbegun
    have hd : t.discipline = .unacknowledged := by
      rw [hdiscipline]
      cases hs : s.discipline <;> simp_all [Discipline.needsAcks]
    rw [opening_of_unacknowledged hd, started_of_unacknowledged hd]
    exact hbegun.train fresh ⟨s, now⟩ hnext

/-- A message of the blob stands there as it is written, and is never taken for the setup. -/
theorem listed_of_ofData {m : Message} (hm : m ∈ t.queue.messages) :
    m.bytesIn data = .ok m.frame.bytes ∧ m.frame.bytes ≠ s.ackSetup.frame.bytes := by
  have hmem : m.located ∈ t.queue.cargo := List.mem_map_of_mem hm
  rw [cargo_of_ofData ht, List.mem_filter] at hmem
  obtain ⟨hlocated, hwanted⟩ := hmem
  refine ⟨Stream.slice_locate hlocated, fun hbytes => ?_⟩
  have hframe : m.located.frame = s.ackSetup.frame := Frame.bytes_injective hbytes
  rw [Message.wanted, hframe] at hwanted
  have hnone : s.ackSetup.frame.header.ofInterest = false := by
    cases s.ackSetup <;> rfl
  simp [hnone] at hwanted

end

/-- The transfer `t` of a blob, begun at `now`, has done `acts` and has come to `p`. -/
structure Recorded (s : Settings) (now : Nat) (t : Transfer) (acts : List Action)
    (p : Transfer × Step) : Prop where
  dispatched : Dispatched s t acts p.1
  step : p.2 = p.1.queue.step
  /-- Where acknowledgements do not matter, the start was all. -/
  unacknowledged : s.discipline = .unacknowledged →
    acts = t.opening ⟨s, now⟩ ∧ p.1 = t.started ⟨s, now⟩

theorem Recorded.take {data : Bytes} {s : Settings} {t : Transfer} (ht : ofData data s = .ok t)
    {now : Nat} {acts : List Action} {p : Transfer × Step} (h : Recorded s now t acts p)
    (i : Input) :
    ∃ more q, (Transfer.take s p i).Comes ⟨s, i.now⟩ more q ∧
      Recorded s now t (acts ++ more) q := by
  obtain ⟨more, u, hturn, hmoves⟩ := take_comes h.dispatched.consistent h.step i
  refine ⟨more, _, hturn, h.dispatched.moves (fresh_of_ofData ht) hmoves, rfl, fun hs => ?_⟩
  obtain ⟨hacts, hstarted⟩ := h.unacknowledged hs
  have hd : p.1.discipline = .unacknowledged := by
    have hd := (discipline_of_ofData ht).trans hs
    rw [hstarted, started_of_unacknowledged hd]
    exact hd
  obtain ⟨rfl, rfl⟩ := hmoves.eq_of_unacknowledged hd
  exact ⟨(List.append_nil acts).trans hacts, hstarted⟩

theorem history_recorded {data : Bytes} {s : Settings} {t : Transfer} (ht : ofData data s = .ok t)
    (now : Nat) (inputs : List Input) :
    ∃ acts p, (t.history s now inputs).Runs
        (Context.Fits ⟨s, now⟩ ∧ ∀ i ∈ inputs, Context.Fits ⟨s, i.now⟩) acts p ∧
      Recorded s now t acts p := by
  unfold history
  exact Runs.foldlM (fun i h => h.take ht i)
    (start_comes ⟨s, now⟩ (consistent_of_ofData ht).sliced).runs
    ⟨.started ht now, rfl, fun _ => ⟨rfl, rfl⟩⟩ inputs

/-- Where acknowledgements do not matter, the start writes all of the blob and finishes. -/
theorem Recorded.finished {data : Bytes} {s : Settings} {t : Transfer} (ht : ofData data s = .ok t)
    {now : Nat} {acts : List Action} {p : Transfer × Step} (h : Recorded s now t acts p)
    (hs : s.discipline = .unacknowledged) :
    p.2 = .finished ∧
      acts.filterMap Action.written? = t.queue.messages.map fun m => m.frame.bytes := by
  obtain ⟨hacts, hstarted⟩ := h.unacknowledged hs
  obtain ⟨ms, -, rfl⟩ := ofData_eq_ok ht
  rw [started_of_unacknowledged hs] at hstarted
  refine ⟨?_, ?_⟩
  · rw [h.step, hstarted]
    simp [Queue.step, Queue.sentAll, Queue.unsent]
  · rw [hacts, opening_of_unacknowledged hs]
    exact written_train _ ms

/-- **Messages go out in the order of the blob, byte for byte.** Start a transfer of any
blob that is accepted, under any discipline, and give it frames and ticks in any order. What
is written is the setup, which goes out first and once where acknowledgements matter and
never where they do not, and then one message for each that is reported as sent: the one
that is named there, as it stands in the blob. The first transmissions are the messages 0,
1, 2 and so on. What goes out again was sent before, and has not been reported as done. When
the transfer is finished, every message has been written, and each once and in order where
acknowledgements do not matter. A fault comes only from a deadline that does not fit, and
leaves a part of such a record. -/
theorem history_inOrder {data : Bytes} {s : Settings} {t : Transfer} {now : Nat}
    {inputs : List Input} (ht : ofData data s = .ok t) :
    ∃ acts p k, (t.history s now inputs).Runs
        (Context.Fits ⟨s, now⟩ ∧ ∀ i ∈ inputs, Context.Fits ⟨s, i.now⟩) acts p ∧
      Dispatch s t.queue acts k ∧
      (∀ m ∈ t.queue.messages, m.bytesIn data = .ok m.frame.bytes) ∧
      (acts.filterMap Action.written?).count s.ackSetup.frame.bytes =
        (if s.discipline.needsAcks then 1 else 0) ∧
      (p.2 = .finished → k = t.queue.messages.length ∧
        ∀ m ∈ t.queue.messages, m.frame.bytes ∈ acts.filterMap Action.written?) ∧
      (s.discipline = .unacknowledged → p.2 = .finished ∧
        acts.filterMap Action.written? = t.queue.messages.map fun m => m.frame.bytes) := by
  obtain ⟨acts, p, hruns, h⟩ := history_recorded ht now inputs
  have hdispatch := h.dispatched.dispatch
  refine ⟨acts, p, p.1.queue.next, hruns, hdispatch, fun m hm => (listed_of_ofData ht hm).1,
    hdispatch.count_setup fun m hm => (listed_of_ofData ht hm).2, fun hfinished => ?_,
    h.finished ht⟩
  have hnext : p.1.queue.next = t.queue.messages.length := by
    rw [h.dispatched.consistent.next_of_finished (h.step.symm.trans hfinished),
      ← h.dispatched.listed, List.length_map]
  refine ⟨hnext, fun m hm => ?_⟩
  obtain ⟨i, hi⟩ := List.getElem?_of_mem hm
  exact hdispatch.write_mem (hnext ▸ (List.getElem?_eq_some_iff.1 hi).1) hi

/-- The first message goes out twice and is given up, and the second one is refused. -/
theorem history_inOrder_pair :
    ofData pairData pairSettings = .ok pairTransfer ∧
      ∃ acts p, pairTransfer.history pairSettings 0 pairInputs = ⟨acts, .ok p⟩ ∧
        p.2 = .finished ∧ Dispatch pairSettings pairTransfer.queue acts 2 ∧
        acts.filterMap Action.written? = [AckSetup.valset.frame.bytes, (almanac 1).bytes,
          (almanac 1).bytes, (almanac 2).bytes] := by
  obtain ⟨acts, p, k, hruns, hdispatch, -, -, hlast, -⟩ :=
    @history_inOrder pairData pairSettings pairTransfer 0 pairInputs ofData_pair
  have hrun := hruns.eq ⟨by decide, by decide⟩
  have hfinished : p.2 = .finished := by
    have hend : (pairTransfer.history pairSettings 0 pairInputs).result.map Prod.snd =
        .ok .finished := rfl
    rw [hrun] at hend
    exact Except.ok.inj hend
  obtain ⟨rfl, -⟩ := hlast hfinished
  refine ⟨ofData_pair, acts, p, hrun, hfinished, hdispatch, ?_⟩
  have hacts : (pairTransfer.history pairSettings 0 pairInputs).actions = acts :=
    congrArg Turn.actions hrun
  rw [← hacts]
  decide

/-- What is reported as sent there, by places. -/
example :
    sentOut (pairTransfer.history pairSettings 0 pairInputs).actions = [0, 0, 1] := by decide

end Transfer

end GnssAiding
