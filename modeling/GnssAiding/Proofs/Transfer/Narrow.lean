/-
A window too narrow for two messages.

If the budget is less than any two messages of the blob need, a windowed transfer
does what a stop-and-wait transfer does. The two have the same queue at any
moment, so one is the other under another discipline (`widened`), and the room that
they find is the same: for one message where nothing is in flight
(`fitting_narrow`), which is the only time at which either looks for room. So every
turn of the one is that of the other (`take_widened`), faults included, and with
them whole runs (`history_narrow`).
-/
import GnssAiding.Proofs.Transfer.Cargo
import GnssAiding.Proofs.Transfer.StopAndWait
import GnssAiding.Proofs.Transfer.Window

namespace GnssAiding

namespace Queue

/-! ## Room for one -/

/-- Any two messages are more than the budget. -/
def Narrow (budget : Nat) (q : Queue) : Prop :=
  q.messages.Pairwise fun m n => budget < m.length + n.length

theorem narrow_iff_cargo {budget : Nat} {q : Queue} :
    q.Narrow budget ↔ q.cargo.Pairwise fun l k => budget < l.frame.length + k.frame.length := by
  rw [Narrow, cargo, List.pairwise_map]
  rfl

/-- Where nothing is in flight, exactly one message fits. -/
theorem fitting_narrow {budget : Nat} {ms : List Message}
    (h : ms.Pairwise fun m n => budget < m.length + n.length) :
    ms.take (fitting budget 0 ms) = ms.take 1 ∧ ms.drop (fitting budget 0 ms) = ms.drop 1 := by
  cases ms with
  | nil => exact ⟨rfl, rfl⟩
  | cons m ms =>
    have hone : fitting budget 0 (m :: ms) = 1 := by
      have hfirst : ¬ (0 < 0 ∧ budget < 0 + m.length) := by omega
      rw [fitting, if_neg hfirst, Nat.zero_add]
      cases ms with
      | nil => rfl
      | cons n ms =>
        have hfull : 0 < m.length ∧ budget < m.length + n.length :=
          ⟨m.length_pos, (List.pairwise_cons.1 h).1 n List.mem_cons_self⟩
        rw [fitting, if_pos hfull]
    rw [hone]
    exact ⟨rfl, rfl⟩

/-- Where nothing is in flight, filling up a narrow window sends one message. -/
theorem fill_narrow {budget : Nat} {q : Queue} (h : q.Narrow budget) (hnone : q.waiting = [])
    (c : Context) : q.fill c budget = q.sendNext c 1 := by
  have hidle : q.inFlight = 0 := size_eq_zero_iff.2 hnone
  have hunsent : q.unsent.Pairwise fun m n => budget < m.length + n.length := h.drop
  obtain ⟨htake, hdrop⟩ := fitting_narrow hunsent
  unfold fill sendNext
  rw [hidle, htake, hdrop]

/-- No two messages are in flight. -/
theorem InTurn.index_eq {q : Queue} (h : q.InTurn) (hc : q.Consistent) {i j : Nat} {m n : Message}
    (hm : q.messages[i]? = some m) (hs : m.state = .waitingForAck)
    (hn : q.messages[j]? = some n) (hs' : n.state = .waitingForAck) : i = j := by
  cases h with
  | finished done =>
    have hdone := done m (List.mem_of_getElem? hm)
    rw [not_isDone_of_waiting hs] at hdone
    cases hdone
  | out messages done waits acked next =>
    have hback := hc.back_unsent messages next
    have hi := (eq_of_waiting messages done hback hm hs).1
    have hj := (eq_of_waiting messages done hback hn hs').1
    exact hi.trans hj.symm

/-- With the one message in flight settled, nothing is in flight. -/
theorem InTurn.waiting_settle {q : Queue} (h : q.InTurn) (hc : q.Consistent) {i : Nat} {m : Message}
    (hm : q.messages[i]? = some m) (hs : m.state = .waitingForAck)
    (failure : Option FailureReason) : (q.settle i (m.settled failure)).waiting = [] := by
  have hrunning : q.step ≠ .finished := by
    intro hfin
    have hdone := hc.step_eq_finished_iff.1 hfin m (List.mem_of_getElem? hm)
    rw [not_isDone_of_waiting hs] at hdone
    cases hdone
  obtain ⟨n, -, hone⟩ := (h.oneOut hc hrunning).current
  obtain ⟨before, after, hw, hw'⟩ := Queue.waiting_settle hm hs failure
  have hlen : 1 = before.length + (after.length + 1) := by
    simpa using congrArg List.length (hone.symm.trans hw)
  rw [hw', List.append_eq_nil_iff]
  constructor <;> apply List.length_eq_zero_iff.1 <;> omega

end Queue

namespace Transfer

/-! ## The same transfer under the other discipline -/

/-- The transfer under the windowed discipline. -/
def widened (t : Transfer) : Transfer := { t with discipline := .windowed }

@[simp] theorem widened_queue (t : Transfer) : t.widened.queue = t.queue := rfl

@[simp] theorem needsAcks_widened (t : Transfer) : t.widened.discipline.needsAcks = true := rfl

/-- The result of a turn, with the transfer under the windowed discipline. -/
def widenedResult (p : Transfer × Step) : Transfer × Step := (p.1.widened, p.2)

/-- A stop-and-wait transfer with its queue in order, and a budget for less than two messages. -/
structure Narrow (t : Transfer) : Prop extends StopsAndWaits t where
  narrow : t.queue.Narrow t.budget

variable {c : Context} {s : Settings} {t u : Transfer}

theorem StopsAndWaits.needsAcks (ht : t.StopsAndWaits) : t.discipline.needsAcks = true := by
  rw [ht.discipline]
  rfl

theorem Move.narrow {i : Nat} {acts : List Action} (h : Move c t i acts u) (ht : t.Narrow) :
    u.Narrow where
  toStopsAndWaits := h.stopsAndWaits ht.toStopsAndWaits
  narrow := by
    have hbudget : u.budget = t.budget := by cases h <;> rfl
    rw [Queue.narrow_iff_cargo, h.cargo, hbudget]
    exact Queue.narrow_iff_cargo.1 ht.narrow

theorem proceed_widened (hd : t.discipline = .stopAndWait) (hn : t.queue.Narrow t.budget)
    (hnone : t.queue.waiting = []) (c : Context) :
    t.widened.proceed c = widened <$> t.proceed c := by
  unfold proceed
  rw [hd]
  simp only [widened, Queue.fill_narrow hn hnone, map_bind, map_pure]

/-- The message in flight is settled, and the room for one is used. -/
theorem proceed_settle_widened (ht : t.Narrow) {i : Nat} {m : Message}
    (hm : t.queue.messages[i]? = some m) (hs : m.state = .waitingForAck)
    (failure : Option FailureReason) (c : Context) :
    (t.settle i m failure).widened.proceed c = widened <$> (t.settle i m failure).proceed c := by
  refine proceed_widened (t := t.settle i m failure) ht.discipline ?_ ?_ c
  · have hcargo : (t.settle i m failure).queue.cargo = t.queue.cargo :=
      Queue.cargo_set hm rfl (m.located_settled failure)
    rw [Queue.narrow_iff_cargo, hcargo]
    exact Queue.narrow_iff_cargo.1 ht.narrow
  · exact ht.inTurn.waiting_settle ht.consistent hm hs failure

theorem start_widened (hd : t.discipline = .stopAndWait) (hn : t.queue.Narrow t.budget)
    (hnone : t.queue.waiting = []) (c : Context) :
    t.widened.start c = widenedResult <$> t.start c := by
  have hproceed := proceed_widened hd hn hnone c
  unfold start
  simp only [hd, widened] at hproceed ⊢
  simp only [Discipline.needsAcks, hproceed, map_bind, map_pure, bind_map_left, if_true]
  rfl

/-- A frame is for the one transfer if it is for the other, and does the same. -/
theorem receive_widened (ht : t.Narrow) (c : Context) (f : Frame) :
    t.widened.receive c f = (t.receive c f).map (widenedResult <$> ·) := by
  rw [receive_eq, receive_eq, if_pos ht.needsAcks, if_pos t.needsAcks_widened, t.widened_queue,
    Option.map_map]
  refine Option.map_congr fun ⟨i, failure⟩ hv => ?_
  -- The message that is settled is the one in flight, so that there is room for one.
  obtain ⟨m, hm, hs, -⟩ := verdict?_eq_some hv
  have hproceed := proceed_settle_widened ht hm hs failure c
  simp only [Function.comp_apply, map_bind, map_pure]
  refine Turn.bind_congr_ok fun q hq => ?_
  rw [Queue.resolve_eq hm] at hq
  cases hq
  exact (congrArg (· >>= _) hproceed).trans (bind_map_left _ _ _)

/-- Seeing to an overdue message does the same. -/
theorem timeOut_widened (ht : t.Narrow) {i : Nat} {m : Message}
    (hm : t.queue.messages[i]? = some m) (hs : m.state = .waitingForAck) (c : Context) :
    t.widened.timeOut c i = widened <$> t.timeOut c i := by
  have hproceed := proceed_settle_widened ht hm hs (some .tooManyRetries) c
  unfold timeOut
  rw [if_pos ht.needsAcks, if_pos t.needsAcks_widened, t.widened_queue, map_bind]
  by_cases hr : m.retries < c.settings.retries
  · refine Turn.bind_congr_ok fun p hp => ?_
    cases (Queue.retry_comes_again ht.consistent.sliced hm hr).eq_result hp
    rfl
  · have hretry := Queue.retry_eq_giveUp (q := t.queue) hm hr
    refine Turn.bind_congr_ok fun p hp => ?_
    rw [hretry] at hp
    cases hp
    exact hproceed

/-- At most one message is overdue. -/
theorem StopsAndWaits.overdue_cases (ht : t.StopsAndWaits) (now : Nat) :
    t.queue.overdue now = [] ∨ ∃ i m, t.queue.overdue now = [i] ∧
      t.queue.messages[i]? = some m ∧ m.state = .waitingForAck := by
  have hone : ∀ i ∈ t.queue.overdue now, ∃ m, t.queue.messages[i]? = some m ∧
      m.state = .waitingForAck := by
    intro i hi
    obtain ⟨m, hm, hd⟩ := Queue.mem_overdue.1 hi
    exact ⟨m, hm, Message.state_of_overdue hd⟩
  cases hover : t.queue.overdue now with
  | nil => exact .inl rfl
  | cons i is =>
    obtain ⟨m, hm, hs⟩ := hone i (by simp [hover])
    refine .inr ⟨i, m, ?_, hm, hs⟩
    cases is with
    | nil => rfl
    | cons j is =>
      -- A second one would be in flight as well.
      obtain ⟨n, hn, hs'⟩ := hone j (by simp [hover])
      have hnodup := Queue.nodup_overdue now t.queue
      rw [hover] at hnodup
      have hne : i ≠ j := fun he => (List.nodup_cons.1 hnodup).1 (by simp [he])
      exact absurd (ht.inTurn.index_eq ht.consistent hm hs hn hs') hne

/-- A sweep over a single message is seeing to it. -/
theorem sweep_singleton (c : Context) (i : Nat) (t : Transfer) :
    t.sweep c [i] = t.timeOut c i >>= fun u => pure (u, u.queue.step) := by
  simp only [sweep, ite_self]

theorem checkTimeouts_widened (ht : t.Narrow) (c : Context) :
    t.widened.checkTimeouts c = widenedResult <$> t.checkTimeouts c := by
  unfold checkTimeouts
  rw [t.widened_queue]
  rcases ht.overdue_cases c.now with hnone | ⟨i, m, hover, hm, hs⟩
  · rw [hnone]
    rfl
  · rw [hover, sweep_singleton, sweep_singleton, timeOut_widened ht hm hs, bind_map_left, map_bind]
    rfl

theorem take_widened {p : Transfer × Step} (hp : p.1.Narrow) (i : Input) :
    take s (widenedResult p) i = widenedResult <$> take s p i := by
  cases i with
  | frame now f =>
    simp only [take, widenedResult, receive_widened hp]
    cases p.1.receive ⟨s, now⟩ f <;> rfl
  | tick now => exact checkTimeouts_widened hp _

theorem takeAll_widened {p : Transfer × Step} (hp : p.1.Narrow ∧ p.2 = p.1.queue.step)
    (inputs : List Input) :
    inputs.foldlM (take s) (widenedResult p) = widenedResult <$> inputs.foldlM (take s) p := by
  induction inputs generalizing p with
  | nil => rfl
  | cons i is ih =>
    rw [List.foldlM_cons, List.foldlM_cons, take_widened hp.1, bind_map_left, map_bind]
    refine Turn.bind_congr_ok fun q hq => ih ?_
    exact take_keeps (fun h => h.consistent) (fun _ hmove => hmove.narrow) hp hq

/-! ## Whole runs -/

/-- The settings are asked for the discipline when a transfer is made, and never again. -/
theorem checkTimeouts_under (s : Settings) (d : Discipline) (now : Nat) (t : Transfer) :
    t.checkTimeouts ⟨{ s with discipline := d }, now⟩ = t.checkTimeouts ⟨s, now⟩ := by
  have hsweep : ∀ (is : List Nat) (t : Transfer),
      t.sweep ⟨{ s with discipline := d }, now⟩ is = t.sweep ⟨s, now⟩ is := by
    intro is
    induction is with
    | nil => exact fun _ => rfl
    | cons i is ih =>
      intro t
      simp only [sweep, ih]
      rfl
  exact hsweep _ t

theorem history_under (s : Settings) (d : Discipline) (now : Nat) (inputs : List Input)
    (t : Transfer) :
    t.history { s with discipline := d } now inputs = t.history s now inputs := by
  have htake : take { s with discipline := d } = take s := by
    funext p i
    cases i with
    | frame now f => rfl
    | tick now => exact checkTimeouts_under s d now p.1
  unfold history
  rw [htake]
  rfl

/-- The transfer of a blob, not started yet, has nothing in flight. -/
theorem waiting_of_ofData {data : Bytes} (ht : ofData data s = .ok t) : t.queue.waiting = [] := by
  have hcons := consistent_of_ofData ht
  obtain ⟨ms, -, rfl⟩ := ofData_eq_ok ht
  rw [Queue.waiting_eq hcons]
  rfl

theorem Narrow.started {data : Bytes} (ht : ofData data s = .ok t)
    (hd : s.discipline = .stopAndWait) (hn : t.queue.Narrow t.budget) (c : Context) :
    (t.started c).Narrow where
  toStopsAndWaits := .started ht hd c
  narrow := by
    have hbudget : (t.started c).budget = t.budget := by
      unfold Transfer.started
      split <;> rfl
    rw [Queue.narrow_iff_cargo, cargo_started, hbudget]
    exact Queue.narrow_iff_cargo.1 hn

/-- **A budget for less than two messages is stop-and-wait.** Make two transfers of
one blob, under settings that agree but for the discipline, with a budget less than
any two of its messages need together. Given the same frames and ticks at the same
clock readings they do the same: they write and report the same, they are as far
after each input, and one meets a fault where the other does. The two never differ
in anything but the name of the discipline, so a frame is for the one whenever it is
for the other. -/
theorem history_narrow {data : Bytes} {s : Settings} {t : Transfer} {now : Nat}
    {inputs : List Input} (ht : ofData data { s with discipline := .stopAndWait } = .ok t)
    (hn : t.queue.messages.Pairwise fun m n => s.budget < m.length + n.length) :
    let single : Settings := { s with discipline := .stopAndWait }
    let windowed : Settings := { s with discipline := .windowed }
    ofData data windowed = .ok t.widened ∧
    t.widened.history windowed now inputs = widenedResult <$> t.history single now inputs ∧
    ∀ p, (t.history single now inputs).result = .ok p → ∀ later f,
      p.1.widened.receive ⟨windowed, later⟩ f =
        (p.1.receive ⟨single, later⟩ f).map (widenedResult <$> ·) ∧
      p.1.widened.checkTimeouts ⟨windowed, later⟩ =
        widenedResult <$> p.1.checkTimeouts ⟨single, later⟩ := by
  intro single windowed
  obtain ⟨ms, hms, hfresh⟩ := ofData_eq_ok ht
  have hnone := waiting_of_ofData ht
  have hsliced := (consistent_of_ofData ht).sliced
  have hd : t.discipline = .stopAndWait := by rw [hfresh]
  have hnarrow : t.queue.Narrow t.budget := by
    have hbudget : t.budget = s.budget := by rw [hfresh]
    rw [hbudget]
    exact hn
  have hstarted : (t.started ⟨single, now⟩).Narrow := .started ht rfl hnarrow _
  refine ⟨?_, ?_, fun p hp later f => ?_⟩
  · rw [ofData, Queue.ofData, hms, hfresh]
    rfl
  · have hunder : t.widened.history windowed now inputs = t.widened.history single now inputs :=
      history_under single .windowed now inputs _
    rw [hunder, history, history, start_widened hd hnarrow hnone, bind_map_left, map_bind]
    refine Turn.bind_congr_ok fun p hp => takeAll_widened ?_ inputs
    cases (start_comes ⟨single, now⟩ hsliced).eq_result hp
    exact ⟨hstarted, rfl⟩
  · obtain ⟨hp, -⟩ := history_keeps (fun h => h.consistent) (fun _ hmove => hmove.narrow)
      hsliced hstarted hp
    constructor
    · exact receive_widened hp ⟨single, later⟩ f
    · have hunder := checkTimeouts_under single .windowed later p.1.widened
      exact hunder.trans (checkTimeouts_widened hp _)

/-- Two messages of sixteen bytes and a budget of 31: the first is sent twice and given
up before the second goes out, and the window is as narrow. -/
theorem history_narrow_pair :
    let s := { pairSettings with budget := 31 }
    let single : Settings := { s with discipline := .stopAndWait }
    let windowed : Settings := { s with discipline := .windowed }
    let t : Transfer := ⟨pairTransfer.queue, .stopAndWait, 31⟩
    ofData pairData single = .ok t ∧
      (t.queue.messages.Pairwise fun m n => s.budget < m.length + n.length) ∧
      ofData pairData windowed = .ok t.widened ∧
      t.widened.history windowed 0 pairInputs = widenedResult <$> t.history single 0 pairInputs ∧
      (t.history single 0 pairInputs).result.map Prod.snd = .ok .finished := by
  intro s single windowed t
  have ht : ofData pairData single = .ok t := ofData_pairData single
  have hn : t.queue.messages.Pairwise fun m n => s.budget < m.length + n.length := by decide
  obtain ⟨hwide, hsame, -⟩ := @history_narrow pairData s t 0 pairInputs ht hn
  exact ⟨ht, hn, hwide, hsame, rfl⟩

end Transfer

end GnssAiding
