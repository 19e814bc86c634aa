/-
A second check at the same time comes to nothing.

A check sees to everything that is overdue when it begins. It takes one message after another
from those that are overdue (`Transfer.Lapse.mem_overdue`), whatever it does about each; what
it sends has a deadline that lies ahead, since there is some time to wait for acknowledgements.
The same goes for a block and for a stop message. So a job that goes on after a check waits
for nothing that is overdue (`Job.Underway.rearmed`), and a check comes to nothing before all
deadlines (`Session.Reachable.check_eq_iff`).
-/
import GnssAiding.Proofs.Session.Inert

namespace GnssAiding

/-! ## Messages -/

theorem Message.not_overdue_outAt {c : Context} (hpos : 0 < c.settings.timeout) (m : Message) :
    ¬ (m.outAt c).overdue c.now = true := by
  intro hover
  simp only [overdue, Bool.and_eq_true, decide_eq_true_eq] at hover
  have hlater : c.now < (m.outAt c).deadline := Nat.lt_add_of_pos_right hpos
  exact absurd hover.2 (Nat.not_le_of_lt hlater)

theorem Message.not_overdue_settled (now : Nat) (failure : Option FailureReason) (m : Message) :
    ¬ (m.settled failure).overdue now = true := by
  intro hover
  have hdone := m.settled_isDone failure
  rw [state_of_overdue hover] at hdone
  cases hdone

namespace Queue

variable {q q' : Queue} {i j now : Nat} {c : Context}

/-- Replacing a message by one that is not overdue. -/
theorem mem_overdue_of_set {m : Message} (hm : ¬ m.overdue now = true)
    (hq : q'.messages = q.messages.set i m) :
    j ∈ q'.overdue now ↔ j ∈ q.overdue now ∧ j ≠ i := by
  rw [mem_overdue, mem_overdue, hq]
  by_cases hj : j = i
  · subst hj
    refine iff_of_false ?_ fun h => h.2 rfl
    rintro ⟨n, hn, hover⟩
    obtain ⟨hlt, hget⟩ := List.getElem?_eq_some_iff.1 hn
    rw [List.getElem_set_self] at hget
    exact hm (hget ▸ hover)
  · rw [List.getElem?_set_ne (Ne.symm hj)]
    exact (and_iff_left hj).symm

/-- Sending the next messages makes none overdue. -/
theorem Consistent.mem_overdue_sentNext (h : q.Consistent) (hpos : 0 < c.settings.timeout)
    (n : Nat) : j ∈ (q.sentNext c n).overdue c.now ↔ j ∈ q.overdue c.now := by
  rw [mem_overdue, mem_overdue]
  constructor
  · rintro ⟨m, hm, hover⟩
    have hmessages : (q.sentNext c n).messages =
        q.taken ++ ((q.unsent.take n).map (Message.outAt c) ++ q.unsent.drop n) :=
      List.append_assoc ..
    rw [hmessages, List.getElem?_append] at hm
    split at hm
    · next hj =>
      refine ⟨m, ?_, hover⟩
      rw [← q.taken_append_unsent, List.getElem?_append_left hj, hm]
    · rcases List.mem_append.1 (List.mem_of_getElem? hm) with hout | hrest
      · obtain ⟨m, -, rfl⟩ := List.mem_map.1 hout
        exact absurd hover (m.not_overdue_outAt hpos)
      · have hunsent := h.unsent m (List.mem_of_mem_drop hrest)
        cases hunsent.symm.trans (Message.state_of_overdue hover)
  · rintro ⟨m, hm, hover⟩
    refine ⟨m, h.getElem?_sentNext c n hm ?_, hover⟩
    simp [Message.state_of_overdue hover]

end Queue

namespace Transfer

variable {c : Context} {t u : Transfer} {i j : Nat} {acts : List Action}

/-- A lapse takes one message from those that are overdue, and adds none. -/
theorem Lapse.mem_overdue (h : Lapse c t i acts u) (ht : t.queue.Consistent)
    (hpos : 0 < c.settings.timeout) :
    j ∈ u.queue.overdue c.now ↔ j ∈ t.queue.overdue c.now ∧ j ≠ i := by
  cases h with
  | @givenUp m hn hm hd hr =>
    have hsettled := ht.settle hm (Message.state_of_overdue hd) (some .tooManyRetries)
    rw [refilled, settle, hsettled.mem_overdue_sentNext hpos]
    exact Queue.mem_overdue_of_set (m.not_overdue_settled c.now _) rfl
  | @sentAgain m hn hm hd hr => exact Queue.mem_overdue_of_set (m.again.not_overdue_outAt hpos) rfl

theorem Lapse.discipline_eq (h : Lapse c t i acts u) : u.discipline = t.discipline := by
  cases h <;> rfl

/-- A sweep over all that is overdue leaves nothing overdue, unless the transfer ends. -/
theorem overdue_of_sweep {is : List Nat} (hn : t.discipline.needsAcks = true)
    (ht : t.queue.Consistent) (hpos : 0 < c.settings.timeout) (hnodup : is.Nodup)
    (hall : ∀ j, j ∈ is ↔ j ∈ t.queue.overdue c.now)
    (h : (t.sweep c is).result = .ok (u, .running)) : u.queue.overdue c.now = [] := by
  induction is generalizing t with
  | nil =>
    obtain rfl := congrArg Prod.fst (Except.ok.inj h)
    exact List.eq_nil_iff_forall_not_mem.2 fun j hj => List.not_mem_nil ((hall j).2 hj)
  | cons i is ih =>
    obtain ⟨hi, hnodup⟩ := List.nodup_cons.1 hnodup
    obtain ⟨m, hm, hd⟩ := Queue.mem_overdue.1 ((hall i).1 (List.mem_cons_self ..))
    obtain ⟨acts, v, htime, hlapse⟩ := timeOut_comes c ht hn hm hd
    obtain ⟨v', hv, hrest⟩ := Turn.result_bind_eq_ok.1 h
    cases htime.eq_result hv
    split at hrest
    · refine ih (by rw [hlapse.discipline_eq, hn]) (hlapse.move.consistent ht) hnodup (fun j => ?_)
        hrest
      rw [hlapse.mem_overdue ht hpos, ← hall j, List.mem_cons]
      constructor
      · exact fun hj => ⟨.inr hj, fun hji => hi (hji ▸ hj)⟩
      · rintro ⟨hj, hji⟩
        exact hj.resolve_left hji
    · next hend => exact absurd (congrArg Prod.snd (Except.ok.inj hrest)) hend

theorem overdue_of_checkTimeouts (ht : t.Orderly c.settings) (hpos : 0 < c.settings.timeout)
    (h : (t.checkTimeouts c).result = .ok (u, .running)) : u.queue.overdue c.now = [] :=
  overdue_of_sweep ht.needsAcks ht.consistent hpos (Queue.nodup_overdue c.now t.queue)
    (fun _ => Iff.rfl) h

end Transfer

/-! ## Blocks and stop messages -/

theorem Flash.Transfer.pending?_put {t : Flash.Transfer} (h : t.current < t.blocks.length)
    (b : Flash.Block) : (t.put b).pending? = some b.deadline := by
  rw [pending?, put, List.getElem?_set_self h]
  rfl

/-- Behind a check the current block has its deadline ahead. -/
theorem Flash.Transfer.Lapse.rearmed {c : Context} {t u : Flash.Transfer} {b : Flash.Block}
    {acts : List Action} (h : Lapse c t b acts u .running) (hb : t.blocks[t.current]? = some b)
    (hpos : 0 < c.settings.timeout) : ∃ d, u.pending? = some d ∧ c.now < d := by
  have hput := Flash.Transfer.pending?_put (List.getElem?_eq_some_iff.1 hb).1
  cases h with
  | early hlater => exact ⟨b.deadline, by rw [pending?, hb]; rfl, hlater⟩
  | nudged | resent => exact ⟨_, hput _, Nat.lt_add_of_pos_right hpos⟩

theorem Legacy.Push.pending?_put {p : Push} (hp : p.phase = .mainSequence)
    (h : p.current < p.blocks.length) (b : Flash.Block) :
    (p.put b).pending? = some b.deadline := by
  simp only [pending?, put, hp, List.getElem?_set_self h, Option.map_some]

/-- Behind a check the current block or the stop message has its deadline ahead. -/
theorem Legacy.Push.Lapse.rearmed {c : Context} {p q : Push} {acts : List Action}
    (h : Lapse c p acts q .running) (hpos : 0 < c.settings.timeout) :
    ∃ d, q.pending? = some d ∧ c.now < d := by
  cases h with
  | stopEarly hstopped hlater => exact ⟨_, pending?_stopped hstopped, hlater⟩
  | stopAgain hstopped =>
    exact ⟨_, pending?_stopped (p := stopSent c { p with retries := p.retries + 1 }) hstopped,
      Nat.lt_add_of_pos_right hpos⟩
  | @early b hp hb hlater => exact ⟨b.deadline, by simp only [pending?, hp, hb]; rfl, hlater⟩
  | nudged hp hb | resent hp hb =>
    exact ⟨_, pending?_put hp (List.getElem?_eq_some_iff.1 hb).1 _, Nat.lt_add_of_pos_right hpos⟩

/-! ## Jobs -/

/-- A job that goes on after a check waits for nothing that is overdue. -/
theorem Job.Underway.rearmed {c : Context} {job next : Job} (h : job.Underway c.settings)
    (hpos : 0 < c.settings.timeout) (hr : (job.checkTimeouts c).result = .ok (next, .running)) :
    ∀ d ∈ next.deadlines, c.now < d := by
  obtain ⟨acts, next', step, hturn, hlapses⟩ := Job.checkTimeouts_comes h
  cases hturn.eq_result hr
  generalize hstep : Step.running = step at hlapses
  cases hlapses with
  | server => exact fun d hd => absurd hd List.not_mem_nil
  | @messages t u n _ _ ht =>
    obtain ⟨⟨v, step⟩, hv, hpure⟩ := Turn.result_bind_eq_ok.1 hr
    cases hpure
    have hnone := Queue.overdue_eq_nil_iff.1 (Transfer.overdue_of_checkTimeouts ht hpos hv)
    simpa only [deadlines, List.forall_mem_map] using hnone
  | flash ht hl =>
    subst hstep
    obtain ⟨d, hd, hlater⟩ := hl.rearmed ht.current hpos
    simpa [deadlines, hd] using hlater
  | legacyFlash hp hl =>
    subst hstep
    obtain ⟨d, hd, hlater⟩ := hl.rearmed hpos
    simpa [deadlines, hd] using hlater

/-! ## Sessions -/

namespace Session

/-- What the session sends at `now` has a deadline that lies ahead and that the clock can
show. -/
def Rearms (s : Session) (now : Nat) : Prop :=
  ∀ settings, s.settings = some settings → 0 < settings.timeout ∧ Context.Fits ⟨settings, now⟩

section

variable {s : Session} {now : Nat}

/-- A check meets no fault where the clock can show the deadlines. -/
theorem Reachable.check_result (h : Reachable s) (hr : s.Rearms now) :
    (s.perform now .checkTimeouts).result = .ok .done := by
  have hdone := h.busy.checkTimeouts_result fun settings hs => (hr settings hs).2
  rw [perform, Outcome.map, hdone]
  rfl

/-- Behind a check the session waits for nothing that is overdue. -/
theorem Reachable.rearmed (h : Reachable s) (hr : s.Rearms now) :
    ∀ d ∈ (s.perform now .checkTimeouts).session.job.deadlines, now < d := by
  by_cases hp : s.state = .processing
  · obtain ⟨settings, hs, hj⟩ := h.busy hp
    obtain ⟨hpos, hfits⟩ := hr settings hs
    rw [perform, checkTimeouts_eq_advance hp hs, map_advance]
    rcases s.advance_cases (s.job.checkTimeouts ⟨settings, now⟩) Answer.done with
      ⟨acts, job, hok, hr⟩ | ⟨acts, job, step, e, -, -, hr⟩ | ⟨acts, f, hfault, -⟩
    · rw [hr]
      exact hj.rearmed hpos (congrArg Turn.result hok)
    · rw [hr]
      exact fun d hd => absurd hd List.not_mem_nil
    · obtain ⟨acts, r, hok⟩ := Job.Underway.checkTimeouts_eq_ok hj hfits
      cases hfault.symm.trans hok
  · have hidle : (s.perform now .checkTimeouts).session = s := by
      simp [perform, checkTimeouts, hp, accept, Outcome.map]
    rw [hidle, h.sound.job_eq_none hp]
    exact fun d hd => absurd hd List.not_mem_nil

theorem Reachable.check_again (h : Reachable s) (hr : s.Rearms now) :
    (s.perform now .checkTimeouts).session.perform now .checkTimeouts =
      ⟨(s.perform now .checkTimeouts).session, [], .ok .done⟩ := by
  have hcompletes : (s.perform now .checkTimeouts).Completes := .of_ok (h.check_result hr)
  exact (perform_reachable h hcompletes).check_eq_iff.2 (h.rearmed hr)

theorem start_job (s : Session) : s.start.session.job = s.job := by
  unfold start
  split
  · rfl
  · split <;> rfl

end

end Session

/-! ## Behind the lock -/

namespace Line

open Session (Reachable)

variable {l : Line} {now : Nat}

/-- A listener that starts the session again leaves it without a job. -/
theorem deliver_job (listener : Listener) (es : List Event) (s : Session) :
    (deliver listener es s).2.job = s.job := by
  induction es generalizing s with
  | nil => rfl
  | cons e es ih =>
    simp only [deliver, ih]
    split
    · exact s.start_job
    · rfl

theorem conclude_clock {α} (l : Line) (o : Outcome α) :
    (l.conclude l.host o).2.clock = l.clock := by
  unfold conclude
  dsimp only
  split
  · rfl
  · split <;> rfl

theorem conclude_job {α} {o : Outcome α} {a : α} (h : o.result = .ok a) (host : Option Host) :
    (l.conclude host o).2.session.job = o.session.job := by
  unfold conclude
  dsimp only
  split
  · next f hf => cases h.symm.trans hf
  · split
    · rfl
    · exact deliver_job _ _ _

theorem call_again (h : Relation.ReflTransGen Next fresh l) (hp : l.poisoned = false)
    (hr : l.session.Rearms (l.clock.reading now)) :
    (l.call now .checkTimeouts).2.call now .checkTimeouts =
      (⟨.ok .done, [], []⟩, (l.call now .checkTimeouts).2) := by
  have hdone := (session_reachable h).check_result hr
  have hcall : l.call now .checkTimeouts =
      l.conclude l.host (l.session.perform (l.clock.reading now) .checkTimeouts) := by
    rw [call, hp, if_neg Bool.false_ne_true]
  have hopen : (l.call now .checkTimeouts).2.poisoned = false :=
    (call_harmless hdone).poisoned.trans hp
  refine call_unchanged hopen (by simp) ?_
  refine (session_reachable (h.tail (.call now .checkTimeouts))).check_eq_iff.2 ?_
  rw [hcall, conclude_clock, conclude_job hdone]
  exact (session_reachable h).rearmed hr

/-- **To check the timeouts more often changes nothing.** Take any session that calls lead to,
and a time at which what it sends is not overdue at once and has a deadline that the clock can
show. Then a check succeeds, whatever the session is at, and leaves nothing overdue; so a second
one at the same time writes nothing, reports nothing and leaves the session as the first one
left it. The same holds behind the lock, also where a listener has started the session again in
between; where the lock is poisoned, both are refused. -/
theorem check_twice :
    (∀ s, Reachable s → ∀ now, s.Rearms now →
      (s.perform now .checkTimeouts).result = .ok .done ∧
      (∀ d ∈ (s.perform now .checkTimeouts).session.job.deadlines, now < d) ∧
      (s.perform now .checkTimeouts).session.perform now .checkTimeouts =
        ⟨(s.perform now .checkTimeouts).session, [], .ok .done⟩) ∧
    ∀ l, Relation.ReflTransGen Next fresh l → ∀ now, l.session.Rearms (l.clock.reading now) →
      (l.call now .checkTimeouts).2.call now .checkTimeouts =
        if l.poisoned then l.refused .lockPoisoned
        else (⟨.ok .done, [], []⟩, (l.call now .checkTimeouts).2) := by
  refine ⟨fun s hs now hr => ⟨hs.check_result hr, hs.rearmed hr, hs.check_again hr⟩,
    fun l hl now hr => ?_⟩
  by_cases hp : l.poisoned = true
  · simp [call, hp, refused]
  · rw [if_neg hp]
    exact call_again hl (Bool.eq_false_iff.2 hp) hr

/-- A session that has begun to send a legacy file. -/
def pushingLine : Line := (startedLine.call 0 (.sendLegacyToFlash Session.shortFile)).2

theorem pushingLine_reachable : Relation.ReflTransGen Next fresh pushingLine :=
  startedLine_reachable.tail (.call 0 (.sendLegacyToFlash Session.shortFile))

/-- The first of two messages is sent again at 100, and so is a stop message, but only once. -/
theorem check_twice_pair :
    let s := Session.pairSession
    let t := (s.perform 100 .checkTimeouts).session
    Reachable s ∧ s.Rearms 100 ∧ s.job.deadlines = [100] ∧ t.job.deadlines = [200] ∧
      t.perform 100 .checkTimeouts = ⟨t, [], .ok .done⟩ ∧
      Relation.ReflTransGen Next fresh pushingLine ∧ pushingLine.session.Rearms 100 ∧
      (pushingLine.call 100 .checkTimeouts).1.writes = [.write Legacy.stopFrame.bytes] ∧
      (pushingLine.call 100 .checkTimeouts).2.call 100 .checkTimeouts =
        (⟨.ok .done, [], []⟩, (pushingLine.call 100 .checkTimeouts).2) := by
  intro s t
  obtain ⟨hsession, hline⟩ := check_twice
  have hs : s.Rearms 100 := by
    rintro settings ⟨⟩
    decide
  have hl : pushingLine.session.Rearms 100 := by
    rintro settings ⟨⟩
    decide
  obtain ⟨-, -, hagain⟩ := hsession s Session.pairSession_reachable 100 hs
  exact ⟨Session.pairSession_reachable, hs, rfl, rfl, hagain, pushingLine_reachable, hl, rfl,
    hline pushingLine pushingLine_reachable 100 hl⟩

end Line

end GnssAiding
