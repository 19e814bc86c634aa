/-
What is ignored changes nothing.

A job takes some frames and no others (`Job.Expects`): a transfer of messages an
acknowledgement of one in flight, a transfer into flash an answer about the current block
or the end, the transfer of a legacy file any answer, a server any request that is long
enough. `Job.Underway.isSome_receive_iff` says so of what each of them makes of a frame,
and so it is told which strings a session answers as ignored (`Session.Reachable.ignored_iff`).
A check comes to nothing just when it comes before all that the session waits for
(`Session.Reachable.check_eq_iff`).
-/
import GnssAiding.Proofs.Session.Harmless
import GnssAiding.Proofs.Session.Silence
import GnssAiding.Proofs.Transfer.Arrival
import Mathlib.Tactic.SplitIfs

namespace GnssAiding

open Turn

/-! ## Messages -/

theorem Head.eq_ofPayload_iff {h : Head} {p : Bytes} (hp : p.length = 4) :
    h = .ofPayload p ↔ p = h.bytes := by
  constructor
  · rintro rfl
    rw [Head.bytes_ofPayload, List.take_left' hp]
  · rintro rfl
    rfl

namespace Transfer

variable {q : Queue} {f : Frame} {m : Message}

/-- The frame acknowledges or refuses the message: an assistance message by its id and the
head of its payload, one of legacy aiding by its id alone. -/
inductive Concerns (f : Frame) (m : Message) : Prop
  | assistance {v} (hf : f.Acknowledges m v) (hm : m.frame.cls = MessageClass.mga)
  | legacy {rest} (hf : f.kind? = some .ack ∨ f.kind? = some .nak)
    (hp : f.payload = MessageClass.aid :: m.frame.id :: rest)
    (hm : m.frame.cls = MessageClass.aid)

theorem exists_acknowledges_iff :
    (∃ v, f.Acknowledges m v) ↔ f.kind? = some .mgaAck ∧ 8 ≤ f.payload.length ∧
      f.payload.getD 3 0 = m.frame.id ∧ (f.payload.drop 4).take 4 = m.head.bytes := by
  constructor
  · rintro ⟨v, hv⟩
    exact ⟨hv.kind, hv.length, hv.id, hv.head⟩
  · rintro ⟨hkind, hlength, hid, hhead⟩
    by_cases htype : f.payload.getD 0 0 = 1
    · exact ⟨.accepted, hkind, hlength, hid, hhead, iff_of_true htype rfl, nofun⟩
    · refine ⟨.refused (f.payload.getD 2 0), hkind, hlength, hid, hhead,
        iff_of_false htype nofun, ?_⟩
      rintro code ⟨⟩
      rfl

theorem matchesAck_echo_iff (hl : 8 ≤ f.payload.length) :
    m.matchesAck (f.payload.getD 3 0) ((f.payload.drop 4).take 4) = true ↔
      m.state = .waitingForAck ∧ m.frame.cls = MessageClass.mga ∧
        f.payload.getD 3 0 = m.frame.id ∧ (f.payload.drop 4).take 4 = m.head.bytes := by
  have hhead : ((f.payload.drop 4).take 4).length = 4 := by
    rw [List.length_take, List.length_drop]
    omega
  simp only [Message.matchesAck, hhead, Head.eq_ofPayload_iff hhead, Bool.and_eq_true,
    decide_eq_true_eq, beq_iff_eq, Nat.le_refl, and_true, and_assoc, eq_comm (a := m.frame.id)]

theorem mem_waiting : m ∈ q.waiting ↔ m ∈ q.messages ∧ m.state = .waitingForAck := by
  simp [Queue.waiting]

theorem isSome_map_findIdx? {α β} (p : α → Bool) (g : Nat → β) (as : List α) :
    ((as.findIdx? p).map g).isSome = true ↔ ∃ a ∈ as, p a = true := by
  rw [Option.isSome_map, List.findIdx?_isSome, List.any_eq_true]

theorem isSome_aidVerdict?_iff (reason : Option FailureReason) :
    (aidVerdict? q f.payload reason).isSome = true ↔
      ∃ m ∈ q.waiting, m.frame.cls = MessageClass.aid ∧
        ∃ rest, f.payload = MessageClass.aid :: m.frame.id :: rest := by
  unfold aidVerdict?
  split
  · next cls id rest hp =>
    by_cases hcls : cls = MessageClass.aid
    · subst hcls
      rw [if_pos rfl, isSome_map_findIdx?]
      simp only [Message.matchesAidAck, Bool.and_eq_true, decide_eq_true_eq, beq_iff_eq,
        mem_waiting, hp, List.cons.injEq, true_and, exists_and_left, exists_eq', and_true,
        and_assoc, eq_comm (a := id)]
    · rw [if_neg hcls]
      simp [hp, hcls]
  · next hp => simpa using fun m _ _ rest h => hp _ _ rest h

theorem concerns_iff_of_mgaAck (hk : f.kind? = some .mgaAck) :
    Concerns f m ↔ 8 ≤ f.payload.length ∧ m.frame.cls = MessageClass.mga ∧
      f.payload.getD 3 0 = m.frame.id ∧ (f.payload.drop 4).take 4 = m.head.bytes := by
  constructor
  · intro h
    cases h with
    | assistance hf hm =>
      obtain ⟨-, hlength, hecho⟩ := exists_acknowledges_iff.1 ⟨_, hf⟩
      exact ⟨hlength, hm, hecho⟩
    | legacy hf => simp [hk] at hf
  · rintro ⟨hlength, hm, hecho⟩
    obtain ⟨v, hv⟩ := exists_acknowledges_iff.2 ⟨hk, hlength, hecho⟩
    exact .assistance hv hm

theorem concerns_iff_of_plain (hk : f.kind? = some .ack ∨ f.kind? = some .nak) :
    Concerns f m ↔ m.frame.cls = MessageClass.aid ∧
      ∃ rest, f.payload = MessageClass.aid :: m.frame.id :: rest := by
  constructor
  · intro h
    cases h with
    | assistance hf => simp [hf.kind] at hk
    | legacy _ hp hm => exact ⟨hm, _, hp⟩
  · rintro ⟨hm, rest, hp⟩
    exact .legacy hk hp hm

/-- A frame tells something if it concerns a message in flight. -/
theorem isSome_verdict?_iff :
    (verdict? q f).isSome = true ↔ ∃ m ∈ q.waiting, Concerns f m := by
  unfold verdict?
  split
  · next hk =>
    unfold mgaVerdict?
    simp only [concerns_iff_of_mgaAck hk]
    by_cases hl : 8 ≤ f.payload.length
    · rw [if_pos hl, isSome_map_findIdx?]
      simp only [matchesAck_echo_iff hl, mem_waiting, hl, true_and, and_assoc]
    · rw [if_neg hl]
      simp [hl]
  · next hk =>
    simp only [concerns_iff_of_plain (.inl hk)]
    exact isSome_aidVerdict?_iff _
  · next hk =>
    simp only [concerns_iff_of_plain (.inr hk)]
    exact isSome_aidVerdict?_iff _
  · next hack haid hnak =>
    refine iff_of_false Bool.false_ne_true ?_
    rintro ⟨m, -, hf | ⟨hf | hf, -, -⟩⟩
    · exact hack hf.kind
    · exact haid hf
    · exact hnak hf

end Transfer

/-! ## What a job expects -/

/-- The job takes the frame. -/
def Job.Expects (f : Frame) : Job → Prop
  | none => False
  | messages t => ∃ m ∈ t.queue.waiting, Transfer.Concerns f m
  | flash t => ∃ b r, t.blocks[t.current]? = some b ∧ Flash.Reply.parse? f = some r ∧
      (r.verdict = .accepted → r.sequence = Flash.stopSequence ∨ r.sequence = b.sequence)
  | legacyFlash _ => ∃ r, Legacy.Reply.parse? f = some r
  | server _ => Legacy.Server.Addressed f

section

variable {c : Context} {f : Frame}

theorem Flash.Transfer.isSome_receive_iff {t : Flash.Transfer} {b : Flash.Block}
    (hb : t.blocks[t.current]? = some b) (ha : b.awaiting = true) :
    (t.receive c f).isSome = true ↔ ∃ r, Flash.Reply.parse? f = some r ∧
      (r.verdict = .accepted → r.sequence = stopSequence ∨ r.sequence = b.sequence) := by
  unfold receive
  rw [Reply.read_eq]
  cases hr : Reply.parse? f with
  | none => simp
  | some r =>
    simp only [Checked.get_eq hb, ha, if_true, answer, Option.some.injEq, exists_eq_left']
    split
    · next hv =>
      simp only [hv, true_implies]
      split_ifs with hstop hcurrent
      · simp [hstop]
      · cases b.content <;> simp [hcurrent]
      · simp [hstop, hcurrent]
    · next hv => simp [hv]
    · next hv => simp [hv]
    · next hv => simp [hv]

theorem Job.Underway.isSome_receive_iff {job : Job} (h : job.Underway c.settings) :
    (job.receive c f).isSome = true ↔ job.Expects f := by
  cases job with
  | none => exact h.elim
  | messages t =>
    rw [Job.receive, Option.isSome_map, Transfer.receive_eq, if_pos h.1.needsAcks,
      Option.isSome_map]
    exact Transfer.isSome_verdict?_iff
  | flash t =>
    obtain ⟨chunks, b, hb⟩ := h
    rw [Job.receive, Option.isSome_map, Flash.Transfer.isSome_receive_iff hb.current hb.awaiting]
    simp [Job.Expects, hb.current]
  | legacyFlash p =>
    rw [Job.receive, Option.isSome_map, Job.Expects]
    constructor
    · intro hsome
      obtain ⟨turn, hturn⟩ := Option.isSome_iff_exists.1 hsome
      obtain ⟨r, -, -, -, hr, -⟩ := Legacy.Push.receive_comes h hturn
      exact ⟨r, hr⟩
    · rintro ⟨r, hr⟩
      obtain ⟨turn, hturn⟩ := Legacy.Push.Underway.exists_receive h hr
      rw [hturn]
      rfl
  | server s =>
    rw [Job.receive, Option.isSome_map, s.receive_eq]
    split_ifs with hf
    · exact iff_of_true rfl hf
    · exact iff_of_false Bool.false_ne_true hf

end

/-! ## Checks that come early -/

/-- Nothing is overdue just when all that is in flight has its deadline ahead. -/
theorem Queue.overdue_eq_nil_iff {q : Queue} {now : Nat} :
    q.overdue now = [] ↔ ∀ m ∈ q.waiting, now < m.deadline := by
  rw [List.eq_nil_iff_forall_not_mem]
  constructor
  · intro hnone m hm
    obtain ⟨hmem, hstate⟩ := Transfer.mem_waiting.1 hm
    obtain ⟨i, hi⟩ := List.mem_iff_getElem?.1 hmem
    refine Nat.lt_of_not_le fun hdue => hnone i (mem_overdue.2 ⟨m, hi, ?_⟩)
    simp [Message.overdue, hstate, hdue]
  · intro hlater i hi
    obtain ⟨m, hm, hover⟩ := mem_overdue.1 hi
    simp only [Message.overdue, Bool.and_eq_true, decide_eq_true_eq] at hover
    have hwaiting := Transfer.mem_waiting.2 ⟨List.mem_of_getElem? hm, hover.1⟩
    exact absurd hover.2 (Nat.not_le_of_lt (hlater m hwaiting))

/-- A check that comes before all deadlines does nothing. -/
theorem Job.Underway.checkTimeouts_early {c : Context} {job : Job} (h : job.Underway c.settings)
    (hd : ∀ d ∈ job.deadlines, c.now < d) : job.checkTimeouts c = ⟨[], .ok (job, .running)⟩ := by
  cases job with
  | none => exact h.elim
  | messages t =>
    have hnone : t.queue.overdue c.now = [] :=
      Queue.overdue_eq_nil_iff.2 fun m hm => hd m.deadline (List.mem_map_of_mem hm)
    have hcheck : t.checkTimeouts c = pure (t, .running) := by
      rw [Transfer.checkTimeouts, hnone, Transfer.sweep, h.2]
    rw [Job.checkTimeouts, hcheck]
    rfl
  | flash t =>
    obtain ⟨chunks, b, hb⟩ := h
    have hlater := hd b.deadline (by simp [deadlines, Flash.Transfer.pending?, hb.current])
    have hcheck : t.checkTimeouts c = pure (t, .running) := by
      rw [Flash.Transfer.checkTimeouts, Checked.get_eq hb.current]
      exact if_pos hlater
    rw [Job.checkTimeouts, hcheck]
    rfl
  | legacyFlash p =>
    have hcheck : p.checkTimeouts c = pure (p, .running) := by
      cases h.waits with
      | starting hp | stopping hp =>
        have hlater := hd p.deadline (by simp [deadlines, Legacy.Push.pending?, hp])
        simp [Legacy.Push.checkTimeouts, hp, Nat.not_le_of_lt hlater]
      | @sending b hp out =>
        have hlater := hd b.deadline (by simp [deadlines, Legacy.Push.pending?, hp, out.current])
        simp only [Legacy.Push.checkTimeouts, hp, Legacy.Push.blockTimedOut,
          Checked.get_eq out.current]
        exact if_pos hlater
    rw [Job.checkTimeouts, hcheck]
    rfl
  | server s => rfl

theorem Transfer.Lapses.eq_zero {c : Context} {n : Nat} {t u : Transfer}
    (h : Lapses c n t [] u) : n = 0 := by
  generalize hacts : ([] : List Action) = acts at h
  cases h with
  | nil => rfl
  | cons h hs =>
    obtain ⟨hfirst, -⟩ := List.append_eq_nil_iff.1 hacts.symm
    cases h with
    | givenUp => cases hfirst
    | sentAgain => cases hfirst

/-- A check that does nothing comes before all deadlines. -/
theorem Job.Lapses.early {c : Context} {job next : Job} (h : Lapses c job [] next .running) :
    ∀ d ∈ job.deadlines, c.now < d := by
  intro d hd
  generalize hacts : ([] : List Action) = acts at h
  generalize hstep : Step.running = step at h
  cases h with
  | server => cases hd
  | @messages t u n _ _ ht h hn hs =>
    subst hacts
    obtain ⟨m, hm, rfl⟩ := List.mem_map.1 hd
    have hnone : t.queue.overdue c.now = [] := by
      refine Decidable.not_not.1 fun hne => ?_
      exact absurd h.eq_zero (Nat.ne_of_gt (hn hne))
    exact Queue.overdue_eq_nil_iff.1 hnone m hm
  | @flash chunks t u b _ _ ht h =>
    rw [deadlines, Flash.Transfer.pending?, ht.current] at hd
    cases h with
    | early hlater =>
      cases List.mem_singleton.1 hd
      exact hlater
    | nudged | resent => cases hacts
    | givenUp => cases hstep
  | @legacyFlash p q _ _ hp h =>
    cases h with
    | stopEarly hstopped hlater =>
      rw [deadlines, Legacy.Push.pending?_stopped hstopped] at hd
      cases List.mem_singleton.1 hd
      exact hlater
    | early hphase hb hlater =>
      simp only [deadlines, Legacy.Push.pending?, hphase, hb, Option.map_some, Option.toList_some,
        List.mem_singleton] at hd
      rwa [hd]
    | stopAgain | stopGivenUp | nudged => cases hacts
    | resent => simp [Legacy.Push.transmission] at hacts
    | givenUp => cases hstep

/-! ## Sessions -/

namespace Session

/-- The session takes the string: it is at work, and the string is a frame that its job
expects. -/
def Expects (s : Session) (data : Bytes) : Prop :=
  s.state = .processing ∧ ∃ f, Frame.parse? data = some f ∧ s.job.Expects f

section

variable {s : Session} {now : Nat} {data : Bytes}

theorem Reachable.receive_unexpected (h : Reachable s) (hn : ¬ s.Expects data) :
    s.receive now data = s.accept .ignored := by
  by_cases hp : s.state = .processing
  · obtain ⟨settings, hs, hj⟩ := h.busy hp
    cases hf : Frame.parse? data with
    | none => exact receive_of_not_frame hf
    | some f =>
      have hnone : s.job.receive ⟨settings, now⟩ f = none := by
        rw [← Option.not_isSome_iff_eq_none, hj.isSome_receive_iff]
        exact fun he => hn ⟨hp, f, hf, he⟩
      rw [receive_of_frame hp hs hf, hnone]
      rfl
  · exact if_pos hp

/-- What is expected is consumed, or a fault is met. -/
theorem Reachable.receive_expected (h : Reachable s) (he : s.Expects data) :
    (s.receive now data).result ≠ .ok .ignored := by
  obtain ⟨hp, f, hf, he⟩ := he
  obtain ⟨settings, hs, hj⟩ := h.busy hp
  obtain ⟨turn, hturn⟩ := Option.isSome_iff_exists.1
    ((hj.isSome_receive_iff (c := ⟨settings, now⟩)).2 he)
  rw [receive_of_frame hp hs hf, hturn, Option.elim_some]
  rcases s.advance_cases turn Disposition.consumed with ⟨_, _, -, hr⟩ | ⟨_, _, _, _, -, -, hr⟩ |
    ⟨_, _, -, hr⟩
  all_goals
    rw [hr]
    intro h
    cases h

theorem Reachable.perform_unexpected (h : Reachable s) (hn : ¬ s.Expects data) :
    s.perform now (.receive data) = ⟨s, [], .ok (.disposition .ignored)⟩ := by
  rw [perform, h.receive_unexpected hn]
  rfl

theorem result_map_disposition {o : Outcome Disposition} {d : Disposition} :
    (o.map Answer.disposition).result = .ok (.disposition d) ↔ o.result = .ok d := by
  obtain ⟨s, acts, r⟩ := o
  cases r <;> simp [Outcome.map, Except.map]

theorem Reachable.ignored_iff (h : Reachable s) :
    (s.perform now (.receive data)).result = .ok (.disposition .ignored) ↔ ¬ s.Expects data := by
  rw [perform, result_map_disposition]
  constructor
  · intro hignored he
    exact h.receive_expected he hignored
  · intro hn
    rw [h.receive_unexpected hn]
    rfl

/-- A check changes nothing and does nothing just when it comes before all deadlines. -/
theorem Reachable.check_eq_iff (h : Reachable s) :
    s.perform now .checkTimeouts = ⟨s, [], .ok .done⟩ ↔ ∀ d ∈ s.job.deadlines, now < d := by
  by_cases hp : s.state = .processing
  · obtain ⟨settings, hs, hj⟩ := h.busy hp
    rw [perform, checkTimeouts_eq_advance hp hs, map_advance]
    constructor
    · intro heq
      obtain ⟨acts, next, step, hturn, hlapses⟩ :=
        Job.checkTimeouts_comes (c := ⟨settings, now⟩) hj
      rcases s.advance_cases (s.job.checkTimeouts ⟨settings, now⟩) Answer.done with
        ⟨acts', job, hok, hr⟩ | ⟨acts', job, step', e, -, -, hr⟩ | ⟨acts', f, -, hr⟩
      · have hnone : acts' = [] := congrArg Outcome.actions (hr.symm.trans heq)
        have hsame := (hturn.eq_of_ok (congrArg Turn.result hok)).symm.trans hok
        subst hnone
        cases hsame
        exact hlapses.early
      · have hnone := congrArg Outcome.actions (hr.symm.trans heq)
        simp at hnone
      · cases congrArg Outcome.result (hr.symm.trans heq)
    · intro hd
      rw [hj.checkTimeouts_early hd]
      obtain ⟨state, settings, job⟩ := s
      cases hp
      rfl
  · rw [h.sound.job_eq_none hp]
    simp [perform, checkTimeouts, hp, accept, Outcome.map, Except.map, Job.deadlines]

end

end Session

/-! ## Behind the lock -/

namespace Line

open Session (Reachable)

variable {l : Line}

theorem call_unchanged {now : Nat} {c : Session.Call} {r : Except Failure Session.Answer}
    (hp : l.poisoned = false) (hr : ∀ f, r ≠ .error (.fault f))
    (h : l.session.perform (l.clock.reading now) c = ⟨l.session, [], r⟩) :
    l.call now c = (⟨r, [], []⟩, l) := by
  rw [call, hp, if_neg Bool.false_ne_true, h]
  exact conclude_unchanged hp hr

/-- **What is ignored changes nothing, and neither does a check that comes early.** Take
any session that calls lead to. A string is answered as ignored just when the session does
not expect it, and then that is all that comes of it: the session is as it was, nothing is
written and no event is reported. A check of the timeouts does nothing and changes nothing
just when the clock is before every deadline of the running transfer. Behind the lock the
same leaves everything as it is; where the lock is poisoned, a check is refused. -/
theorem ignored_inert :
    (∀ s, Reachable s → ∀ now data,
      ((s.perform now (.receive data)).result = .ok (.disposition .ignored) ↔ ¬ s.Expects data) ∧
      (¬ s.Expects data →
        s.perform now (.receive data) = ⟨s, [], .ok (.disposition .ignored)⟩)) ∧
    (∀ s, Reachable s → ∀ now,
      s.perform now .checkTimeouts = ⟨s, [], .ok .done⟩ ↔ ∀ d ∈ s.job.deadlines, now < d) ∧
    ∀ l, Relation.ReflTransGen Next fresh l → ∀ now,
      (∀ data, (l.call now (.receive data)).1.result = .ok (.disposition .ignored) →
        l.call now (.receive data) = (⟨.ok (.disposition .ignored), [], []⟩, l)) ∧
      ((∀ d ∈ l.session.job.deadlines, l.clock.reading now < d) →
        l.call now .checkTimeouts =
          if l.poisoned then l.refused .lockPoisoned else (⟨.ok .done, [], []⟩, l)) := by
  refine ⟨fun s hs now data => ⟨hs.ignored_iff, hs.perform_unexpected⟩,
    fun s hs now => hs.check_eq_iff, fun l hl now => ⟨fun data hignored => ?_, fun hd => ?_⟩⟩
  · have hp : l.poisoned = false := by
      refine Bool.eq_false_iff.2 fun hp => ?_
      simp [call, hp, refused] at hignored
    rw [call_result hp, (session_reachable hl).ignored_iff] at hignored
    exact call_unchanged hp (by simp) ((session_reachable hl).perform_unexpected hignored)
  · by_cases hp : l.poisoned = true
    · rw [call, if_pos hp, if_pos hp]
    · rw [if_neg hp]
      exact call_unchanged (Bool.eq_false_iff.2 hp) (by simp)
        ((session_reachable hl).check_eq_iff.2 hd)

/-- The first of two messages is in flight until 100, the second one has not been sent, and
is acknowledged already; a server gets a part of a request. -/
theorem ignored_inert_pair :
    let stray : Bytes := (Message.answer .accepted (.ofLocated 1 ⟨16, Transfer.almanac 2⟩)).bytes
    let s := Session.pairSession
    Reachable s ∧ s.perform 50 (.receive stray) = ⟨s, [], .ok (.disposition .ignored)⟩ ∧
      (∀ d ∈ s.job.deadlines, 99 < d) ∧ s.perform 99 .checkTimeouts = ⟨s, [], .ok .done⟩ ∧
      s.perform 100 .checkTimeouts ≠ ⟨s, [], .ok .done⟩ ∧
      Relation.ReflTransGen Next fresh servingLine ∧
      servingLine.call 5 (.receive (Session.lastWords.bytes.take 9)) =
        (⟨.ok (.disposition .ignored), [], []⟩, servingLine) ∧
      servingLine.call 5 .checkTimeouts = (⟨.ok .done, [], []⟩, servingLine) := by
  intro stray s
  obtain ⟨hreceive, hcheck, hline⟩ := ignored_inert
  have hs : Reachable s := Session.pairSession_reachable
  have hearly : ∀ d ∈ s.job.deadlines, 99 < d := by decide
  have hlate : ¬ ∀ d ∈ s.job.deadlines, 100 < d := by decide
  obtain ⟨hiff, hsame⟩ := hreceive s hs 50 stray
  obtain ⟨hignored, hquiet⟩ := hline servingLine servingLine_reachable 5
  exact ⟨hs, hsame (hiff.1 rfl), hearly, (hcheck s hs 99).2 hearly,
    fun heq => hlate ((hcheck s hs 100).1 heq), servingLine_reachable, hignored _ rfl,
    hquiet (by decide)⟩

end Line

end GnssAiding
