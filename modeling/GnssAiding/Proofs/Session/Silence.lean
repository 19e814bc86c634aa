/-
A silent receiver never hangs a transfer.

A check of the timeouts expires when the clock is at or past everything that
the session waits for. Each such check ends the transfer or leaves less of it
(`Job.Nears`), and what is left is never nothing while the transfer goes on. So
a run of calls in which the receiver is silent (`Session.Silent`) holds only so
many of them before the one that ends the transfer.
-/
import GnssAiding.Proofs.Session.Working

namespace GnssAiding

/-! ## Jobs -/

namespace Job

/-- The clock readings from which what the job waits for is overdue. -/
def deadlines : Job → List Nat
  | messages t => t.queue.waiting.map (·.deadline)
  | flash t => t.pending?.toList
  | legacyFlash p => p.pending?.toList
  | none | server _ => []

/-- How a transfer ends when the receiver is silent. -/
def farewell? : Job → Option Event
  | messages _ => some .finish
  | flash _ | legacyFlash _ => some (.terminated .receiverNotResponding)
  | none | server _ => .none

/-- The most that a transfer can have left with `limit` retries: `limit + 1` for
each of its messages, twice that for a block in flash, and for a legacy file
what its phase allows. -/
def patience (limit : Nat) : Job → Nat
  | messages t => t.queue.messages.length * (limit + 1)
  | flash _ => 2 * (limit + 1)
  | legacyFlash p => p.patience limit
  | none | server _ => 0

/-- How often what the job waits for may still be overdue. -/
def left (limit : Nat) : Job → Nat
  | messages t => t.queue.left limit
  | flash t => t.left limit
  | legacyFlash p => p.left limit
  | none | server _ => 0

/-- A transfer that is underway has something left, and no more than its patience. -/
theorem Underway.left_bounds {s : Settings} {job : Job} {e : Event} (h : job.Underway s)
    (he : job.farewell? = some e) :
    0 < job.left s.retries ∧ job.left s.retries ≤ job.patience s.retries := by
  cases job with
  | none | server => cases he
  | messages t => exact ⟨h.1.left_pos h.2, t.queue.left_le _⟩
  | flash t =>
    obtain ⟨chunks, b, hb⟩ := h
    exact hb.left_bounds
  | legacyFlash p => exact Legacy.Push.Underway.left_bounds h

/-- If all that the transfer waits for is overdue, it ends or is nearer its end. -/
def Nears (c : Context) (job job' : Job) (step : Step) : Prop :=
  (∀ d ∈ job.deadlines, d ≤ c.now) → ∀ e, job.farewell? = some e →
    step.end? = some e ∨ step = .running ∧ job'.farewell? = some e ∧
      job'.left c.settings.retries < job.left c.settings.retries

/-- A check at which all is overdue ends the transfer or brings it nearer its end. -/
theorem Lapses.nears {c : Context} {job next : Job} {acts : List Action} {step : Step}
    (h : Lapses c job acts next step) (hrun : job.Underway c.settings) :
    Nears c job next step := by
  intro hd e he
  cases h with
  | server => cases he
  | @messages t u n _ _ ht h hn hs =>
    cases he
    have hdue : ∀ m ∈ t.queue.waiting, m.deadline ≤ c.now :=
      fun m hm => hd _ (List.mem_map_of_mem hm)
    have hless := h.left_lt ht (hn (ht.overdue_ne_nil hrun.2 hdue))
    subst hs
    unfold Queue.step
    split
    · exact .inl rfl
    · exact .inr ⟨rfl, rfl, hless⟩
  | flash ht h =>
    cases he
    rcases h.gives_up_or_left_lt ht.current (fun d hp => hd d (by simp [deadlines, hp])) with
      rfl | ⟨rfl, hless⟩
    · exact .inl rfl
    · exact .inr ⟨rfl, rfl, hless⟩
  | legacyFlash hp h =>
    cases he
    rcases h.gives_up_or_left_lt (fun d hp => hd d (by simp [deadlines, hp])) with
      rfl | ⟨rfl, hless⟩
    · exact .inl rfl
    · exact .inr ⟨rfl, rfl, hless⟩

end Job

/-! ## Sessions -/

/-- The call ends the session's work and says so last. -/
structure Outcome.EndsWith {α} (o : Outcome α) (e : Event) : Prop where
  idle : o.session.state = .idle
  last : o.events.getLast? = some e

theorem Outcome.EndsWith.map {α β} {o : Outcome α} {e : Event} {f : α → β} (h : o.EndsWith e) :
    (o.map f).EndsWith e := ⟨h.idle, h.last⟩

namespace Session

/-- All that the session waits for is overdue at `now`. -/
def Expired (s : Session) (now : Nat) : Prop := ∀ d ∈ s.job.deadlines, d ≤ now

instance (s : Session) (now : Nat) : Decidable (s.Expired now) :=
  inferInstanceAs (Decidable (∀ _ ∈ _, _))

/-- The calls lead from one session to the other while the receiver is silent:
the timeouts are checked when they have expired, and no frame is consumed. -/
inductive Silent : Session → List (Nat × Call) → Session → Prop
  | nil (s) : Silent s [] s
  | check {s t now calls} (hd : s.Expired now) (hc : (s.perform now .checkTimeouts).Completes)
    (h : Silent (s.perform now .checkTimeouts).session calls t) :
    Silent s ((now, .checkTimeouts) :: calls) t
  | receive {s t now data calls}
    (hn : (s.perform now (.receive data)).result ≠ .ok (.disposition .consumed))
    (h : Silent (s.perform now (.receive data)).session calls t) :
    Silent s ((now, .receive data) :: calls) t

/-- How many of the calls are checks of the timeouts. -/
def checks (calls : List (Nat × Call)) : Nat :=
  calls.countP fun call => decide (call.2 = .checkTimeouts)

theorem checks_check (now : Nat) (calls : List (Nat × Call)) :
    checks ((now, .checkTimeouts) :: calls) = checks calls + 1 := by
  simp [checks]

theorem checks_receive (now : Nat) (data : Bytes) (calls : List (Nat × Call)) :
    checks ((now, .receive data) :: calls) = checks calls := by
  simp [checks]

/-- The session is at work on a transfer that ends with `e` if the receiver is
silent, after at most `n` checks. -/
structure Waiting (s : Session) (settings : Settings) (e : Event) (n : Nat) : Prop where
  processing : s.state = .processing
  configured : s.settings = some settings
  underway : s.job.Underway settings
  farewell : s.job.farewell? = some e
  left : s.job.left settings.retries ≤ n

variable {s : Session} {settings : Settings} {e : Event} {n now : Nat}

/-! ### Turns of the job -/

/-- A check meets no fault if the clock can show the deadlines it sets. -/
theorem checkTimeouts_completes (hp : s.state = .processing) (hs : s.settings = some settings)
    (hj : s.job.Underway settings) (hc : Context.Fits ⟨settings, now⟩) :
    (s.perform now .checkTimeouts).Completes := by
  obtain ⟨acts, job, step, hturn, -⟩ := Job.checkTimeouts_comes (c := ⟨settings, now⟩) hj
  refine Outcome.completes_map.2 ?_
  rw [checkTimeouts_eq_advance hp hs, hturn.eq hc]
  exact advance_completes

/-- A frame that is not consumed leaves the session as it is. -/
theorem receive_unchanged {data : Bytes}
    (h : (s.perform now (.receive data)).result ≠ .ok (.disposition .consumed)) :
    (s.perform now (.receive data)).session = s := by
  simp only [perform, Outcome.map] at h ⊢
  rcases receive_cases s now data with ⟨r, hr⟩ | ⟨settings, f, turn, -, -, -, -, hr⟩
  · rw [hr]
  · rw [hr] at h ⊢
    rcases s.advance_cases turn Disposition.consumed with ⟨_, _, -, hturn⟩ |
      ⟨_, _, _, _, -, -, hturn⟩ | ⟨_, _, -, hturn⟩
    · exact absurd (by rw [hturn]; rfl) h
    · exact absurd (by rw [hturn]; rfl) h
    · rw [hturn]

namespace Waiting

variable (h : s.Waiting settings e n)

include h

theorem pos : 0 < n := Nat.lt_of_lt_of_le (h.underway.left_bounds h.farewell).1 h.left

/-- A check at which everything has expired ends the transfer or brings it nearer its end. -/
theorem check (hd : s.Expired now) (hc : (s.perform now .checkTimeouts).Completes) :
    (s.perform now .checkTimeouts).EndsWith e ∨
      (s.perform now .checkTimeouts).session.Waiting settings e (n - 1) := by
  obtain ⟨acts, job, step, hturn, hlapses⟩ :=
    Job.checkTimeouts_comes (c := ⟨settings, now⟩) h.underway
  have heq := checkTimeouts_eq_advance h.processing h.configured now
  have hnear := hlapses.nears h.underway hd e h.farewell
  rcases s.advance_cases (s.job.checkTimeouts ⟨settings, now⟩) () with ⟨_, job', hok, hr⟩ |
    ⟨_, job', step', e', hok, he', hr⟩ | ⟨_, f, -, hr⟩
  · obtain ⟨rfl, rfl⟩ := Prod.mk.inj (hturn.eq_result (congrArg Turn.result hok))
    rcases hnear with he | ⟨-, he, hless⟩
    · cases he
    · have hsession : (s.perform now .checkTimeouts).session =
          { s with state := .processing, job := job } := congrArg Outcome.session (heq.trans hr)
      have hleft : job.left settings.retries ≤ n - 1 :=
        Nat.le_sub_one_of_lt (Nat.lt_of_lt_of_le hless h.left)
      rw [hsession]
      exact .inr ⟨rfl, h.configured, hlapses.underway, he, hleft⟩
  · obtain ⟨rfl, rfl⟩ := Prod.mk.inj (hturn.eq_result (congrArg Turn.result hok))
    rcases hnear with he | ⟨rfl, -, -⟩
    · cases he.symm.trans he'
      have hend : (s.checkTimeouts now).EndsWith e := by
        rw [heq, hr]
        exact ⟨rfl, by simp [Outcome.events, Action.event?]⟩
      exact .inl hend.map
    · cases he'
  · have hfault : (s.checkTimeouts now).result = .error (.fault f) := by rw [heq, hr]
    exact absurd hfault (Outcome.completes_map.1 hc f)

/-- The check that ends the transfer comes among the first `n`. -/
theorem ends {t : Session} {calls : List (Nat × Call)} (hsilent : Silent s calls t)
    (hn : n ≤ checks calls) :
    ∃ before now after u, calls = before ++ (now, .checkTimeouts) :: after ∧
      checks before < n ∧ Silent s before u ∧ u.state = .processing ∧
      (u.perform now .checkTimeouts).EndsWith e := by
  have hpos := h.pos
  induction hsilent generalizing n with
  | nil s => exact absurd hn (Nat.not_le_of_lt hpos)
  | @check s t now calls hd hc hsilent ih =>
    rw [checks_check] at hn
    rcases h.check hd hc with hend | hwait
    · exact ⟨[], now, calls, s, rfl, hpos, .nil s, h.processing, hend⟩
    · obtain ⟨before, later, after, u, rfl, hlt, hbefore, hu, hend⟩ :=
        ih hwait (Nat.sub_le_of_le_add hn) hwait.pos
      refine ⟨(now, .checkTimeouts) :: before, later, after, u, rfl, ?_, .check hd hc hbefore, hu,
        hend⟩
      rw [checks_check]
      omega
  | @receive s t now data calls hr hsilent ih =>
    rw [checks_receive] at hn
    have hs := receive_unchanged hr
    obtain ⟨before, later, after, u, rfl, hlt, hbefore, hu, hend⟩ := ih (hs.symm ▸ h) hn hpos
    refine ⟨(now, .receive data) :: before, later, after, u, rfl, ?_, .receive hr hbefore, hu, hend⟩
    rwa [checks_receive]

end Waiting

/-- **A silent receiver never hangs a transfer.** A session at work on a
transfer has settings, and its checks of the timeouts meet no fault while the
clock can show their deadlines. If from here on the receiver is silent, then
the transfer ends by the time that it has been checked as often as it has
patience for: a transfer of messages has finished, one into flash is terminated
because the receiver does not respond. -/
theorem silence_ends {s : Session} {e : Event} (hr : Reachable s) (hp : s.state = .processing)
    (he : s.job.farewell? = some e) :
    ∃ settings, s.settings = some settings ∧
      (∀ now, Context.Fits ⟨settings, now⟩ → (s.perform now .checkTimeouts).Completes) ∧
      ∀ calls t, Silent s calls t → s.job.patience settings.retries ≤ checks calls →
        ∃ before now after u, calls = before ++ (now, .checkTimeouts) :: after ∧
          checks before < s.job.patience settings.retries ∧ Silent s before u ∧
          u.state = .processing ∧ (u.perform now .checkTimeouts).EndsWith e := by
  obtain ⟨settings, hs, hj⟩ := hr.busy hp
  refine ⟨settings, hs, fun _ hc => checkTimeouts_completes hp hs hj hc, ?_⟩
  intro calls t hsilent hn
  have hwait : s.Waiting settings e (s.job.patience settings.retries) :=
    ⟨hp, hs, hj, he, (hj.left_bounds he).2⟩
  exact hwait.ends hsilent hn

/-- Each of the two messages is sent twice, and the fourth check ends the transfer. -/
theorem silence_ends_pair :
    ∃ calls t, Silent pairSession calls t ∧ Reachable pairSession ∧
      pairSession.state = .processing ∧ pairSession.job.farewell? = some .finish ∧
      pairSession.job.patience 1 = 4 ∧ checks calls = 4 ∧
      ∃ before now after u, calls = before ++ (now, .checkTimeouts) :: after ∧
        checks before < 4 ∧ Silent pairSession before u ∧ u.state = .processing ∧
        (u.perform now .checkTimeouts).EndsWith .finish := by
  let calls : List (Nat × Call) :=
    [(100, .checkTimeouts), (150, .receive []), (200, .checkTimeouts), (300, .checkTimeouts),
      (400, .checkTimeouts)]
  have hsilent : Silent pairSession calls (configured (some Transfer.pairSettings)) := by
    refine .check (by decide) (.of_ok rfl) (.receive (by decide) ?_)
    refine .check (by decide) (.of_ok rfl) (.check (by decide) (.of_ok rfl) ?_)
    exact .check (by decide) (.of_ok rfl) (.nil _)
  obtain ⟨settings, hs, -, hends⟩ := silence_ends (e := .finish) pairSession_reachable rfl rfl
  cases hs
  exact ⟨calls, _, hsilent, pairSession_reachable, rfl, rfl, rfl, rfl,
    hends calls _ hsilent (by decide)⟩

end Session

end GnssAiding
