/-
The lifecycle of a session, over every order of calls of which none meets a
fault.

`Session.Effect` says once what a call can do to a session that is sound, and
what it reports on the way (`perform_canHave`). The rest is read off it: a
sound session stays sound, a session at work keeps its settings, and a call
that ends the work says so once, as the last thing it says.
-/
import GnssAiding.Proofs.Session.Calls
import GnssAiding.Proofs.Transfer.History
import Mathlib.Logic.Relation

namespace GnssAiding

/-- The call meets no fault. -/
def Outcome.Completes {α} (o : Outcome α) : Prop := ∀ f, o.result ≠ .error (.fault f)

namespace Outcome

variable {α β : Type} {o : Outcome α} {f : α → β}

theorem Completes.of_ok {a : α} (h : o.result = .ok a) : o.Completes := by
  intro f hf
  rw [h] at hf
  cases hf

theorem Completes.of_refused {e : Error} (h : o.result = .error (.refused e)) : o.Completes := by
  intro f hf
  rw [h] at hf
  cases hf

@[simp]
theorem completes_map : (o.map f).Completes ↔ o.Completes := by
  obtain ⟨s, acts, r⟩ := o
  cases r <;> simp [Completes, map, Except.map]

end Outcome

theorem Step.isTerminal_of_end? {step : Step} {e : Event} (h : step.end? = some e) :
    e.isTerminal = true := by
  cases step with
  | running => cases h
  | finished | terminated =>
    cases h
    rfl

namespace Session

/-- A session is at work just when it holds a job. -/
def Sound (s : Session) : Prop := s.state = .processing ↔ s.job ≠ .none

/-- What a call that meets no fault can do to a session, with what it reports. -/
inductive Effect (s : Session) (c : Call) : List Event → Session → Prop
  | unchanged {es} (ongoing : ∀ e ∈ es, e.Ongoing) : Effect s c es s
  | configured (settings : Settings) (idle : s.state = .idle) :
      Effect s c [] { s with settings := some settings }
  | started (idle : s.state = .idle) : Effect s c [] { s with state := .waitingForData }
  | working {es} {job : Job} (active : s.state ≠ .idle) (held : job ≠ .none)
      (ongoing : ∀ e ∈ es, e.Ongoing) :
      Effect s c es { s with state := .processing, job := job }
  | ended {es} {e : Event} (active : s.state ≠ .idle) (other : c ≠ .stopServer)
      (ongoing : ∀ e ∈ es, e.Ongoing) (terminal : e.isTerminal = true) :
      Effect s c (es ++ [e]) { s with state := .idle, job := .none }
  | handedBack (active : s.state ≠ .idle) (this : c = .stopServer) :
      Effect s c [.legacy .serverStopped] { s with state := .idle, job := .none }

/-- The outcome is one that a call can have, if it meets no fault. -/
def CanHave {α} (s : Session) (c : Call) (o : Outcome α) : Prop :=
  o.Completes → Effect s c o.events o.session

theorem advance_completes {α} {s : Session} {acts : List Action} {r : Job × Step} {a : α} :
    (s.advance ⟨acts, .ok r⟩ a).Completes := .of_ok advance_result

/-! ## The effects of the calls -/

section Calls

variable {s : Session} {c : Call}

theorem CanHave.of_unchanged {α} {r : Except Failure α} : s.CanHave c ⟨s, [], r⟩ :=
  fun _ => .unchanged (List.forall_mem_nil _)

theorem Takes.working {c : Context} {call : Call} {turn : Turn (Job × Step)}
    (h : s.Takes c call turn) (hs : s.Sound) : Job.Working turn := by
  cases h with
  | begins _ hm => exact Job.start_working c (Call.make?_prepares hm _ rfl).ne_none
  | receives _ _ hturn => exact Job.receive_working hturn
  | checks hp => exact Job.checkTimeouts_working c (hs.1 hp)

theorem Takes.ne_idle {c : Context} {call : Call} {turn : Turn (Job × Step)}
    (h : s.Takes c call turn) : s.state ≠ .idle := by
  cases h with
  | begins hw => simp [hw]
  | receives hp | checks hp => simp [hp]

theorem Takes.ne_stopServer {c : Context} {call : Call} {turn : Turn (Job × Step)}
    (h : s.Takes c call turn) : call ≠ .stopServer := by
  rintro rfl
  cases h with
  | begins _ hm => cases hm

theorem closing_ongoing (job : Job) :
    ∀ e ∈ (closing job).filterMap Action.event?, e.Ongoing := by
  cases job with
  | server server => exact server.stop_ongoing.events
  | none | messages | flash | legacyFlash => exact List.forall_mem_nil _

theorem advance_canHave {α} {turn : Turn (Job × Step)} {a : α} (hw : Job.Working turn)
    (hs : s.state ≠ .idle) (hc : c ≠ .stopServer) : s.CanHave c (s.advance turn a) := by
  intro h
  have hes : ∀ e ∈ turn.actions.filterMap Action.event?, e.Ongoing := hw.ongoing.events
  rcases s.advance_cases turn a with ⟨acts, job, rfl, hr⟩ | ⟨acts, job, step, e, rfl, he, hr⟩ |
    ⟨acts, f, rfl, hr⟩
  · rw [hr]
    exact .working hs (hw.held job .running rfl) hes
  · rw [hr]
    simpa [Outcome.events, Action.event?] using
      Effect.ended hs hc hes (Step.isTerminal_of_end? he)
  · rw [hr] at h
    exact absurd rfl (h f)

/-- **A call that meets no fault has one of the six effects.** -/
theorem perform_canHave (hs : s.Sound) (he : s.Equipped) (now : Nat) (c : Call) :
    s.CanHave c (s.perform now c) := by
  have hdoes := perform_does he now c
  generalize s.perform now c = o at hdoes
  cases hdoes with
  | nothing => exact .of_unchanged
  | configured idle => exact fun _ => .configured _ idle
  | started idle => exact fun _ => .started idle
  | stopped active =>
    have hended : Effect s .stop (_ ++ [.terminated .hostCancel]) _ :=
      .ended active nofun (closing_ongoing s.job) rfl
    intro _
    simpa [Outcome.events, Action.event?] using hended
  | handedBack active => exact fun _ => .handedBack active rfl
  | erased => exact fun _ => .unchanged (List.forall_mem_nil _)
  | told => exact fun _ => .unchanged (List.forall_mem_singleton.2 rfl)
  | turned _ ht a => exact advance_canHave (ht.working hs) ht.ne_idle ht.ne_stopServer

end Calls

/-! ## What the effects keep -/

section Effects

variable {s t : Session} {c : Call} {es : List Event}

theorem Sound.job_eq_none (hs : s.Sound) (h : s.state ≠ .processing) : s.job = .none :=
  Decidable.not_not.1 fun hj => h (hs.2 hj)

theorem Effect.sound (h : Effect s c es t) (hs : s.Sound) : t.Sound := by
  cases h with
  | unchanged => exact hs
  | configured settings idle => exact hs
  | started idle =>
    have hj : s.job = .none := hs.job_eq_none (by simp [idle])
    simp [Sound, hj]
  | working active held => simp [Sound, held]
  | ended => simp [Sound]
  | handedBack => simp [Sound]

theorem Effect.settings_eq (h : Effect s c es t) (hs : s.state ≠ .idle) :
    t.settings = s.settings := by
  cases h with
  | configured settings idle => exact absurd idle hs
  | _ => rfl

/-- A fresh session, configured if there are settings. -/
def configured : Option Settings → Session
  | none => fresh
  | some settings => (fresh.configure settings).session

theorem Sound.eq_configured (hs : s.Sound) (h : s.state = .idle) : s = configured s.settings := by
  obtain ⟨state, settings, job⟩ := s
  dsimp only at h
  subst h
  have hj : job = .none := hs.job_eq_none (by simp)
  subst hj
  cases settings <;> rfl

/-- The call has stopped a server and handed its file back. -/
def HandsBack (c : Call) (o : Outcome Answer) : Prop := c = .stopServer ∧ ∃ a, o.result = .ok a

/-- What a call says about the end of the session's work. -/
structure TellsEnd (s : Session) (c : Call) (o : Outcome Answer) : Prop where
  once : o.events.countP Event.isTerminal ≤ 1
  last : ∀ e ∈ o.events, e.isTerminal = true →
    o.events.getLast? = some e ∧ o.session.state = .idle
  ended : s.state ≠ .idle → o.session.state = .idle → ¬ HandsBack c o →
    o.events.countP Event.isTerminal = 1
  handedBack : HandsBack c o → o.events = [.legacy .serverStopped] ∧ o.session.state = .idle

theorem countP_ongoing (h : ∀ e ∈ es, e.Ongoing) : es.countP Event.isTerminal = 0 := by
  rw [List.countP_eq_zero]
  intro e he
  exact Bool.eq_false_iff.1 (h e he)

theorem countP_ended {e : Event} (h : ∀ e ∈ es, e.Ongoing) (he : e.isTerminal = true) :
    (es ++ [e]).countP Event.isTerminal = 1 := by
  simp [countP_ongoing h, he]

theorem Effect.once (h : Effect s c es t) : es.countP Event.isTerminal ≤ 1 := by
  cases h with
  | unchanged ongoing => simp [countP_ongoing ongoing]
  | working _ _ ongoing => simp [countP_ongoing ongoing]
  | ended _ _ ongoing terminal => exact Nat.le_of_eq (countP_ended ongoing terminal)
  | _ => simp [Event.isTerminal]

theorem Effect.last (h : Effect s c es t) {e : Event} (he : e ∈ es) (ht : e.isTerminal = true) :
    es.getLast? = some e ∧ t.state = .idle := by
  have hnot (hes : ∀ e ∈ es, e.Ongoing) : False := Bool.eq_false_iff.1 (hes e he) ht
  cases h with
  | unchanged ongoing => exact (hnot ongoing).elim
  | working _ _ ongoing => exact (hnot ongoing).elim
  | ended _ _ ongoing =>
    rcases List.mem_append.1 he with hold | hnew
    · exact absurd ht (Bool.eq_false_iff.1 (ongoing e hold))
    · rw [List.mem_singleton] at hnew
      subst hnew
      exact ⟨List.getLast?_concat, rfl⟩
  | handedBack =>
    rw [List.mem_singleton] at he
    subst he
    cases ht
  | _ => cases he

theorem Effect.countP_eq_one (h : Effect s c es t) (hs : s.state ≠ .idle) (ht : t.state = .idle)
    (hc : c ≠ .stopServer) : es.countP Event.isTerminal = 1 := by
  cases h with
  | unchanged => exact absurd ht hs
  | configured settings idle => exact absurd idle hs
  | started idle => exact absurd idle hs
  | working => cases ht
  | ended _ _ ongoing terminal => exact countP_ended ongoing terminal
  | handedBack _ this => exact absurd this hc

theorem handsBack_of_idle (he : s.Equipped) {now : Nat} (hs : s.state ≠ .idle)
    (ht : (s.perform now .stopServer).session.state = .idle) :
    HandsBack .stopServer (s.perform now .stopServer) := by
  rcases stopServer_cases he with ⟨e, h⟩ | ⟨server, -, -, h⟩
  · simp only [perform, h] at ht
    exact absurd ht hs
  · refine ⟨rfl, .file server.file, ?_⟩
    simp only [perform, h]
    rfl

theorem events_of_handsBack (he : s.Equipped) {now : Nat} (h : HandsBack c (s.perform now c)) :
    (s.perform now c).events = [.legacy .serverStopped] ∧
      (s.perform now c).session.state = .idle := by
  obtain ⟨rfl, a, ha⟩ := h
  rcases stopServer_cases he with ⟨e, h⟩ | ⟨server, -, -, h⟩
  · simp only [perform, h] at ha
    cases ha
  · simp only [perform, h]
    exact ⟨rfl, rfl⟩

theorem perform_tellsEnd (hs : s.Sound) (he : s.Equipped) {now : Nat}
    (h : (s.perform now c).Completes) : s.TellsEnd c (s.perform now c) := by
  have heffect : Effect s c (s.perform now c).events (s.perform now c).session :=
    perform_canHave hs he now c h
  exact {
    once := heffect.once
    last := fun e hmem ht => heffect.last hmem ht
    ended := by
      intro hactive hidle hnot
      refine heffect.countP_eq_one hactive hidle ?_
      rintro rfl
      exact hnot (handsBack_of_idle he hactive hidle)
    handedBack := events_of_handsBack he }

end Effects

/-! ## Every order of calls -/

/-- A call that meets no fault leads from one session to the next. -/
def Next (s t : Session) : Prop :=
  ∃ now c, (s.perform now c).Completes ∧ (s.perform now c).session = t

/-- The sessions that calls lead to. -/
def Reachable : Session → Prop := Relation.ReflTransGen Next fresh

/-- Calls lead from one session to the other, which is not idle in between. -/
def Underway : Session → Session → Prop :=
  Relation.ReflTransGen fun s t => s.state ≠ .idle ∧ Next s t

theorem Next.equipped {s t : Session} (h : Next s t) (he : s.Equipped) : t.Equipped := by
  obtain ⟨now, c, -, rfl⟩ := h
  exact perform_equipped he c

theorem Next.sound {s t : Session} (h : Next s t) (hs : s.Sound) (he : s.Equipped) : t.Sound := by
  obtain ⟨now, c, hc, rfl⟩ := h
  exact (perform_canHave hs he now c hc).sound hs

theorem Reachable.equipped {s : Session} (h : Reachable s) : s.Equipped := by
  induction h with
  | refl => exact equipped_of_idle rfl
  | tail _ hnext ih => exact hnext.equipped ih

theorem Reachable.sound {s : Session} (h : Reachable s) : s.Sound := by
  induction h with
  | refl => simp [Sound, fresh]
  | tail hbefore hnext ih => exact hnext.sound ih (Reachable.equipped hbefore)

/-- The sessions of a span of work are reachable as its first one is. -/
theorem Underway.reachable {s t : Session} (h : Underway s t) (hs : Reachable s) : Reachable t := by
  induction h with
  | refl => exact hs
  | tail _ hnext ih => exact ih.tail hnext.2

theorem Underway.settings_eq {s t : Session} (h : Underway s t) (hs : Reachable s) :
    t.settings = s.settings := by
  induction h with
  | refl => rfl
  | tail hbefore hnext ih =>
    obtain ⟨hactive, now, c, hc, rfl⟩ := hnext
    have hr := Underway.reachable hbefore hs
    rw [← ih]
    exact (perform_canHave hr.sound hr.equipped now c hc).settings_eq hactive

/-- **The lifecycle of a session, after any calls that met no fault.** It is at
work just when it holds a job. When it is idle, nothing is left of what it was
at: it is the fresh session with its settings. Its settings stay what they are
until it is idle. A call tells the end of the work once, last, and whenever
there is one, unless it hands a file back. -/
theorem lifecycle {s : Session} (h : Reachable s) :
    (s.state = .processing ↔ s.job ≠ .none) ∧
    (s.state = .idle → s = configured s.settings) ∧
    (∀ t, Underway s t → t.settings = s.settings) ∧
    ∀ now c, (s.perform now c).Completes → s.TellsEnd c (s.perform now c) :=
  ⟨h.sound, h.sound.eq_configured, fun _ ht => ht.settings_eq h,
    fun _ _ hc => perform_tellsEnd h.sound h.equipped hc⟩

/-- A session that was configured, started and given the two messages of
`Transfer.pairData`, of which the first is on its way. -/
def pairSession : Session :=
  ⟨.processing, some Transfer.pairSettings, .messages
    ⟨⟨Transfer.pairData, [{ Message.ofLocated 0 ⟨0, Transfer.almanac 1⟩ with
          state := .waitingForAck
          deadline := 100 },
      .ofLocated 1 ⟨16, Transfer.almanac 2⟩], 1, 1, 0⟩, .windowed, 10⟩⟩

/-- A started session that is given the two messages becomes `pairSession`. -/
theorem sendOnline_pair {s : Session}
    (h : s = ⟨.waitingForData, some Transfer.pairSettings, .none⟩) :
    (s.perform 0 (.sendOnline Transfer.pairData none)).result = .ok .done ∧
      (s.perform 0 (.sendOnline Transfer.pairData none)).session = pairSession := by
  subst h
  have hjob : Job.ofOnline Transfer.pairSettings Transfer.pairData none =
      .ok (.messages Transfer.pairTransfer) := by
    change (do
      Job.checkSize Transfer.pairData
      let t ← Transfer.ofData Transfer.pairData Transfer.pairSettings
      pure (.messages t) : Except Failure Job) = _
    rw [Transfer.ofData_pair]
    rfl
  simp only [perform, sendOnline, begin, hjob]
  exact ⟨rfl, rfl⟩

theorem pairSession_reachable : Reachable pairSession := by
  let idle : Session := ⟨.idle, some Transfer.pairSettings, .none⟩
  let waiting : Session := ⟨.waitingForData, some Transfer.pairSettings, .none⟩
  have hconfigure : Next fresh idle := ⟨0, .configure Transfer.pairSettings, .of_ok rfl, rfl⟩
  have hstart : Next idle waiting := ⟨0, .start, .of_ok rfl, rfl⟩
  obtain ⟨hdone, hsession⟩ := sendOnline_pair (s := waiting) rfl
  have hsend : Next waiting pairSession :=
    ⟨0, .sendOnline Transfer.pairData none, .of_ok hdone, hsession⟩
  exact ((Relation.ReflTransGen.single hconfigure).tail hstart).tail hsend

theorem lifecycle_pair :
    Reachable pairSession ∧ pairSession.state = .processing ∧ pairSession.job ≠ .none ∧
      (pairSession.perform 5 .stop).Completes ∧
      pairSession.TellsEnd .stop (pairSession.perform 5 .stop) ∧
      Underway pairSession (pairSession.perform 5 .stop).session ∧
      (pairSession.perform 5 .stop).session = configured (some Transfer.pairSettings) := by
  have hr : Reachable pairSession := pairSession_reachable
  have hc : (pairSession.perform 5 .stop).Completes := .of_ok rfl
  have hu : Underway pairSession (pairSession.perform 5 .stop).session :=
    .single ⟨by decide, 5, .stop, hc, rfl⟩
  obtain ⟨hwork, _, hsettings, htells⟩ := lifecycle hr
  obtain ⟨_, hidle, _⟩ := lifecycle (hr.tail ⟨5, .stop, hc, rfl⟩)
  have hend : (pairSession.perform 5 .stop).session = configured (some Transfer.pairSettings) := by
    rw [hidle rfl, hsettings _ hu]
    rfl
  exact ⟨hr, rfl, hwork.1 rfl, hc, htells 5 .stop hc, hu, hend⟩

end Session

end GnssAiding
