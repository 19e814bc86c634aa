/-
A call that is refused changes nothing.

A refusal can come from the state of the session, from the size of the data or
from what it holds. Wherever it comes from, the outcome is the refusal alone: the
session with its settings and its job is as it was, and nothing was done to the host
(`perform_allOrNothing`). A refusal for want of settings would find the server taken
out of the session already; a session that calls lead to has settings when it has a
server, so this refusal never comes. So it is behind the lock, where a poisoned lock
refuses every call.
-/
import GnssAiding.Proofs.Session.Calls
import GnssAiding.Proofs.Session.Line

namespace GnssAiding

namespace Session

/-- If the call is refused, then that is all that comes of it. -/
def AllOrNothing {α} (s : Session) (o : Outcome α) : Prop :=
  ∀ e, o.result = .error (.refused e) → o = s.refuse e

section

variable {α : Type} {s : Session} {o : Outcome α}

theorem AllOrNothing.of_unchanged {r : Except Failure α} (h : o = ⟨s, [], r⟩) :
    s.AllOrNothing o := by
  subst h
  intro e hr
  dsimp only at hr
  subst hr
  rfl

/-- A turn may meet a fault, but once it is taken the call is not refused any more. -/
theorem run_allOrNothing (turn : Turn (Session × α)) : s.AllOrNothing (s.run turn) := by
  intro e hr
  unfold run at hr
  split at hr <;> cases hr

theorem configure_allOrNothing (s : Session) (settings : Settings) :
    s.AllOrNothing (s.perform 0 (.configure settings)) := by
  by_cases idle : s.state = .idle
  · intro e he
    simp only [perform, configure, if_pos idle] at he
    cases he
  · refine .of_unchanged (r := .error (.refused .alreadyRunning)) ?_
    simp only [perform, configure, if_neg idle]
    rfl

theorem perform_allOrNothing (he : s.Equipped) (now : Nat) (c : Call) :
    s.AllOrNothing (s.perform now c) := by
  have hdoes := perform_does he now c
  generalize s.perform now c = o at hdoes
  cases hdoes with
  | nothing => exact .of_unchanged rfl
  | turned => exact run_allOrNothing _
  | configured | started | stopped | handedBack | erased | told =>
    intro e hr
    cases hr

end

end Session

namespace Line

variable {l : Line}

theorem conclude_refuse {α} (hp : l.poisoned = false) (e : Error) :
    l.conclude l.host (l.session.refuse e : Outcome α) = l.refused e :=
  conclude_unchanged hp nofun

theorem conclude_refused {o : Outcome Session.Answer} {e : Error} (hp : l.poisoned = false)
    (ho : l.session.AllOrNothing o) (he : (l.conclude l.host o).1.result = .error (.refused e)) :
    l.conclude l.host o = l.refused e := by
  rw [conclude_result] at he
  rw [ho e he]
  exact conclude_refuse hp e

theorem call_refused (hl : l.session.Equipped) {now : Nat} {c : Session.Call} {e : Error}
    (h : (l.call now c).1.result = .error (.refused e)) : l.call now c = l.refused e := by
  unfold call at h ⊢
  by_cases hp : l.poisoned = true
  · rw [if_pos hp] at h ⊢
    cases h
    rfl
  · rw [if_neg hp] at h ⊢
    exact conclude_refused (Bool.eq_false_iff.2 hp) (Session.perform_allOrNothing hl _ c) h

theorem configure_refused {settings : Settings} {host : Host} {e : Error}
    (h : (l.configure settings host).1.result = .error (.refused e)) :
    l.configure settings host = l.refused e := by
  unfold configure at h ⊢
  by_cases hp : l.poisoned = true
  · rw [if_pos hp] at h ⊢
    cases h
    rfl
  · rw [if_neg hp] at h ⊢
    dsimp only at h ⊢
    have hall : l.session.AllOrNothing (l.session.perform 0 (.configure settings)) :=
      Session.configure_allOrNothing l.session settings
    cases hr : (l.session.perform 0 (.configure settings)).result with
    | ok a =>
      rw [hr] at h
      dsimp only at h
      rw [conclude_result, hr] at h
      cases h
    | error failure =>
      rw [hr] at h
      exact conclude_refused (Bool.eq_false_iff.2 hp) hall h

/-- **A refused call changes nothing.** If a call to a session that calls lead to is
refused, then the session is as it was, with its settings and its job, and nothing was
done to the host. Behind the lock, whatever the host has done before, a refusal leaves
everything as it is, a poisoned lock included: nothing goes to the receiver and the
listener hears of nothing. Letting go of a session is never refused. -/
theorem refused_unchanged :
    (∀ s, Session.Reachable s → ∀ now c e, (s.perform now c).result = .error (.refused e) →
      s.perform now c = ⟨s, [], .error (.refused e)⟩) ∧
    (∀ l, Relation.ReflTransGen Next fresh l → ∀ now c e,
      (l.call now c).1.result = .error (.refused e) →
        l.call now c = (⟨.error (.refused e), [], []⟩, l)) ∧
    (∀ (l : Line) settings host e, (l.configure settings host).1.result = .error (.refused e) →
      l.configure settings host = (⟨.error (.refused e), [], []⟩, l)) ∧
    ∀ (l : Line) e, l.release.1.result ≠ .error (.refused e) := by
  refine ⟨fun s hs now c e h => Session.perform_allOrNothing hs.equipped now c e h,
    fun l hl now c e h => call_refused (session_reachable hl).equipped h,
    fun l settings host e h => configure_refused h, fun l e h => ?_⟩
  unfold release at h
  split at h <;> cases h

/-- A transfer of two messages under way, and a listener that starts the session
again: no server is stopped, no settings are taken. A started session refuses what
is no legacy file, and refuses to stop when a time that is known to five seconds only has
poisoned the lock. -/
theorem refused_unchanged_pair :
    let host : Host := ⟨some ⟨true, true⟩, .host⟩
    let busy : Line := ⟨Session.pairSession, some host, false⟩
    let waiting : Line := ⟨⟨.waitingForData, some Transfer.pairSettings, .none⟩, some host, false⟩
    let poisoned : Line := ⟨waiting.session, some host, true⟩
    Session.Reachable busy.session ∧ Relation.ReflTransGen Next fresh waiting ∧
      Relation.ReflTransGen Next fresh poisoned ∧
      busy.session.perform 5 .stopServer =
        ⟨busy.session, [], .error (.refused (.invalidArgument .noServerRunning))⟩ ∧
      busy.configure .standard host = (⟨.error (.refused .alreadyRunning), [], []⟩, busy) ∧
      waiting.call 5 (.sendLegacyToFlash [0x00]) =
        (⟨.error (.refused .badData), [], []⟩, waiting) ∧
      poisoned.call 5 .stop = (⟨.error (.refused .lockPoisoned), [], []⟩, poisoned) := by
  intro host busy waiting poisoned
  let noon : TimeAdjustment := ⟨.absolute, 2024, 1, 2, 12, 0, 0, 0, 5000⟩
  have hbusy : Session.Reachable busy.session := Session.pairSession_reachable
  have hwaiting : Relation.ReflTransGen Next fresh waiting :=
    (Relation.ReflTransGen.single (.configure Transfer.pairSettings host)).tail (.call 0 .start)
  have hfault : (waiting.call 0 (.sendOffline [] noon none)).2 = poisoned := by decide
  have hpoisoned : Relation.ReflTransGen Next fresh poisoned :=
    hfault ▸ hwaiting.tail (.call 0 _)
  obtain ⟨hperform, hcall, hconfigure, -⟩ := refused_unchanged
  exact ⟨hbusy, hwaiting, hpoisoned, hperform busy.session hbusy 5 .stopServer _ rfl,
    hconfigure busy .standard host _ rfl,
    hcall waiting hwaiting 5 (.sendLegacyToFlash [0x00]) _ rfl,
    hcall poisoned hpoisoned 5 .stop _ rfl⟩

end Line

end GnssAiding
