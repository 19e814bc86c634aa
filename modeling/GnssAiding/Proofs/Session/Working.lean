/-
A session at work holds a job that is underway.

What no turn takes from a job that goes on (`Session.Sustained`) holds of the job of
every session at work (`Session.Reachable.job_of_sustained`). A turn that does not end a
job leaves it underway, so a session at work has settings, and its job is underway under
them (`Session.Busy`), after any calls whatever.
-/
import GnssAiding.Proofs.Session.Lifecycle
import GnssAiding.Proofs.Session.Turns

namespace GnssAiding

namespace Session

/-- The jobs that calls make have the property once they have begun, and no turn takes it
from a job that goes on. -/
structure Sustained (P : Settings → Job → Prop) : Prop where
  starts : ∀ {c : Context} {call : Call} {job next : Job},
    call.make? c.settings = some (.ok job) → (job.start c).result = .ok (next, .running) →
      P c.settings next
  receives : ∀ {c : Context} {job next : Job} {f : Frame} {turn : Turn (Job × Step)},
    P c.settings job → job.receive c f = some turn → turn.result = .ok (next, .running) →
      P c.settings next
  checks : ∀ {c : Context} {job next : Job},
    P c.settings job → (job.checkTimeouts c).result = .ok (next, .running) → P c.settings next

/-- If the session is at work, it has settings and its job has the property under them. -/
def AtWork (P : Settings → Job → Prop) (s : Session) : Prop :=
  s.state = .processing → ∃ settings, s.settings = some settings ∧ P settings s.job

section Sustained

variable {P : Settings → Job → Prop} {s : Session} {now : Nat} {call : Call}

theorem Takes.sustained {c : Context} {turn : Turn (Job × Step)} {next : Job}
    (hP : Sustained P) (hjob : s.state = .processing → P c.settings s.job)
    (h : s.Takes c call turn) (hnext : turn.result = .ok (next, .running)) :
    P c.settings next := by
  cases h with
  | begins hw hm => exact hP.starts hm hnext
  | receives hp _ hturn => exact hP.receives (hjob hp) hturn hnext
  | checks hp => exact hP.checks (hjob hp) hnext

theorem AtWork.of_ne (h : s.state ≠ .processing) : s.AtWork P := fun hp => absurd hp h

theorem AtWork.perform (hP : Sustained P) (he : s.Equipped) (h : s.AtWork P) :
    (s.perform now call).session.AtWork P := by
  have hdoes := perform_does he now call
  generalize s.perform now call = o at hdoes
  cases hdoes with
  | nothing => exact h
  | configured idle => exact .of_ne (by simp [idle])
  | started | stopped | handedBack => exact .of_ne (by simp)
  | erased | told => exact h
  | @turned settings _ turn hs ht a =>
    have hjob : s.state = .processing → P settings s.job := by
      intro hp
      obtain ⟨settings', hs', hjob⟩ := h hp
      cases hs.symm.trans hs'
      exact hjob
    rcases s.advance_cases turn a with ⟨acts, job, rfl, hr⟩ | ⟨_, _, _, _, -, -, hr⟩ | ⟨_, _, -, hr⟩
    · rw [hr]
      exact fun _ => ⟨settings, hs, ht.sustained hP hjob rfl⟩
    · rw [hr]
      exact .of_ne (by simp)
    · rw [hr]
      exact h

/-- **What all turns sustain holds of the job of every session at work**, after any calls
whatever. -/
theorem Reachable.job_of_sustained (hP : Sustained P) (h : Reachable s) : s.AtWork P := by
  induction h with
  | refl => exact .of_ne (by simp [fresh])
  | tail hbefore hnext ih =>
    obtain ⟨now, call, -, rfl⟩ := hnext
    exact ih.perform hP (Reachable.equipped hbefore)

end Sustained

/-- If the session is at work, it has settings and its job is underway under them. -/
def Busy (s : Session) : Prop :=
  s.state = .processing → ∃ settings, s.settings = some settings ∧ s.job.Underway settings

theorem sustained_underway : Sustained Job.Underway where
  starts hm := Job.start_sustains (Call.make?_prepares hm _ rfl) _
  receives h hturn := Job.receive_sustains h hturn _
  checks h := Job.checkTimeouts_sustains h _

theorem Reachable.busy {s : Session} (h : Reachable s) : s.Busy :=
  h.job_of_sustained sustained_underway

end Session

end GnssAiding
