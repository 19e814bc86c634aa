/-
A session behind its lock, whose listener may call it and whose lock may be
poisoned. All that the host and the listener do comes to calls that meet no
fault, so what holds of every reachable session holds here too.
-/
import GnssAiding.Proofs.Session.Lifecycle
import GnssAiding.Session.Line

namespace GnssAiding

namespace Session

theorem perform_reachable {s : Session} (h : Reachable s) {now : Nat} {c : Call}
    (hc : (s.perform now c).Completes) : Reachable (s.perform now c).session :=
  h.tail ⟨now, c, hc, rfl⟩

theorem start_reachable {s : Session} (h : Reachable s) : Reachable s.start.session := by
  have hc : s.start.Completes := by
    unfold start
    split
    · exact .of_refused rfl
    · split
      · exact .of_refused rfl
      · exact .of_ok rfl
  exact h.tail ⟨0, .start, Outcome.completes_map.2 hc, rfl⟩

end Session

namespace Line

open Session (Reachable)

/-- A listener that starts the session again makes one more call of it. -/
theorem deliver_reachable (listener : Listener) (es : List Event) {s : Session} (h : Reachable s) :
    Reachable (deliver listener es s).2 := by
  induction es generalizing s with
  | nil => exact h
  | cons e es ih =>
    simp only [deliver]
    apply ih
    split
    · exact Session.start_reachable h
    · exact h

theorem conclude_result {α} (l : Line) (host : Option Host) (o : Outcome α) :
    (l.conclude host o).1.result = o.result := by
  unfold Line.conclude
  dsimp only
  split
  · rfl
  · split
    · rfl
    · rfl

/-- Behind an open lock a call ends as the call of the session does. -/
theorem call_result {l : Line} (hp : l.poisoned = false) (now : Nat) (c : Session.Call) :
    (l.call now c).1.result = (l.session.perform (l.clock.reading now) c).result := by
  rw [call, hp, if_neg Bool.false_ne_true, conclude_result]

/-- An outcome that is an answer alone goes through the lock as it is: nobody hears of it
but the caller. -/
theorem conclude_unchanged {α} {l : Line} (hp : l.poisoned = false) {r : Except Failure α}
    (hr : ∀ f, r ≠ .error (.fault f)) :
    l.conclude l.host ⟨l.session, [], r⟩ = (⟨r, [], []⟩, l) := by
  obtain ⟨s, host, poisoned⟩ := l
  dsimp only at hp
  subst hp
  unfold Line.conclude
  dsimp only
  split
  · next f => exact absurd rfl (hr f)
  · rcases host with _ | ⟨_ | listener, clock⟩
    · rfl
    · rfl
    · rfl

theorem conclude_reachable {α} {l : Line} (host : Option Host) {o : Outcome α}
    (hl : Reachable l.session) (ho : o.Completes → Reachable o.session) :
    Reachable (l.conclude host o).2.session := by
  unfold Line.conclude
  dsimp only
  split
  · exact hl
  · next hnot =>
    have hr : Reachable o.session := ho fun f hf => hnot f hf
    split
    · exact hr
    · exact deliver_reachable _ _ hr

/-- What the host does with a session: calls it, configures it or lets go of it. -/
inductive Next (l : Line) : Line → Prop
  | call (now : Nat) (c : Session.Call) : Next l (l.call now c).2
  | configure (settings : Settings) (host : Host) : Next l (l.configure settings host).2
  | release : Next l l.release.2

theorem Next.reachable {l m : Line} (h : Next l m) (hl : Reachable l.session) :
    Reachable m.session := by
  cases h with
  | call now c =>
    unfold Line.call
    split
    · exact hl
    · exact conclude_reachable _ hl (Session.perform_reachable hl)
  | configure settings host =>
    unfold Line.configure
    split
    · exact hl
    · dsimp only
      split
      · exact conclude_reachable _ hl (Session.perform_reachable hl)
      · exact conclude_reachable _ hl (Session.perform_reachable hl)
  | release =>
    unfold Line.release
    split
    · exact .refl
    · exact .refl

/-- **Whatever the host and its listener do, and also when a call met a fault,
the session behind the lock is one that calls without a fault lead to.** -/
theorem session_reachable {l : Line} (h : Relation.ReflTransGen Next fresh l) :
    Reachable l.session := by
  induction h with
  | refl => exact .refl
  | tail _ hnext ih => exact hnext.reachable ih

end Line

end GnssAiding
