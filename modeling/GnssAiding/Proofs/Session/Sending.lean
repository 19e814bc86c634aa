/-
When sending data poisons a session.

A started session has settings (`Reachable.equipped`), so it begins the job that the
data makes, if it makes one. While the clock can show the deadlines, sending the
messages meets no fault; making the job of the data meets one just when the accuracy
of an absolute time does not fit its field (`Job.ofOnline_faults_iff`,
`Job.ofOffline_faults_iff`). So the two calls that send messages poison the lock then
and only then (`sending_poisons_iff`).
-/
import GnssAiding.Proofs.Initial.Accuracy
import GnssAiding.Proofs.Session.Line
import GnssAiding.Proofs.Session.Working

namespace GnssAiding

theorem Outcome.completes_iff {α} {o : Outcome α} : o.Completes ↔ ¬ Faults o.result := by
  simp [Completes, Faults]

/-! ## Jobs -/

namespace Job

theorem checkSize_eq_ok_iff {data : Bytes} {u : Unit} :
    checkSize data = .ok u ↔ data.length ≤ maxBlob := by
  unfold checkSize
  split
  · next h => exact iff_of_false (by rintro ⟨⟩) (Nat.not_le_of_lt h)
  · next h => exact iff_of_true rfl (Nat.le_of_not_lt h)

/-- Online data makes a job without a fault, unless it begins with a time that is
adjusted with an accuracy that does not fit. -/
theorem ofOnline_faults_iff {s : Settings} {data : Bytes} {time : Option TimeAdjustment} :
    Faults (ofOnline s data time) ↔
      data.length ≤ maxBlob ∧ Initial.startsWithTime data = true ∧
        ∃ t, time = some t ∧ t.Overflows := by
  cases time with
  | none => simp [ofOnline, checkSize_eq_ok_iff]
  | some t => simp [ofOnline, checkSize_eq_ok_iff, Initial.adjust_faults_iff]

/-- Offline data makes a job without a fault, unless it goes out behind a time with an
accuracy that does not fit. -/
theorem ofOffline_faults_iff {s : Settings} {data : Bytes} {time : TimeAdjustment}
    {position : Option Position} :
    Faults (ofOffline s data time position) ↔ data.length ≤ maxBlob ∧ time.Overflows := by
  simp [ofOffline, checkSize_eq_ok_iff, Initial.prepend_faults_iff]

/-- A job that data made begins without a fault while the clock can show its deadlines. -/
theorem start_eq_ok {c : Context} {job : Job} (h : job.Prepared c.settings) (hc : c.Fits) :
    ∃ acts r, job.start c = ⟨acts, .ok r⟩ := by
  obtain ⟨acts, next, step, hcomes, -⟩ := start_comes h
  exact ⟨acts, (next, step), hcomes.eq hc⟩

end Job

/-! ## Sessions -/

namespace Session

section Begin

variable {s : Session} {now : Nat} {settings : Settings} {make : Settings → Except Failure Job}
  {job : Job} (hw : s.state = .waitingForData) (hs : s.settings = some settings)

include hw hs

theorem begin_eq_advance (hj : make settings = .ok job) :
    s.begin now make = s.advance (job.start ⟨settings, now⟩) () := by
  simp only [begin, hw, hs, hj]
  exact drive_eq rfl

/-- A started session that is given data meets a fault just when making the job does. -/
theorem begin_completes_iff (hm : Job.Prepares settings (make settings))
    (hc : Context.Fits ⟨settings, now⟩) :
    (s.begin now make).Completes ↔ ¬ Faults (make settings) := by
  cases hj : make settings with
  | error failure =>
    have hbegin : s.begin now make = ⟨s, [], .error failure⟩ := by simp [begin, hw, hs, hj]
    rw [hbegin, Outcome.completes_iff]
    simp [Faults]
  | ok job =>
    obtain ⟨acts, r, hstart⟩ := Job.start_eq_ok (c := ⟨settings, now⟩) (hm job hj) hc
    rw [begin_eq_advance hw hs hj, hstart]
    exact iff_of_true advance_completes (not_faults_pure job)

/-- A started session accepts the data that makes a job, unless the clock cannot show a
deadline. -/
theorem begin_accepts (hj : make settings = .ok job) (hm : job.Prepared settings) {α : Type}
    (f : Unit → α) :
    ((s.begin now make).map f).result = .ok (f ()) ∨
      ¬ Context.Fits ⟨settings, now⟩ ∧ Faults ((s.begin now make).map f).result := by
  obtain ⟨acts, next, step, hcomes, -⟩ := Job.start_comes (c := ⟨settings, now⟩) hm
  rw [begin_eq_advance hw hs hj, map_advance]
  generalize job.start ⟨settings, now⟩ = turn at hcomes
  rcases hcomes with rfl | ⟨hn, -, e, he⟩
  · exact .inl advance_result
  · obtain ⟨done, r⟩ := turn
    cases he
    exact .inr ⟨hn, e, rfl⟩

end Begin

section Sending

variable {s : Session} {now : Nat} {settings : Settings} {data : Bytes}
  (hw : s.state = .waitingForData) (hs : s.settings = some settings)
  (hc : Context.Fits ⟨settings, now⟩)

include hw hs hc

theorem sendOnline_faults_iff {time : Option TimeAdjustment} :
    Faults (s.perform now (.sendOnline data time)).result ↔
      data.length ≤ Job.maxBlob ∧ Initial.startsWithTime data = true ∧
        ∃ t, time = some t ∧ t.Overflows := by
  rw [← not_iff_not, ← Outcome.completes_iff, ← Job.ofOnline_faults_iff (s := settings)]
  exact Outcome.completes_map.trans
    (begin_completes_iff hw hs (Job.ofOnline_prepares settings data time) hc)

theorem sendOffline_faults_iff {time : TimeAdjustment} {position : Option Position} :
    Faults (s.perform now (.sendOffline data time position)).result ↔
      data.length ≤ Job.maxBlob ∧ time.Overflows := by
  rw [← not_iff_not, ← Outcome.completes_iff, ← Job.ofOffline_faults_iff (s := settings)]
  exact Outcome.completes_map.trans
    (begin_completes_iff hw hs (Job.ofOffline_prepares settings data time position) hc)

end Sending

end Session

/-! ## Behind the lock -/

namespace Line

variable {l : Line} {now : Nat} {c : Session.Call}

theorem state_eq_ok_iff {state : SessionState} :
    l.state = .ok state ↔ l.poisoned = false ∧ l.session.state = state := by
  unfold Line.state
  by_cases hp : l.poisoned = true
  · simp [hp]
  · simp [hp]

/-- The lock is poisoned by a fault and by nothing else. -/
theorem conclude_poisoned_iff {α} (host : Option Host) (o : Outcome α) :
    (l.conclude host o).2.poisoned = true ↔ Faults o.result := by
  unfold conclude
  dsimp only
  split
  · next f hf => exact iff_of_true rfl ⟨f, hf⟩
  · next hnot =>
    have hf : ¬ Faults o.result := fun ⟨f, h⟩ => hnot f h
    split
    · exact iff_of_false Bool.false_ne_true hf
    · exact iff_of_false Bool.false_ne_true hf

/-- An open lock is poisoned by a call that meets a fault, and by no other. -/
theorem call_poisoned_iff (hp : l.poisoned = false) :
    (l.call now c).2.poisoned = true ↔
      Faults (l.session.perform (l.clock.reading now) c).result := by
  rw [call, hp, if_neg Bool.false_ne_true]
  exact conclude_poisoned_iff _ _

/-- The call meets a fault and poisons the lock just when `P` holds. Otherwise it
succeeds or is refused, and the lock stays open. -/
structure PoisonsIff (r : Entry Session.Answer × Line) (P : Prop) : Prop where
  fault : Faults r.1.result ↔ P
  poisoned : r.2.poisoned = true ↔ P

theorem call_poisonsIff {P : Prop} (hp : l.poisoned = false)
    (h : Faults (l.session.perform (l.clock.reading now) c).result ↔ P) :
    PoisonsIff (l.call now c) P where
  fault := by
    rw [call_result hp]
    exact h
  poisoned := (call_poisoned_iff hp).trans h

/-- **When sending data poisons a session.** A started session has settings. While
the clock can show the deadlines, sending offline data meets a fault just when the
data is not too large and the time in front of it is one whose accuracy does not fit
its field. Sending online data does just when the data is not too large, begins with
a time and is to have it replaced by such a one. A lock that is not poisoned by the
call is open afterwards. -/
theorem sending_poisons_iff (h : Relation.ReflTransGen Next fresh l)
    (hw : l.state = .ok .waitingForData) :
    ∃ settings, l.session.settings = some settings ∧
      ∀ now, Context.Fits ⟨settings, l.clock.reading now⟩ →
        (∀ data time, PoisonsIff (l.call now (.sendOnline data time))
          (data.length ≤ Job.maxBlob ∧ Initial.startsWithTime data = true ∧
            ∃ t, time = some t ∧ t.Overflows)) ∧
        ∀ data time position, PoisonsIff (l.call now (.sendOffline data time position))
          (data.length ≤ Job.maxBlob ∧ time.Overflows) := by
  obtain ⟨hp, hstate⟩ := state_eq_ok_iff.1 hw
  obtain ⟨settings, hs⟩ := (session_reachable h).equipped (by simp [hstate])
  refine ⟨settings, hs, fun now hc => ⟨fun data time => ?_, fun data time position => ?_⟩⟩
  · exact call_poisonsIff hp (Session.sendOnline_faults_iff hstate hs hc)
  · exact call_poisonsIff hp (Session.sendOffline_faults_iff hstate hs hc)

/-- A session that was configured and started, and nobody listens. -/
def startedLine : Line :=
  ⟨⟨.waitingForData, some Transfer.pairSettings, .none⟩, some ⟨none, .host⟩, false⟩

theorem startedLine_reachable : Relation.ReflTransGen Next fresh startedLine :=
  (Relation.ReflTransGen.single (.configure Transfer.pairSettings ⟨none, .host⟩)).tail
    (.call 0 .start)

/-- Noon of a day, known to so many milliseconds. -/
def noon (accMillis : UInt16) : TimeAdjustment := ⟨.absolute, 2024, 1, 2, 12, 0, 0, 0, accMillis⟩

/-- Four seconds fit, five seconds do not. -/
theorem sending_poisons_iff_noon :
    Relation.ReflTransGen Next fresh startedLine ∧ startedLine.state = .ok .waitingForData ∧
      Context.Fits ⟨Transfer.pairSettings, startedLine.clock.reading 0⟩ ∧
      (startedLine.call 0 (.sendOffline Transfer.pairData (noon 4000) none)).2.poisoned = false ∧
      (startedLine.call 0 (.sendOffline Transfer.pairData (noon 5000) none)).2.poisoned = true ∧
      (startedLine.call 0 (.sendOnline Transfer.pairData (some (noon 5000)))).2.poisoned =
        false := by
  obtain ⟨settings, hs, hsending⟩ := sending_poisons_iff startedLine_reachable rfl
  cases hs
  have hc : Context.Fits ⟨Transfer.pairSettings, startedLine.clock.reading 0⟩ := by decide
  obtain ⟨honline, hoffline⟩ := hsending 0 hc
  have hsize : Transfer.pairData.length ≤ Job.maxBlob := by decide
  refine ⟨startedLine_reachable, rfl, hc, ?_, ?_, ?_⟩
  · rw [Bool.eq_false_iff, ne_eq, (hoffline _ _ _).poisoned]
    exact fun ⟨_, hover⟩ => absurd hover.large (by decide)
  · exact (hoffline _ _ _).poisoned.2 ⟨hsize, rfl, ⟨_, rfl⟩, by decide⟩
  · rw [Bool.eq_false_iff, ne_eq, (honline _ _).poisoned]
    exact fun ⟨_, hlead, _⟩ => absurd hlead (by decide)

/-- A started session that is given data behind a time known to five seconds meets a
fault, and every later call is refused. -/
theorem fiveSeconds_poison :
    Relation.ReflTransGen Next fresh startedLine ∧ startedLine.state = .ok .waitingForData ∧
      Context.Fits ⟨Transfer.pairSettings, startedLine.clock.reading 0⟩ ∧
      let r := startedLine.call 0 (.sendOffline Transfer.pairData (noon 5000) none)
      r.1.result = .error (.fault .overflow) ∧
        ∀ now c, (r.2.call now c).1.result = .error (.refused .lockPoisoned) :=
  ⟨startedLine_reachable, rfl, by decide, rfl, fun _ _ => rfl⟩

end Line

end GnssAiding
