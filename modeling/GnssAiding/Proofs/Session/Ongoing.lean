/-
What the machines of a session report while they work. None of them reports
the end of the session's work: an end is the step that a turn returns, and
the session alone reports it. So every turn of a job is `Job.Working`. A job
begins as one of the machines made it of data (`Job.Prepared`).
-/
import GnssAiding.Proofs.Transfer.Turn
import GnssAiding.Session.Job

namespace GnssAiding

/-- The event ends nothing. -/
def Event.Ongoing (e : Event) : Prop := e.isTerminal = false

/-! ## Messages -/

theorem Message.transmit_ongoing (c : Context) (data : Bytes) (m : Message) :
    (m.transmit c data).Reports Event.Ongoing := by
  simp [Message.transmit, Event.Ongoing, Event.isTerminal]

namespace Queue

theorem sendNext_ongoing (c : Context) (n : Nat) (q : Queue) :
    (q.sendNext c n).Reports Event.Ongoing := by
  simp [sendNext, Turn.reports_mapM (Message.transmit_ongoing c q.data)]

theorem sendBlindly_ongoing (c : Context) (data : Bytes) (m : Message) :
    (sendBlindly c data m).Reports Event.Ongoing := by
  simp [sendBlindly, Message.transmit_ongoing]

theorem sendPaced_ongoing (c : Context) (data : Bytes) (m : Message) :
    (sendPaced c data m).Reports Event.Ongoing := by
  unfold sendPaced
  split <;> simp [sendBlindly_ongoing]

theorem sendTrain_ongoing (c : Context) (data : Bytes) (ms : List Message) :
    (sendTrain c data ms).Reports Event.Ongoing := by
  cases ms with
  | nil => simp [sendTrain]
  | cons m ms => simp [sendTrain, sendBlindly_ongoing, Turn.reports_mapM (sendPaced_ongoing c data)]

theorem broadcast_ongoing (c : Context) (q : Queue) :
    (q.broadcast c).Reports Event.Ongoing := by
  simp [broadcast, sendTrain_ongoing]

theorem resolve_ongoing (i : Nat) (failure : Option FailureReason) (q : Queue) :
    (q.resolve i failure).Reports Event.Ongoing := by
  cases failure <;> simp [resolve, Event.Ongoing, Event.isTerminal]

theorem retry_ongoing (c : Context) (i : Nat) (q : Queue) :
    (q.retry c i).Reports Event.Ongoing := by
  simp only [retry, Turn.reports_bind, Turn.reports_check, true_and]
  intro m _
  split <;> simp [Message.transmit_ongoing, resolve_ongoing]

end Queue

namespace Transfer

theorem proceed_ongoing (c : Context) (t : Transfer) :
    (t.proceed c).Reports Event.Ongoing := by
  obtain ⟨q, discipline, budget⟩ := t
  cases discipline <;> simp [proceed, Queue.fill, Queue.sendNext_ongoing]

theorem start_ongoing (c : Context) (t : Transfer) :
    (t.start c).Reports Event.Ongoing := by
  obtain ⟨q, discipline, budget⟩ := t
  cases discipline <;>
    simp [start, Discipline.needsAcks, proceed_ongoing, Queue.broadcast_ongoing, Event.Ongoing,
      Event.isTerminal]

theorem timeOut_ongoing (c : Context) (i : Nat) (t : Transfer) :
    (t.timeOut c i).Reports Event.Ongoing := by
  unfold timeOut
  split
  · simp only [Turn.reports_bind, Queue.retry_ongoing, true_and]
    rintro ⟨q, givenUp⟩ _
    cases givenUp <;> simp [proceed_ongoing]
  · simp

theorem sweep_ongoing (c : Context) (is : List Nat) (t : Transfer) :
    (t.sweep c is).Reports Event.Ongoing := by
  induction is generalizing t with
  | nil => simp [sweep]
  | cons i is ih =>
    simp only [sweep, Turn.reports_bind, timeOut_ongoing, true_and]
    intro t' _
    split
    · exact ih t'
    · simp

theorem checkTimeouts_ongoing (c : Context) (t : Transfer) :
    (t.checkTimeouts c).Reports Event.Ongoing := t.sweep_ongoing c _

theorem receive_ongoing {c : Context} {t : Transfer} {f : Frame} {x : Turn (Transfer × Step)}
    (h : t.receive c f = some x) : x.Reports Event.Ongoing := by
  unfold receive at h
  split at h
  · split at h
    · cases h
      exact Turn.reports_check _
    · cases h
    · cases h
      simp [Queue.resolve_ongoing, proceed_ongoing]
  · cases h

end Transfer

/-! ## Flash -/

namespace Flash.Transfer

variable (c : Context)

theorem sendCurrent_ongoing (t : Transfer) : (t.sendCurrent c).Reports Event.Ongoing := by
  simp only [sendCurrent, Turn.reports_bind, Turn.reports_check, true_and]
  intro b _
  split <;> cases b.content <;> simp [Event.Ongoing, Event.isTerminal]

theorem start_ongoing (t : Transfer) : (t.start c).Reports Event.Ongoing := by
  simp [start, sendCurrent_ongoing, Event.Ongoing, Event.isTerminal]

theorem sendAgain_ongoing (t : Transfer) (b : Block) :
    (t.sendAgain c b).Reports Event.Ongoing := by
  simp [sendAgain, sendCurrent_ongoing, Event.Ongoing, Event.isTerminal]

theorem answer_ongoing {t : Transfer} {b : Block} {r : Reply} {x : Turn (Transfer × Step)}
    (h : t.answer c b r = some x) : x.Reports Event.Ongoing := by
  unfold answer at h
  split at h
  · dsimp only at h
    split at h
    · cases h
      exact Turn.reports_pure _
    split at h
    · split at h
      · cases h
        exact Turn.reports_pure _
      · cases h
        simp [sendCurrent_ongoing, Event.Ongoing, Event.isTerminal]
    · cases h
  · cases h
    split <;> simp [sendAgain_ongoing]
  · cases h
    exact Turn.reports_pure _
  · cases h
    exact Turn.reports_pure _

theorem receive_ongoing {t : Transfer} {f : Frame} {x : Turn (Transfer × Step)}
    (h : t.receive c f = some x) : x.Reports Event.Ongoing := by
  unfold receive at h
  split at h
  · cases h
    exact Turn.reports_check _
  · cases h
  split at h
  · cases h
    exact Turn.reports_check _
  split at h
  · exact answer_ongoing c h
  · cases h

theorem checkTimeouts_ongoing (t : Transfer) : (t.checkTimeouts c).Reports Event.Ongoing := by
  simp only [checkTimeouts, Turn.reports_bind, Turn.reports_check, true_and]
  intro b _
  split
  · exact Turn.reports_pure _
  split
  · simp
  · split <;> simp [sendAgain_ongoing]
  · exact Turn.reports_pure _

end Flash.Transfer

/-! ## Legacy files -/

namespace Legacy.Push

variable (c : Context)

@[simp]
theorem report_ongoing (e : LegacyEvent) : (report e).Reports Event.Ongoing := by
  simp [report, Event.Ongoing, Event.isTerminal]

theorem sendStop_ongoing (p : Push) : (p.sendStop c).Reports Event.Ongoing := by
  simp [sendStop]

theorem sendBlock_ongoing (p : Push) : (p.sendBlock c).Reports Event.Ongoing := by
  simp only [sendBlock, Turn.reports_bind, Turn.reports_check, true_and]
  intro b _
  split
  · simp only [Turn.reports_bind, Turn.reports_check, true_and]
    intro chunk _
    split <;> simp
  · simp

theorem enter_ongoing (phase : Phase) (p : Push) : (p.enter c phase).Reports Event.Ongoing := by
  cases phase <;> simp [enter, sendStop_ongoing, sendBlock_ongoing]

theorem start_ongoing (p : Push) : (p.start c).Reports Event.Ongoing := by
  simp [start, enter_ongoing, Event.Ongoing, Event.isTerminal]

theorem answerBlock_ongoing (p : Push) (r : Reply) :
    (p.answerBlock c r).Reports Event.Ongoing := by
  simp only [answerBlock, Turn.reports_bind, Turn.reports_check, true_and]
  intro b _
  cases r with
  | ack =>
    simp only [Turn.reports_bind, report_ongoing, true_and]
    intro _ _
    split <;> simp [sendBlock_ongoing, enter_ongoing]
  | nak =>
    simp only [Turn.reports_bind, report_ongoing, true_and]
    intro _ _
    split <;> simp [sendBlock_ongoing]

theorem answer_ongoing {p : Push} {r : Reply} {x} (h : p.answer c r = some x) :
    x.Reports Event.Ongoing := by
  unfold answer at h
  split at h <;> cases h
  · simp [enter_ongoing]
  · exact answerBlock_ongoing c p _
  · simp [finalize]
  · simp

theorem receive_ongoing {p : Push} {f : Frame} {x} (h : p.receive c f = some x) :
    x.Reports Event.Ongoing := by
  unfold receive at h
  split at h
  · cases h
  · exact answer_ongoing c h

theorem stopTimedOut_ongoing (failed : LegacyEvent) (p : Push) :
    (p.stopTimedOut c failed).Reports Event.Ongoing := by
  unfold stopTimedOut
  split <;> simp [sendStop_ongoing]

theorem blockTimedOut_ongoing (p : Push) : (p.blockTimedOut c).Reports Event.Ongoing := by
  simp only [blockTimedOut, Turn.reports_bind, Turn.reports_check, true_and]
  intro b _
  split
  · exact Turn.reports_pure _
  split
  · simp
  · split <;> simp [sendBlock_ongoing]
  · exact Turn.reports_pure _

theorem checkTimeouts_ongoing (p : Push) : (p.checkTimeouts c).Reports Event.Ongoing := by
  unfold checkTimeouts
  split
  · exact Turn.reports_pure _
  · split
    · exact stopTimedOut_ongoing c _ p
    · exact Turn.reports_pure _
  · split
    · exact stopTimedOut_ongoing c _ p
    · exact Turn.reports_pure _
  · exact blockTimedOut_ongoing c p

end Legacy.Push

namespace Legacy.Server

@[simp]
theorem report_ongoing (e : LegacyEvent) : (report e).Reports Event.Ongoing := by
  simp [report, Event.Ongoing, Event.isTerminal]

theorem start_ongoing (s : Server) : s.start.Reports Event.Ongoing := by
  simp [start]

theorem stop_ongoing (s : Server) : s.stop.Reports Event.Ongoing := by
  simp [stop]

theorem respond_ongoing (s : Server) (p : Bytes) : (s.respond p).Reports Event.Ongoing := by
  simp only [respond, Turn.reports_bind, Turn.reports_check, report_ongoing, true_and]
  intro _ _ _ _ answer _
  cases Frame.build MessageClass.aid AidId.alpsrv answer.1 <;> simp

theorem update_ongoing (s : Server) (p : Bytes) : (s.update p).Reports Event.Ongoing := by
  simp only [update, Turn.reports_bind, Turn.reports_check, true_and]
  intro _ _ _ _
  split <;> simp

theorem receive_ongoing {s : Server} {f : Frame} {x} (h : s.receive f = some x) :
    x.Reports Event.Ongoing := by
  unfold receive at h
  split at h
  · cases h
    simp only [Turn.reports_bind, Turn.reports_check, true_and]
    intro type _
    split <;> simp [update_ongoing, respond_ongoing]
  · cases h

end Legacy.Server

/-! ## Jobs -/

/-- What a turn of a job keeps: it reports no end, and the job is one still. -/
structure Job.Working (x : Turn (Job × Step)) : Prop where
  ongoing : x.Reports Event.Ongoing
  held : ∀ job step, x.result = .ok (job, step) → job ≠ .none

namespace Job

/-- The turn of a machine, taken as the turn of a job. -/
theorem Working.of_machine {α : Type} {x : Turn (α × Step)} (wrap : α → Job)
    (hx : x.Reports Event.Ongoing) (hw : ∀ a, wrap a ≠ none) :
    Working (x >>= fun (a, step) => pure (wrap a, step)) := by
  refine ⟨Turn.reports_bind.2 ⟨hx, fun _ _ => Turn.reports_pure _⟩, ?_⟩
  intro job step h
  obtain ⟨⟨a, step'⟩, _, hr⟩ := Turn.result_bind_eq_ok.1 h
  cases hr
  exact hw a

theorem start_working (c : Context) {job : Job} (h : job ≠ none) : Working (job.start c) := by
  cases job with
  | none => exact absurd rfl h
  | messages t => exact .of_machine messages (t.start_ongoing c) (by simp)
  | flash t => exact .of_machine flash (Flash.Transfer.start_ongoing c t) (by simp)
  | legacyFlash p => exact .of_machine legacyFlash (Legacy.Push.start_ongoing c p) (by simp)
  | server s => exact .of_machine server s.start_ongoing (by simp)

theorem receive_working {c : Context} {job : Job} {f : Frame} {x : Turn (Job × Step)}
    (h : job.receive c f = some x) : Working x := by
  cases job with
  | none => cases h
  | messages t =>
    obtain ⟨y, hy, rfl⟩ := Option.map_eq_some_iff.1 h
    exact .of_machine messages (Transfer.receive_ongoing hy) (by simp)
  | flash t =>
    obtain ⟨y, hy, rfl⟩ := Option.map_eq_some_iff.1 h
    exact .of_machine flash (Flash.Transfer.receive_ongoing c hy) (by simp)
  | legacyFlash p =>
    obtain ⟨y, hy, rfl⟩ := Option.map_eq_some_iff.1 h
    exact .of_machine legacyFlash (Legacy.Push.receive_ongoing c hy) (by simp)
  | server s =>
    obtain ⟨y, hy, rfl⟩ := Option.map_eq_some_iff.1 h
    exact .of_machine server (Legacy.Server.receive_ongoing hy) (by simp)

theorem checkTimeouts_working (c : Context) {job : Job} (h : job ≠ none) :
    Working (job.checkTimeouts c) := by
  cases job with
  | none => exact absurd rfl h
  | messages t => exact .of_machine messages (t.checkTimeouts_ongoing c) (by simp)
  | flash t => exact .of_machine flash (Flash.Transfer.checkTimeouts_ongoing c t) (by simp)
  | legacyFlash p => exact .of_machine legacyFlash (Legacy.Push.checkTimeouts_ongoing c p) (by simp)
  | server s =>
    refine ⟨Turn.reports_pure _, ?_⟩
    intro job step h
    cases h
    simp

/-! ### The jobs that data makes -/

/-- The job is as data made it. -/
def Prepared (s : Settings) : Job → Prop
  | none => False
  | messages t => ∃ data, Transfer.ofData data s = .ok t
  | flash t => ∃ data, Flash.Transfer.ofData data = .ok t
  | legacyFlash p => ∃ file, Legacy.Push.ofFile file = .ok p
  | server _ => True

theorem Prepared.ne_none {s : Settings} {job : Job} (h : job.Prepared s) : job ≠ none := by
  rintro rfl
  exact h

/-- What is made, if anything is, is as data made it. -/
def Prepares (s : Settings) (x : Except Failure Job) : Prop := ∀ job, x = .ok job → job.Prepared s

section Prepares

variable {α : Type} {s : Settings}

theorem Prepares.bind {x : Except Failure α} {f : α → Except Failure Job}
    (h : ∀ a, Prepares s (f a)) : Prepares s (x >>= f) := by
  cases x with
  | error e =>
    intro job hj
    cases hj
  | ok a => exact h a

/-- What a machine makes of data, taken as a job. -/
theorem Prepares.of_machine {x : Except Error α} (wrap : α → Job)
    (h : ∀ a, x = .ok a → (wrap a).Prepared s) :
    Prepares s (do let a ← x; pure (wrap a)) := by
  intro job hj
  cases hx : x with
  | error e =>
    rw [hx] at hj
    cases hj
  | ok a =>
    rw [hx] at hj
    cases hj
    exact h a hx

theorem prepares_messages (s : Settings) (data : Bytes) :
    Prepares s (do let t ← Transfer.ofData data s; pure (messages t)) :=
  .of_machine messages fun _ ht => ⟨data, ht⟩

theorem ofOnline_prepares (s : Settings) (data : Bytes) (time : Option TimeAdjustment) :
    Prepares s (ofOnline s data time) := by
  cases time with
  | none => exact .bind fun _ => .bind fun data => prepares_messages s data
  | some t => exact .bind fun _ => .bind fun data => prepares_messages s data

theorem ofOffline_prepares (s : Settings) (data : Bytes) (time : TimeAdjustment)
    (position : Option Position) : Prepares s (ofOffline s data time position) :=
  .bind fun _ => .bind fun data => prepares_messages s data

theorem toFlash_prepares (s : Settings) (data : Bytes) : Prepares s (toFlash data) :=
  .bind fun _ => .of_machine flash fun _ ht => ⟨data, ht⟩

theorem legacyToFlash_prepares (s : Settings) (data : Bytes) : Prepares s (legacyToFlash data) :=
  .bind fun _ => .of_machine legacyFlash fun _ hp => ⟨data, hp⟩

theorem ofSnapshot_prepares (s : Settings) (data : Bytes) : Prepares s (ofSnapshot s data) :=
  .bind fun _ => .bind fun _ => prepares_messages s data

theorem serve_prepares (s : Settings) (data : Bytes) (fileId : UInt16) :
    Prepares s (serve data fileId) :=
  .bind fun _ => .of_machine server fun _ _ => trivial

end Prepares

end Job

end GnssAiding
