/-
What a call does to a session, said once for all calls.

`Session.Does` is the list: nothing at all, a change of the state, something written or
said beside the job, or a turn of the job (`Session.Takes`), and `perform_does` says
that there is nothing else. A call that takes a server out of the session looks for the
settings only then, and would be refused with the server gone if there were none. That
does not happen to a session that has settings when it is not idle (`Session.Equipped`),
and every call keeps that.
-/
import GnssAiding.Proofs.Frame.Reading
import GnssAiding.Proofs.Session.Ongoing
import GnssAiding.Session.Basic

namespace GnssAiding

theorem Outcome.map_map {α β γ} (f : α → β) (g : β → γ) (o : Outcome α) :
    (o.map f).map g = o.map fun a => g (f a) := by
  obtain ⟨s, acts, r⟩ := o
  cases r <;> rfl

/-- The event by which a session tells that its job has ended. -/
def Step.end? : Step → Option Event
  | running => none
  | finished => some .finish
  | terminated reason => some (.terminated reason)

namespace Session

/-! ## Turns -/

/-- What comes of a turn of the job, where the call is answered with `a`. -/
def advance {α} (s : Session) (turn : Turn (Job × Step)) (a : α) : Outcome α :=
  s.run do
    let (job, step) ← turn
    let s ← s.settle job step
    pure (s, a)

/-- What comes of a turn of the job: the session is at work on the job, or has
told its end and let go of it, or stays as it is because the turn met a fault. -/
theorem advance_cases {α} (s : Session) (turn : Turn (Job × Step)) (a : α) :
    (∃ acts job, turn = ⟨acts, .ok (job, .running)⟩ ∧
      s.advance turn a = ⟨{ s with state := .processing, job := job }, acts, .ok a⟩) ∨
    (∃ acts job step e, turn = ⟨acts, .ok (job, step)⟩ ∧ step.end? = some e ∧
      s.advance turn a =
        ⟨{ s with state := .idle, job := .none }, acts ++ [.report e], .ok a⟩) ∨
    ∃ acts f, turn = ⟨acts, .error f⟩ ∧ s.advance turn a = ⟨s, acts, .error (.fault f)⟩ := by
  obtain ⟨acts, r⟩ := turn
  cases r with
  | error f => exact .inr (.inr ⟨acts, f, rfl, rfl⟩)
  | ok p =>
    obtain ⟨job, step⟩ := p
    cases step with
    | running =>
      refine .inl ⟨acts, job, rfl, ?_⟩
      simp [advance, run, settle, Turn.bind_ok, Turn.pure_def]
    | finished | terminated =>
      refine .inr (.inl ⟨acts, job, _, _, rfl, rfl, ?_⟩)
      simp [advance, run, settle, Turn.bind_ok, Turn.pure_def, Turn.report, Turn.act]

/-- A turn that meets no fault makes the call succeed. -/
theorem advance_result {α} {s : Session} {acts : List Action} {r : Job × Step} {a : α} :
    (s.advance ⟨acts, .ok r⟩ a).result = .ok a := by
  obtain ⟨job, step⟩ := r
  cases step <;> rfl

theorem map_advance {α β} (f : α → β) (s : Session) (turn : Turn (Job × Step)) (a : α) :
    (s.advance turn a).map f = s.advance turn (f a) := by
  obtain ⟨acts, r⟩ := turn
  rcases r with e | ⟨job, _ | _ | _⟩
  all_goals rfl

/-! ## Settings -/

/-- A session that is not idle has settings. -/
def Equipped (s : Session) : Prop := s.state ≠ .idle → ∃ settings, s.settings = some settings

section Settings

variable {s : Session} {settings : Settings}

theorem equipped_of_idle (h : s.state = .idle) : s.Equipped := fun hn => absurd h hn

theorem equipped_of_settings (h : s.settings = some settings) : s.Equipped :=
  fun _ => ⟨settings, h⟩

theorem drive_eq {α} {t : Session} {work : Settings → Turn (Session × α)}
    (h : t.settings = some settings) : s.drive t work = s.run (work settings) := by
  simp only [drive, h]

/-- Whatever comes of a turn of the job, the settings stay. -/
theorem advance_settings {α} (turn : Turn (Job × Step)) (a : α) :
    (s.advance turn a).session.settings = s.settings := by
  rcases s.advance_cases turn a with ⟨_, _, -, h⟩ | ⟨_, _, _, _, -, -, h⟩ | ⟨_, _, -, h⟩
  all_goals rw [h]

end Settings

/-! ## The calls that have a turn or a server -/

section Calls

variable {s : Session} {now : Nat}

/-- A file is handed back or the call is refused. -/
theorem stopServer_cases (he : s.Equipped) :
    (∃ e, s.stopServer = s.refuse e) ∨
      ∃ server : Legacy.Server, s.state ≠ .idle ∧ s.job = .server server ∧
        s.stopServer =
          ⟨{ s with state := .idle, job := .none }, server.stop.actions, .ok server.file⟩ := by
  unfold stopServer
  split
  · exact .inl ⟨_, rfl⟩
  next h =>
  split
  · next server hj =>
    obtain ⟨settings, hs⟩ := he h
    exact .inr ⟨server, h, hj, drive_eq hs⟩
  · exact .inl ⟨_, rfl⟩

/-- The call is refused, or the session begins the job that is made. -/
theorem begin_cases (s : Session) (now : Nat) (make : Settings → Except Failure Job) :
    (∃ r, s.begin now make = ⟨s, [], r⟩) ∨
      ∃ settings job, s.state = .waitingForData ∧ s.settings = some settings ∧
        make settings = .ok job ∧
        s.begin now make = s.advance (job.start ⟨settings, now⟩) () := by
  unfold begin
  split
  · exact .inl ⟨_, rfl⟩
  · exact .inl ⟨_, rfl⟩
  · exact .inl ⟨_, rfl⟩
  · next settings hstate hs =>
    cases hj : make settings with
    | error e => exact .inl ⟨_, rfl⟩
    | ok job => exact .inr ⟨settings, job, hstate, hs, hj, drive_eq hs⟩

/-- What is no frame is not for the session. -/
theorem receive_of_not_frame {data : Bytes} (hf : Frame.parse? data = none) :
    s.receive now data = s.accept .ignored := by
  simp only [receive, Frame.read_eq, hf, ite_self]

/-- A frame is for the session if it is for the job. -/
theorem receive_of_frame {settings : Settings} {data : Bytes} {f : Frame}
    (hp : s.state = .processing) (hs : s.settings = some settings)
    (hf : Frame.parse? data = some f) :
    s.receive now data = (s.job.receive ⟨settings, now⟩ f).elim (s.accept .ignored)
      fun turn => s.advance turn .consumed := by
  simp only [receive, if_neg (not_not_intro hp), Frame.read_eq, hf, drive_eq hs]
  cases s.job.receive ⟨settings, now⟩ f with
  | none => rfl
  | some turn => rfl

/-- What comes from the receiver is no matter of the job, or the job takes it. -/
theorem receive_cases (s : Session) (now : Nat) (data : Bytes) :
    (∃ r, s.receive now data = ⟨s, [], r⟩) ∨
      ∃ settings f turn, s.state = .processing ∧ s.settings = some settings ∧
        Frame.parse? data = some f ∧ s.job.receive ⟨settings, now⟩ f = some turn ∧
        s.receive now data = s.advance turn .consumed := by
  by_cases hp : s.state = .processing
  · cases hf : Frame.parse? data with
    | none => exact .inl ⟨_, receive_of_not_frame hf⟩
    | some f =>
      cases hs : s.settings with
      | none =>
        refine .inl ⟨.error (.refused .notConfigured), ?_⟩
        simp only [receive, if_neg (not_not_intro hp), Frame.read_eq, hf, drive, hs, refuse]
      | some settings =>
        rw [receive_of_frame hp hs hf]
        cases hturn : s.job.receive ⟨settings, now⟩ f with
        | none => exact .inl ⟨.ok .ignored, rfl⟩
        | some turn => exact .inr ⟨settings, f, turn, hp, rfl, rfl, hturn, rfl⟩
  · exact .inl ⟨_, if_pos hp⟩

/-- There is nothing to see to, or the job sees to what is overdue. -/
theorem checkTimeouts_cases (s : Session) (now : Nat) :
    (∃ r, s.checkTimeouts now = ⟨s, [], r⟩) ∨
      ∃ settings, s.state = .processing ∧ s.settings = some settings ∧
        s.checkTimeouts now = s.advance (s.job.checkTimeouts ⟨settings, now⟩) () := by
  unfold checkTimeouts
  split
  · exact .inl ⟨_, rfl⟩
  next hp =>
  cases hs : s.settings with
  | none => exact .inl ⟨.error (.refused .notConfigured), by simp only [drive, hs, refuse]⟩
  | some settings => exact .inr ⟨settings, Decidable.not_not.1 hp, rfl, drive_eq hs⟩

theorem checkTimeouts_eq_advance {settings : Settings} (hp : s.state = .processing)
    (hs : s.settings = some settings) (now : Nat) :
    s.checkTimeouts now = s.advance (s.job.checkTimeouts ⟨settings, now⟩) () := by
  rw [checkTimeouts, if_neg (not_not_intro hp), drive_eq hs]
  rfl

end Calls

/-! ## All calls -/

/-- The job that the call gives the session, if it is a call that gives it one. -/
def Call.make? (settings : Settings) : Call → Option (Except Failure Job)
  | .sendOnline data time => some (Job.ofOnline settings data time)
  | .sendOffline data time position => some (Job.ofOffline settings data time position)
  | .sendToFlash data => some (Job.toFlash data)
  | .sendLegacyToFlash data => some (Job.legacyToFlash data)
  | .sendSnapshot data => some (Job.ofSnapshot settings data)
  | .startServer data fileId => some (Job.serve data fileId)
  | _ => none

/-- A job that a call makes is as data made it. -/
theorem Call.make?_prepares {settings : Settings} {call : Call} {x : Except Failure Job}
    (h : call.make? settings = some x) : Job.Prepares settings x := by
  cases call with
  | sendOnline data time =>
    cases h
    exact Job.ofOnline_prepares settings data time
  | sendOffline data time position =>
    cases h
    exact Job.ofOffline_prepares settings data time position
  | sendToFlash data =>
    cases h
    exact Job.toFlash_prepares settings data
  | sendLegacyToFlash data =>
    cases h
    exact Job.legacyToFlash_prepares settings data
  | sendSnapshot data =>
    cases h
    exact Job.ofSnapshot_prepares settings data
  | startServer data fileId =>
    cases h
    exact Job.serve_prepares settings data fileId
  | _ => cases h

/-- The call takes the turn of a job: of the one that it makes, or of the one that the
session is at work on. -/
inductive Takes (s : Session) (c : Context) : Call → Turn (Job × Step) → Prop
  | begins {call job} (hw : s.state = .waitingForData)
    (hm : call.make? c.settings = some (.ok job)) : Takes s c call (job.start c)
  | receives {data f turn} (hp : s.state = .processing) (hf : Frame.parse? data = some f)
    (h : s.job.receive c f = some turn) : Takes s c (.receive data) turn
  | checks (hp : s.state = .processing) : Takes s c .checkTimeouts (s.job.checkTimeouts c)

/-- What is done to the host when the session is stopped at the job. -/
def closing : Job → List Action
  | .server server => server.stop.actions
  | _ => []

theorem closing_of_ne_server {job : Job} (h : ∀ server, job ≠ .server server) :
    closing job = [] := by
  cases job with
  | server server => exact absurd rfl (h server)
  | none | messages | flash | legacyFlash => rfl

/-- What a call can do. -/
inductive Does (s : Session) (now : Nat) : Call → Outcome Answer → Prop
  | nothing {call} (r) : Does s now call ⟨s, [], r⟩
  | configured {settings} (idle : s.state = .idle) :
    Does s now (.configure settings) ⟨{ s with settings := some settings }, [], .ok .done⟩
  | started {settings} (idle : s.state = .idle) (hs : s.settings = some settings) :
    Does s now .start ⟨{ s with state := .waitingForData }, [], .ok .done⟩
  | stopped (active : s.state ≠ .idle) :
    Does s now .stop ⟨{ s with state := .idle, job := .none },
      closing s.job ++ [.report (.terminated .hostCancel)], .ok .done⟩
  | handedBack {server} (active : s.state ≠ .idle) (hj : s.job = .server server) :
    Does s now .stopServer
      ⟨{ s with state := .idle, job := .none }, server.stop.actions, .ok (.file server.file)⟩
  | erased {settings} (hp : s.state ≠ .processing) (hs : s.settings = some settings) :
    Does s now .eraseFlash ⟨s, [.write Flash.eraseBytes], .ok .done⟩
  | told {kind detail} :
    Does s now (.reportProblem kind detail) ⟨s, [.report (.serviceError kind detail)], .ok .done⟩
  | turned {settings call turn} (hs : s.settings = some settings)
    (ht : s.Takes ⟨settings, now⟩ call turn) (a : Answer) : Does s now call (s.advance turn a)

section Calls

variable {s : Session} {now : Nat}

theorem begin_does {call : Call} {make : Settings → Except Failure Job}
    (hm : ∀ settings, call.make? settings = some (make settings)) (f : Unit → Answer) :
    s.Does now call ((s.begin now make).map f) := by
  rcases begin_cases s now make with ⟨r, h⟩ | ⟨settings, job, hw, hs, hj, h⟩
  · rw [h]
    exact .nothing _
  · rw [h, map_advance]
    exact .turned hs (.begins hw ((hm settings).trans (congrArg some hj))) _

theorem start_does (s : Session) (now : Nat) : s.Does now .start (s.perform now .start) := by
  simp only [perform, start]
  split
  · exact .nothing _
  next idle =>
  split
  · exact .nothing _
  · next hs =>
    obtain ⟨settings, hsettings⟩ := Option.ne_none_iff_exists'.1 (mt Option.isNone_iff_eq_none.2 hs)
    exact .started (Decidable.not_not.1 idle) hsettings

theorem stop_does (he : s.Equipped) (now : Nat) : s.Does now .stop (s.perform now .stop) := by
  simp only [perform, stop]
  split
  · exact .nothing _
  · next active =>
    have hstopped : s.Does now .stop _ := .stopped active
    obtain ⟨settings, hs⟩ := he active
    split
    · next server hj =>
      rw [hj] at hstopped
      rw [drive_eq (t := { s with job := .none }) hs]
      exact hstopped
    · next hserver =>
      rw [closing_of_ne_server hserver] at hstopped
      exact hstopped

theorem eraseFlash_does (s : Session) (now : Nat) :
    s.Does now .eraseFlash (s.perform now .eraseFlash) := by
  simp only [perform, eraseFlash]
  split
  · exact .nothing _
  next hp =>
  cases hs : s.settings with
  | none =>
    simp only [drive, hs]
    exact .nothing _
  | some settings =>
    rw [drive_eq hs]
    exact .erased hp hs

/-- **Whatever call is made, it does one of these things.** -/
theorem perform_does (he : s.Equipped) (now : Nat) (call : Call) :
    s.Does now call (s.perform now call) := by
  cases call with
  | configure settings =>
    simp only [perform, configure]
    split
    · next idle => exact .configured idle
    · exact .nothing _
  | start => exact start_does s now
  | stop => exact stop_does he now
  | sendOnline | sendOffline | sendToFlash | sendLegacyToFlash | sendSnapshot =>
    exact begin_does (fun settings => rfl) _
  | startServer data fileId =>
    simp only [perform, startServer, Outcome.map_map]
    exact begin_does (fun settings => rfl) _
  | stopServer =>
    rcases stopServer_cases he with ⟨e, h⟩ | ⟨server, active, hj, h⟩
    · simp only [perform, h]
      exact .nothing _
    · simp only [perform, h]
      exact .handedBack active hj
  | receive data =>
    rcases receive_cases s now data with ⟨r, h⟩ | ⟨settings, f, turn, hp, hs, hf, hturn, h⟩
    · simp only [perform, h]
      exact .nothing _
    · simp only [perform, h, map_advance]
      exact .turned hs (.receives hp hf hturn) _
  | checkTimeouts =>
    rcases checkTimeouts_cases s now with ⟨r, h⟩ | ⟨settings, hp, hs, h⟩
    · simp only [perform, h]
      exact .nothing _
    · simp only [perform, h, map_advance]
      exact .turned hs (.checks hp) _
  | eraseFlash => exact eraseFlash_does s now
  | reportProblem kind detail => exact .told

/-- A call leaves no session without settings that is not idle. -/
theorem perform_equipped (he : s.Equipped) (c : Call) :
    (s.perform now c).session.Equipped := by
  have hdoes := perform_does he now c
  generalize s.perform now c = o at hdoes
  cases hdoes with
  | nothing | erased | told => exact he
  | configured => exact equipped_of_settings rfl
  | started _ hs => exact equipped_of_settings hs
  | stopped | handedBack => exact equipped_of_idle rfl
  | turned hs => exact equipped_of_settings ((advance_settings _ _).trans hs)

end Calls

end Session

end GnssAiding
