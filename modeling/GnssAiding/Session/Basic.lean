/-
A session: it is configured, started, given one job, and is idle again when
the job has ended. `Session.perform` is the whole of it, one call at a time;
an `Outcome` says what the session has become, what was done to the host,
and how the call ended.
-/
import GnssAiding.Session.Job

namespace GnssAiding

inductive SessionState
  | idle
  /-- Started, without a job. -/
  | waitingForData
  /-- At work on a job. -/
  | processing
deriving DecidableEq, Repr

/-- A session. -/
structure Session where
  state : SessionState
  settings : Option Settings
  job : Job
deriving DecidableEq, Repr

/-- What became of a frame from the receiver. -/
inductive Disposition
  | consumed
  | ignored
deriving DecidableEq, Repr

/-- What a call did. -/
structure Outcome (α : Type) where
  session : Session
  actions : List Action
  result : Except Failure α

/-- The events of the call, in order. -/
def Outcome.events {α} (o : Outcome α) : List Event := o.actions.filterMap Action.event?

/-- The outcome with its answer in another form. -/
def Outcome.map {α β} (f : α → β) (o : Outcome α) : Outcome β :=
  ⟨o.session, o.actions, o.result.map f⟩

namespace Session

/-- Idle and not configured. -/
def fresh : Session := ⟨.idle, none, .none⟩

/-! ## How calls end -/

/-- The call is refused and nothing happens. -/
def refuse {α} (s : Session) (e : Error) : Outcome α := ⟨s, [], .error (.refused e)⟩

/-- The call succeeds and does nothing to the host. -/
def accept {α} (s : Session) (a : α) : Outcome α := ⟨s, [], .ok a⟩

/-- The call succeeds unless its turn meets a fault. -/
def run {α} (s : Session) (turn : Turn (Session × α)) : Outcome α :=
  match turn.result with
  | .ok (t, a) => ⟨t, turn.actions, .ok a⟩
  | .error e => ⟨s, turn.actions, .error (.fault e)⟩

/-- The work of a call that has made `t` of the session, under the settings. Without
settings the call is refused, and what was made of the session stays. -/
def drive {α} (s t : Session) (work : Settings → Turn (Session × α)) : Outcome α :=
  match t.settings with
  | none => t.refuse .notConfigured
  | some settings => s.run (work settings)

/-- The session after a turn of its job: a job that has ended is let go. -/
def settle (s : Session) (job : Job) : Step → Turn Session
  | .running => pure { s with state := .processing, job := job }
  | .finished => do
    Turn.report .finish
    pure { s with state := .idle, job := .none }
  | .terminated reason => do
    Turn.report (.terminated reason)
    pure { s with state := .idle, job := .none }

/-! ## The calls -/

/-- Sets the settings of an idle session. -/
def configure (s : Session) (settings : Settings) : Outcome Unit :=
  if s.state = .idle then accept { s with settings := some settings } ()
  else s.refuse .alreadyRunning

/-- Starts a session, which can then be given a job. -/
def start (s : Session) : Outcome Unit :=
  if s.state ≠ .idle then s.refuse .alreadyRunning
  else if s.settings.isNone then s.refuse .notConfigured
  else accept { s with state := .waitingForData } ()

/-- Ends a session, whatever it is at. A server is taken out before it is stopped. -/
def stop (s : Session) : Outcome Unit :=
  if s.state = .idle then s.refuse .alreadyIdle
  else
    let cancel : Turn (Session × Unit) := do
      Turn.report (.terminated .hostCancel)
      pure ({ s with state := .idle, job := .none }, ())
    match s.job with
    | .server server =>
      s.drive { s with job := .none } fun _ => do
        let _ ← server.stop
        cancel
    | _ => s.run cancel

/-- Gives a started session a job. -/
def begin (s : Session) (now : Nat) (make : Settings → Except Failure Job) : Outcome Unit :=
  match s.state, s.settings with
  | .idle, _ => s.refuse .alreadyIdle
  | .processing, _ => s.refuse .alreadyRunning
  | .waitingForData, none => s.refuse .notConfigured
  | .waitingForData, some settings =>
    match make settings with
    | .error e => ⟨s, [], .error e⟩
    | .ok job =>
      s.drive { s with state := .processing, job := job } fun settings => do
        let (job, step) ← job.start ⟨settings, now⟩
        let s ← s.settle job step
        pure (s, ())

def sendOnline (s : Session) (now : Nat) (data : Bytes) (time : Option TimeAdjustment) :
    Outcome Unit :=
  s.begin now fun settings => Job.ofOnline settings data time

def sendOffline (s : Session) (now : Nat) (data : Bytes) (time : TimeAdjustment)
    (position : Option Position) : Outcome Unit :=
  s.begin now fun settings => Job.ofOffline settings data time position

def sendToFlash (s : Session) (now : Nat) (data : Bytes) : Outcome Unit :=
  s.begin now fun _ => Job.toFlash data

def sendLegacyToFlash (s : Session) (now : Nat) (data : Bytes) : Outcome Unit :=
  s.begin now fun _ => Job.legacyToFlash data

def sendSnapshot (s : Session) (now : Nat) (data : Bytes) : Outcome Unit :=
  s.begin now fun settings => Job.ofSnapshot settings data

/-- Serves a legacy file; the answer is the id it is served under. -/
def startServer (s : Session) (now : Nat) (data : Bytes) (fileId : UInt16) : Outcome UInt16 :=
  (s.begin now fun _ => Job.serve data fileId).map fun _ => fileId

/-- Stops serving and hands the file back, with the receiver's changes. The server is
taken out before it is stopped. -/
def stopServer (s : Session) : Outcome Bytes :=
  if s.state = .idle then s.refuse .alreadyIdle
  else
    match s.job with
    | .server server =>
      s.drive { s with job := .none } fun _ => do
        let file ← server.stop
        pure ({ s with state := .idle, job := .none }, file)
    | _ => s.refuse (.invalidArgument .noServerRunning)

/-- Takes bytes from the receiver, which count only if they are one frame. -/
def receive (s : Session) (now : Nat) (data : Bytes) : Outcome Disposition :=
  if s.state ≠ .processing then s.accept .ignored
  else
    match Frame.read data with
    | .error e => s.run (Turn.check (.error e))
    | .ok none => s.accept .ignored
    | .ok (some f) =>
      s.drive s fun settings =>
        match s.job.receive ⟨settings, now⟩ f with
        | none => pure (s, .ignored)
        | some turn => do
          let (job, step) ← turn
          let s ← s.settle job step
          pure (s, .consumed)

/-- Sees to what is overdue. -/
def checkTimeouts (s : Session) (now : Nat) : Outcome Unit :=
  if s.state ≠ .processing then s.accept ()
  else
    s.drive s fun settings => do
      let (job, step) ← s.job.checkTimeouts ⟨settings, now⟩
      let s ← s.settle job step
      pure (s, ())

/-- Erases the offline data in the receiver's flash. -/
def eraseFlash (s : Session) : Outcome Unit :=
  if s.state = .processing then s.refuse .alreadyRunning
  else
    s.drive s fun _ => do
      Turn.write Flash.eraseBytes
      pure (s, ())

/-- Reports that the host could not fetch data. -/
def reportProblem (s : Session) (kind : ServiceProblem) (detail : String) : Outcome Unit :=
  s.run do
    Turn.report (.serviceError kind detail)
    pure (s, ())

/-! ## All calls as one -/

/-- A call to a session. -/
inductive Call
  | configure (settings : Settings)
  | start
  | stop
  | sendOnline (data : Bytes) (time : Option TimeAdjustment)
  | sendOffline (data : Bytes) (time : TimeAdjustment) (position : Option Position)
  | sendToFlash (data : Bytes)
  | sendLegacyToFlash (data : Bytes)
  | sendSnapshot (data : Bytes)
  | startServer (data : Bytes) (fileId : UInt16)
  | stopServer
  | receive (data : Bytes)
  | checkTimeouts
  | eraseFlash
  | reportProblem (kind : ServiceProblem) (detail : String)
deriving DecidableEq, Repr

/-- The answer to a call. -/
inductive Answer
  | done
  | fileId (id : UInt16)
  | file (data : Bytes)
  | disposition (d : Disposition)
deriving DecidableEq, Repr

/-- What a call does at the clock reading `now`. -/
def perform (s : Session) (now : Nat) : Call → Outcome Answer
  | .configure settings => (s.configure settings).map fun _ => .done
  | .start => s.start.map fun _ => .done
  | .stop => s.stop.map fun _ => .done
  | .sendOnline data time => (s.sendOnline now data time).map fun _ => .done
  | .sendOffline data time position => (s.sendOffline now data time position).map fun _ => .done
  | .sendToFlash data => (s.sendToFlash now data).map fun _ => .done
  | .sendLegacyToFlash data => (s.sendLegacyToFlash now data).map fun _ => .done
  | .sendSnapshot data => (s.sendSnapshot now data).map fun _ => .done
  | .startServer data fileId => (s.startServer now data fileId).map .fileId
  | .stopServer => s.stopServer.map .file
  | .receive data => (s.receive now data).map .disposition
  | .checkTimeouts => (s.checkTimeouts now).map fun _ => .done
  | .eraseFlash => s.eraseFlash.map fun _ => .done
  | .reportProblem kind detail => (s.reportProblem kind detail).map fun _ => .done

end Session

end GnssAiding
