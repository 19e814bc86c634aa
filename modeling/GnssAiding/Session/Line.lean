/-
A session as the host holds it: behind a lock, with the listener that events
go to. Events are handed over when the call is over and the lock is free, so
a listener may call the session itself. A call that stops on a fault keeps
what it has written, loses its events and leaves the lock poisoned; after
that every call is refused.
-/
import GnssAiding.Session.Basic

namespace GnssAiding

/-- What a listener does with an event besides taking it. -/
structure Listener where
  /-- It asks for the state of the session. -/
  observes : Bool
  /-- It starts the session again when a transfer has ended. -/
  restarts : Bool
deriving DecidableEq, Repr

/-- Where a session reads the time. -/
inductive Clock
  /-- The host gives it with every call. -/
  | host
  /-- The session has a clock of its own that the host does not see: it does
  its own waiting, and it is read only where every reading gives the same. -/
  | own
deriving DecidableEq, Repr

/-- The services of the host. -/
structure Host where
  listener : Option Listener
  clock : Clock
deriving DecidableEq, Repr

namespace Clock

/-- The clock reading when the host's clock says `now`. -/
def reading (c : Clock) (now : Nat) : Nat :=
  match c with
  | host => now
  | own => 0

/-- Whether the host sees an action: reports have their own way, and so have
the waits of a clock of one's own. -/
def shows (c : Clock) : Action → Bool
  | .write _ => true
  | .wait _ => decide (c = host)
  | .report _ => false

end Clock

/-- An event as the listener took it. -/
structure Delivery where
  event : Event
  /-- The state that the listener saw. -/
  state : Option SessionState
  /-- How the start ended that the listener asked for. -/
  restart : Option (Except Failure Unit)

/-- A session behind its lock. -/
structure Line where
  session : Session
  host : Option Host
  poisoned : Bool
deriving DecidableEq, Repr

/-- What a call looks like from outside. -/
structure Entry (α : Type) where
  result : Except Failure α
  /-- What went to the receiver, and the waits between. -/
  writes : List Action
  deliveries : List Delivery

namespace Line

/-- A fresh session behind an open lock. -/
def fresh : Line := ⟨.fresh, none, false⟩

def clock (l : Line) : Clock := (l.host.map (·.clock)).getD .host

/-- Hands events to a listener one after the other. -/
def deliver (listener : Listener) : List Event → Session → List Delivery × Session
  | [], s => ([], s)
  | e :: es, s =>
    let seen := if listener.observes then some s.state else none
    let restart := if listener.restarts && e.isTerminal then some s.start else none
    let s := (restart.map (·.session)).getD s
    let (ds, s) := deliver listener es s
    (⟨e, seen, restart.map (·.result)⟩ :: ds, s)

/-- Takes over the outcome of a call, with the services of the host as they
are after it. -/
def conclude {α} (l : Line) (host : Option Host) (o : Outcome α) : Entry α × Line :=
  let writes := o.actions.filter l.clock.shows
  match o.result with
  | .error (.fault _) => (⟨o.result, writes, []⟩, { l with poisoned := true })
  | _ =>
    match host.bind (·.listener) with
    | none => (⟨o.result, writes, []⟩, ⟨o.session, host, false⟩)
    | some listener =>
      let (ds, s) := deliver listener o.events o.session
      (⟨o.result, writes, ds⟩, ⟨s, host, false⟩)

def refused {α} (l : Line) (e : Error) : Entry α × Line := (⟨.error (.refused e), [], []⟩, l)

/-- Configures the session and sets the services of the host. -/
def configure (l : Line) (settings : Settings) (host : Host) : Entry Session.Answer × Line :=
  if l.poisoned then l.refused .lockPoisoned
  else
    let o := l.session.perform 0 (.configure settings)
    match o.result with
    | .ok _ => l.conclude (some host) o
    | .error _ => l.conclude l.host o

/-- Any other call, when the host's clock says `now`. -/
def call (l : Line) (now : Nat) (c : Session.Call) : Entry Session.Answer × Line :=
  if l.poisoned then l.refused .lockPoisoned
  else l.conclude l.host (l.session.perform (l.clock.reading now) c)

/-- Lets go of the session; a fresh one takes its place. The listener is not
held any more and does nothing but take the events. -/
def release (l : Line) : Entry Session.Answer × Line :=
  if l.poisoned then (⟨.ok .done, [], []⟩, fresh)
  else
    let o := l.session.stop
    let listens := (l.host.bind (·.listener)).isSome
    let taken := if listens then o.events.map fun e => ⟨e, none, none⟩ else []
    (⟨.ok .done, o.actions.filter l.clock.shows, taken⟩, fresh)

/-- The state of the session. -/
def state (l : Line) : Except Error SessionState :=
  if l.poisoned then .error .lockPoisoned else .ok l.session.state

/-- The phase of the transfer of a legacy file. -/
def legacyPhase (l : Line) : Except Error Legacy.Phase :=
  if l.poisoned then .error .lockPoisoned else .ok l.session.job.legacyPhase

end Line

end GnssAiding
