/-
A turn: what a machine does to its host with one input. The machines of this
library are plain functions; what they write, how long they ask the host to
wait and what they report is the list `Turn.actions`, in order. A turn that
meets a fault keeps the actions before it.
-/
import GnssAiding.Event
import GnssAiding.Transfer.Settings

namespace GnssAiding

/-- One thing done to the host. -/
inductive Action
  /-- Bytes go to the receiver. -/
  | write (data : Bytes)
  /-- The host waits so many milliseconds. -/
  | wait (millis : Nat)
  /-- An event is reported. -/
  | report (event : Event)
deriving DecidableEq, Repr

def Action.event? : Action → Option Event
  | report e => some e
  | _ => none

/-- The actions of a turn, and its result or the fault it stopped on. -/
structure Turn (α : Type) where
  actions : List Action
  result : Except Fault α

/-- Under what a turn is taken. -/
structure Context where
  settings : Settings
  /-- The clock reading, in milliseconds. -/
  now : Nat
deriving DecidableEq, Repr

namespace Turn

instance : Monad Turn where
  pure a := ⟨[], .ok a⟩
  bind x f :=
    match x.result with
    | .error e => ⟨x.actions, .error e⟩
    | .ok a =>
      let y := f a
      ⟨x.actions ++ y.actions, y.result⟩

def act (a : Action) : Turn Unit := ⟨[a], .ok ()⟩

def write (data : Bytes) : Turn Unit := act (.write data)

def wait (millis : Nat) : Turn Unit := act (.wait millis)

def report (e : Event) : Turn Unit := act (.report e)

/-- The result of a check, or the fault. -/
def check {α} (x : Except Fault α) : Turn α := ⟨[], x⟩

/-- The clock reading at which what is sent now will be overdue. -/
def deadline (c : Context) : Turn Nat :=
  check (Checked.narrow 64 (c.now + c.settings.timeout))

theorem pure_def {α} (a : α) : (pure a : Turn α) = ⟨[], .ok a⟩ := rfl

theorem bind_ok {α β} (acts : List Action) (a : α) (f : α → Turn β) :
    ((⟨acts, .ok a⟩ : Turn α) >>= f) = ⟨acts ++ (f a).actions, (f a).result⟩ := rfl

theorem bind_error {α β} (acts : List Action) (e : Fault) (f : α → Turn β) :
    ((⟨acts, .error e⟩ : Turn α) >>= f) = ⟨acts, .error e⟩ := rfl

theorem map_ok {α β} (f : α → β) (acts : List Action) (a : α) :
    f <$> (⟨acts, .ok a⟩ : Turn α) = ⟨acts, .ok (f a)⟩ := by
  simp [Functor.map]

instance : LawfulMonad Turn := LawfulMonad.mk' Turn
  (fun x => by
    obtain ⟨acts, r⟩ := x
    cases r <;> simp [Functor.map])
  (fun _ _ => rfl)
  (fun x f g => by
    obtain ⟨acts, r⟩ := x
    cases r with
    | error e => rfl
    | ok a =>
      rw [bind_ok, bind_ok]
      rcases hf : f a with ⟨acts', r'⟩
      cases r' with
      | error e => simp [bind]
      | ok b => simp [bind])

end Turn

/-- Where a transfer stands after a turn. -/
inductive Step
  | running
  | finished
  | terminated (reason : TerminateReason)
deriving DecidableEq, Repr

end GnssAiding
