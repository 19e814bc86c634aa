/-
The journal of a transfer: everything it does to its host over a history, each
action with the occasion it was done on (`Transfer.journal`). Without the
occasions it is what the history does (`map_action_journal`). From a journal
one reads what was written, what was reported as sent, and the events about a
single message (`about`), which is told by its sequence number.
-/
import GnssAiding.Proofs.Transfer.History

namespace GnssAiding

/-! ## Events about messages -/

/-- The message that an event is about. -/
def Event.message? : Event → Option MessageReport
  | .messageSent r | .messageComplete r | .messageFailed r => some r
  | _ => none

/-- The event says that a message is done. -/
def Event.concludes : Event → Bool
  | .messageComplete _ | .messageFailed _ => true
  | _ => false

namespace Transfer

/-! ## Entries -/

/-- What gives occasion to a turn. -/
inductive Occasion
  | start (now : Nat)
  | input (i : Input)
deriving DecidableEq, Repr

/-- The clock reading of an occasion. -/
def Occasion.now : Occasion → Nat
  | start now => now
  | input i => i.now

/-- An action with the occasion it was done on. -/
structure Entry where
  occasion : Occasion
  action : Action
deriving DecidableEq, Repr

/-- What a turn does, and then what follows unless it stopped on a fault. -/
def note {α} (o : Occasion) (x : Turn α) (rest : α → List Entry) : List Entry :=
  x.actions.map (Entry.mk o) ++
    match x.result with
    | .ok a => rest a
    | .error _ => []

/-- The entries of inputs that are taken one after another. -/
def journalFrom (s : Settings) : List Input → Transfer × Step → List Entry
  | [], _ => []
  | i :: is, p => note (.input i) (take s p i) (journalFrom s is)

/-- The entries of a whole history. -/
def journal (s : Settings) (now : Nat) (inputs : List Input) (t : Transfer) : List Entry :=
  note (.start now) (t.start ⟨s, now⟩) (journalFrom s inputs)

theorem map_action_note {α β} (o : Occasion) (x : Turn α) {f : α → Turn β} {rest : α → List Entry}
    (h : ∀ a, (rest a).map Entry.action = (f a).actions) :
    (note o x rest).map Entry.action = (x >>= f).actions := by
  obtain ⟨acts, r⟩ := x
  cases r with
  | error e => simp [note, Turn.bind_error, Function.comp_def]
  | ok a => simp [note, Turn.bind_ok, h, Function.comp_def]

theorem map_action_journalFrom (s : Settings) (inputs : List Input) (p : Transfer × Step) :
    (journalFrom s inputs p).map Entry.action = (inputs.foldlM (take s) p).actions := by
  induction inputs generalizing p with
  | nil => rfl
  | cons i is ih =>
    rw [journalFrom, List.foldlM_cons]
    exact map_action_note (.input i) (take s p i) fun q => ih q

/-- The journal is what the history does, with the occasions. -/
theorem map_action_journal (s : Settings) (now : Nat) (inputs : List Input) (t : Transfer) :
    (t.journal s now inputs).map Entry.action = (t.history s now inputs).actions :=
  map_action_note (.start now) (t.start ⟨s, now⟩) fun p => map_action_journalFrom s inputs p

/-! ## What a journal says -/

/-- The event of an entry, with its occasion. -/
def Entry.event? (e : Entry) : Option (Occasion × Event) :=
  e.action.event?.map fun event => (e.occasion, event)

/-- The events about the message with sequence number `i`. -/
def about (i : Nat) (es : List Entry) : List (Occasion × Event) :=
  (es.filterMap Entry.event?).filter fun x => x.2.message?.any fun r => decide (r.sequence = i)

/-- What was written to the receiver. -/
def writes (es : List Entry) : List Bytes :=
  es.filterMap fun e =>
    match e.action with
    | .write data => some data
    | _ => none

/-- The messages that were reported as sent. -/
def sendings (es : List Entry) : List MessageReport :=
  es.filterMap fun e =>
    match e.action with
    | .report (.messageSent r) => some r
    | _ => none

theorem about_append (i : Nat) (es fs : List Entry) :
    about i (es ++ fs) = about i es ++ about i fs := by
  simp only [about, List.filterMap_append, List.filter_append]

theorem writes_append (es fs : List Entry) : writes (es ++ fs) = writes es ++ writes fs :=
  List.filterMap_append

theorem sendings_append (es fs : List Entry) : sendings (es ++ fs) = sendings es ++ sendings fs :=
  List.filterMap_append

/-- What the conclusion of a message says about messages. -/
theorem about_conclusion (i : Nat) (o : Occasion) (m : Message) (failure : Option FailureReason) :
    about i [⟨o, .report (m.conclusion failure)⟩] =
      if m.sequence = i then [(o, m.conclusion failure)] else [] := by
  cases failure with
  | none | some reason =>
    simp only [about, Entry.event?, Action.event?, Message.conclusion, Message.settled,
      Message.report, Event.message?, List.filterMap_cons, List.filterMap_nil, Option.map_some,
      Option.isNone_none, Option.isNone_some, if_true, Bool.false_eq_true, if_false]
    by_cases hi : m.sequence = i <;> simp [hi]

/-- What sending a message says about messages. -/
theorem about_transmission (i : Nat) (o : Occasion) (m : Message) :
    about i (m.transmission.map (Entry.mk o)) =
      if m.sequence = i then [(o, .messageSent m.report)] else [] := by
  simp only [about, Entry.event?, Action.event?, Message.transmission, Message.report,
    Event.message?, List.map_cons, List.map_nil, List.filterMap_cons, List.filterMap_nil,
    Option.map_none, Option.map_some]
  by_cases hi : m.sequence = i <;> simp [hi]

/-- What sending some messages says about one of them. -/
theorem about_transmissions (i : Nat) (o : Occasion) (ms : List Message) :
    about i ((ms.flatMap Message.transmission).map (Entry.mk o)) =
      (ms.filter fun m => decide (m.sequence = i)).map fun m => (o, .messageSent m.report) := by
  induction ms with
  | nil => rfl
  | cons m ms ih =>
    rw [List.flatMap_cons, List.map_append, about_append, about_transmission, ih]
    by_cases hi : m.sequence = i <;> simp [hi]

theorem writes_transmissions (o : Occasion) (ms : List Message) :
    writes ((ms.flatMap Message.transmission).map (Entry.mk o)) =
      ms.map fun m => m.frame.bytes := by
  induction ms with
  | nil => rfl
  | cons m ms ih =>
    rw [List.flatMap_cons, List.map_append, writes_append, ih]
    rfl

theorem sendings_transmissions (o : Occasion) (ms : List Message) :
    sendings ((ms.flatMap Message.transmission).map (Entry.mk o)) = ms.map Message.report := by
  induction ms with
  | nil => rfl
  | cons m ms ih =>
    rw [List.flatMap_cons, List.map_append, sendings_append, ih]
    rfl

end Transfer

end GnssAiding
