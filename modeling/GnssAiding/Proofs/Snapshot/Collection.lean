/-
Collecting a snapshot of the navigation data base.

A push stores a message, ends the collection, or changes nothing (`Collector.push_does`),
and it stores and ends just where it should while the messages can be counted
(`Collector.careful_of_mem`). So at any time the collector holds messages that belong in a
snapshot, one behind the other, and their number (`Collector.Holds`), and these are the
strings that it answered as stored (`Collector.Holds.collected`). Such data is accepted as
a snapshot, and all of it is worth sending (`Collector.Holds.validate_eq_ok`,
`Collector.Holds.list_eq_ok`).
-/
import GnssAiding.Proofs.Message.List
import GnssAiding.Snapshot

namespace GnssAiding.Snapshot

theorem belongs_iff {f : Frame} :
    belongs f = true ↔
      f.kind? = some .mgaDbd ∧ f.payload.length ≤ maxPayload ∧ f.intact = true := by
  simp [belongs, and_assoc]

/-- A message of the data base is worth sending. -/
theorem wanted_of_belongs {f : Frame} (h : belongs f = true) : f.wanted = true := by
  obtain ⟨hkind, -, hintact⟩ := belongs_iff.1 h
  have hinterest : f.header.ofInterest = true := Option.isSome_iff_exists.2 ⟨_, hkind⟩
  rw [Frame.wanted, hinterest, hintact]
  rfl

/-- The frame is a message of the data base. One with an empty payload is the poll for
them. -/
structure IsMessage (f : Frame) : Prop where
  belongs : belongs f = true
  notPoll : f.payload ≠ []

/-- The frame closes a snapshot of `n` messages. -/
structure Closes (f : Frame) (n : Nat) : Prop where
  kind : f.kind? = some .mgaAck
  long : 8 ≤ f.payload.length
  about : f.payload[3]? = some MgaId.dbd
  count : Collector.reported f.payload = n

namespace Collector

/-! ## One push -/

/-- What a push can do. -/
inductive Does (c : Collector) (data : Bytes) : Except Failure Status → Collector → Prop
  | stored {f : Frame} (hopen : c.complete = false) (hparse : Frame.parse? data = some f)
    (hf : IsMessage f) :
    Does c data (.ok .stored) { c with data := c.data ++ data, messages := c.messages + 1 }
  | completed {f : Frame} (hopen : c.complete = false) (hparse : Frame.parse? data = some f)
    (hf : Closes f c.messages) : Does c data (.ok .complete) { c with complete := true }
  | ignored : Does c data (.ok .ignored) c
  | refused (hopen : c.complete = false) : Does c data (.error (.refused .badData)) c
  /-- The number of messages has 32 bits. -/
  | full (h : Nat.pow 2 32 ≤ c.messages + 1) : Does c data (.error (.fault .overflow)) c

/-- **Whatever is pushed, it does one of these things.** -/
theorem push_does (c : Collector) (data : Bytes) :
    Does c data (c.push data).1 (c.push data).2 := by
  unfold push
  split
  · exact .ignored
  next f hparse =>
  have hintact : f.intact = true := (Frame.parse?_eq_some_iff.1 hparse).1
  split
  · exact .ignored
  next hclosed =>
  have hopen : c.complete = false := Bool.not_eq_true _ ▸ hclosed
  split
  · next hstore =>
    split
    · exact .refused hopen
    next hlong =>
    have hf := belongs_iff.2 ⟨hstore.1, Nat.le_of_not_lt hlong, hintact⟩
    by_cases hroom : c.messages + 1 < Nat.pow 2 32
    · simp only [Checked.narrow, if_pos hroom]
      exact .stored hopen hparse ⟨hf, hstore.2⟩
    · simp only [Checked.narrow, if_neg hroom]
      exact .full (Nat.le_of_not_lt hroom)
  · split
    · next hclose =>
      split
      · next hcount => exact .completed hopen hparse ⟨hclose.1, hclose.2.1, hclose.2.2, hcount⟩
      · exact .refused hopen
    · exact .ignored

section Push

variable {c : Collector} {data : Bytes} {f : Frame}

/-- An open collection that can count one more takes a message. -/
theorem push_of_isMessage (hopen : c.complete = false) (hparse : Frame.parse? data = some f)
    (hf : IsMessage f) (hroom : c.messages + 1 < Nat.pow 2 32) :
    c.push data = (.ok .stored, { c with data := c.data ++ data, messages := c.messages + 1 }) := by
  obtain ⟨hkind, hshort, -⟩ := belongs_iff.1 hf.belongs
  simp only [push, hparse, hopen, Bool.false_eq_true, if_false, hkind, ne_eq, hf.notPoll,
    not_false_eq_true, and_self, if_true, Nat.not_lt.2 hshort, Checked.narrow, hroom]

/-- An open collection is complete on the acknowledgement that counts what it holds. -/
theorem push_of_closes (hopen : c.complete = false) (hparse : Frame.parse? data = some f)
    (hf : Closes f c.messages) : c.push data = (.ok .complete, { c with complete := true }) := by
  have hother : ¬ (f.kind? = some .mgaDbd ∧ f.payload ≠ []) := by simp [hf.kind]
  have hclose : f.kind? = some .mgaAck ∧ 8 ≤ f.payload.length ∧ f.payload[3]? = some MgaId.dbd :=
    ⟨hf.kind, hf.long, hf.about⟩
  simp only [push, hparse, hopen, Bool.false_eq_true, if_false, if_neg hother, if_pos hclose,
    hf.count, if_true]

/-- A collection that is complete stays as it is. -/
theorem push_of_complete (h : c.complete = true) (data : Bytes) :
    c.push data = (.ok .ignored, c) := by
  unfold push
  split
  · rfl
  · rw [if_pos h]

end Push

section Does

variable {c c' : Collector} {data : Bytes} {answer : Except Failure Status}

theorem Does.messages_le (h : Does c data answer c') : c'.messages ≤ c.messages + 1 := by
  cases h with
  | stored => exact Nat.le_refl _
  | _ => exact Nat.le_succ _

/-- What is refused or ignored changes nothing. -/
theorem Does.unchanged (h : Does c data answer c')
    (hanswer : answer = .ok .ignored ∨ ∃ e, answer = .error e) : c' = c := by
  cases h with
  | stored | completed =>
    rcases hanswer with hanswer | ⟨e, hanswer⟩
    · cases hanswer
    · cases hanswer
  | _ => rfl

/-- The only fault is that the messages cannot be counted. -/
theorem Does.full_of_fault {f : Fault} (h : Does c data (.error (.fault f)) c') :
    Nat.pow 2 32 ≤ c.messages + 1 := by
  cases h with
  | full hfull => exact hfull

theorem Does.isMessage (h : Does c data (.ok .stored) c') :
    c.complete = false ∧ ∃ f, Frame.parse? data = some f ∧ IsMessage f := by
  cases h with
  | stored hopen hparse hf => exact ⟨hopen, _, hparse, hf⟩

/-- What closes the collection counts what is in it. -/
theorem Does.closes (h : Does c data (.ok .complete) c') :
    c.complete = false ∧ ∃ f, Frame.parse? data = some f ∧ Closes f c.messages := by
  cases h with
  | completed hopen hparse hf => exact ⟨hopen, _, hparse, hf⟩

theorem Does.complete (h : Does c data (.ok .complete) c') : c'.complete = true := by
  cases h with
  | completed => rfl

end Does

/-! ## Many pushes -/

/-- A push, with what was collected before it and after it. -/
structure Push where
  data : Bytes
  before : Collector
  answer : Except Failure Status
  after : Collector

/-- The strings pushed one after another. -/
def pushes (c : Collector) : List Bytes → List Push
  | [] => []
  | data :: more => ⟨data, c, (c.push data).1, (c.push data).2⟩ :: pushes (c.push data).2 more

/-- What is collected when they have been pushed. -/
def collected (c : Collector) : List Bytes → Collector
  | [] => c
  | data :: more => collected (c.push data).2 more

/-- The push meets no fault, and changes nothing if it is refused or ignored. A message is
stored while the collection is open, and nothing else is; the collection is complete on a
count of the messages in it, and on nothing else. -/
structure Push.Careful (p : Push) : Prop where
  noFault : ∀ f, p.answer ≠ .error (.fault f)
  unchanged : (p.answer = .ok .ignored ∨ ∃ e, p.answer = .error e) → p.after = p.before
  stored_iff : p.answer = .ok .stored ↔ p.before.complete = false ∧
    ∃ f, Frame.parse? p.data = some f ∧ IsMessage f
  complete_iff : p.answer = .ok .complete ↔ p.before.complete = false ∧
    ∃ f, Frame.parse? p.data = some f ∧ Closes f p.before.messages

/-- The string that was pushed, if it was answered as stored. -/
def Push.stored? (p : Push) : Option Bytes :=
  match p.answer with
  | .ok .stored => some p.data
  | _ => none

/-- The strings that are answered as stored. -/
def stored (c : Collector) (strings : List Bytes) : List Bytes :=
  (c.pushes strings).filterMap Push.stored?

section Pushes

variable {c : Collector} {strings : List Bytes}

theorem push_of_mem {p : Push} (h : p ∈ c.pushes strings) :
    p.before.push p.data = (p.answer, p.after) := by
  induction strings generalizing c with
  | nil => cases h
  | cons data more ih =>
    rcases List.mem_cons.1 h with rfl | h
    · rfl
    · exact ih h

theorem does_of_mem {p : Push} (h : p ∈ c.pushes strings) :
    Does p.before p.data p.answer p.after := by
  have hdoes := push_does p.before p.data
  rwa [push_of_mem h] at hdoes

/-- Each push counts one message at most. -/
theorem messages_lt_of_mem {p : Push} (h : p ∈ c.pushes strings) :
    p.before.messages < c.messages + strings.length := by
  induction strings generalizing c with
  | nil => cases h
  | cons data more ih =>
    rw [List.length_cons]
    rcases List.mem_cons.1 h with rfl | h
    · exact Nat.lt_add_of_pos_right (Nat.succ_pos _)
    · have hle := (push_does c data).messages_le
      have hlt := ih h
      omega

/-- While the messages can be counted, every push is careful. -/
theorem careful_of_mem (hc : c.messages + strings.length < Nat.pow 2 32) {p : Push}
    (h : p ∈ c.pushes strings) : p.Careful where
  noFault f hf := by
    have hfull := (hf ▸ does_of_mem h).full_of_fault
    have hlt := messages_lt_of_mem h
    omega
  unchanged := (does_of_mem h).unchanged
  stored_iff := by
    refine ⟨fun hp => (hp ▸ does_of_mem h).isMessage, fun ⟨hopen, f, hparse, hf⟩ => ?_⟩
    have hlt := messages_lt_of_mem h
    have hpush := push_of_isMessage hopen hparse hf (by omega)
    exact congrArg Prod.fst ((push_of_mem h).symm.trans hpush)
  complete_iff := by
    refine ⟨fun hp => (hp ▸ does_of_mem h).closes, fun ⟨hopen, f, hparse, hf⟩ => ?_⟩
    exact congrArg Prod.fst ((push_of_mem h).symm.trans (push_of_closes hopen hparse hf))

/-- Pushed into a complete collection, nothing is taken. -/
theorem unchanged_of_complete {p : Push} (hc : c.complete = true) (h : p ∈ c.pushes strings) :
    p.answer = .ok .ignored ∧ p.after = p.before := by
  induction strings generalizing c with
  | nil => cases h
  | cons data more ih =>
    have hpush := push_of_complete hc data
    rcases List.mem_cons.1 h with rfl | h
    · rw [hpush]
      exact ⟨rfl, rfl⟩
    · rw [hpush] at h
      exact ih hc h

/-- Behind the push that completes the collection, nothing is taken. -/
theorem pairwise_pushes (c : Collector) (strings : List Bytes) :
    (c.pushes strings).Pairwise fun p q =>
      p.answer = .ok .complete → q.answer = .ok .ignored ∧ q.after = q.before := by
  induction strings generalizing c with
  | nil => exact .nil
  | cons data more ih =>
    refine .cons (fun q hq hanswer => ?_) (ih _)
    have hdoes := push_does c data
    simp only at hanswer
    rw [hanswer] at hdoes
    exact unchanged_of_complete hdoes.complete hq

end Pushes

/-! ## What is collected -/

/-- The collector holds these frames, which belong in a snapshot. -/
structure Holds (c : Collector) (fs : List Frame) : Prop where
  data : c.data = fs.flatMap Frame.bytes
  messages : c.messages = fs.length
  belong : ∀ f ∈ fs, belongs f = true

theorem Holds.empty : Holds empty [] := ⟨rfl, rfl, by simp⟩

section Holds

variable {c : Collector} {fs : List Frame}

theorem Holds.store (h : c.Holds fs) {f : Frame} (hf : belongs f = true) :
    Holds { c with data := c.data ++ f.bytes, messages := c.messages + 1 } (fs ++ [f]) where
  data := by rw [h.data, List.flatMap_append, List.flatMap_singleton]
  messages := by rw [h.messages, List.length_append, List.length_singleton]
  belong g hg := by
    rcases List.mem_append.1 hg with hg | hg
    · exact h.belong g hg
    · rw [List.mem_singleton.1 hg]
      exact hf

/-- What is collected is what was there and what was answered as stored. -/
theorem Holds.collected (h : c.Holds fs) (strings : List Bytes) :
    ∃ gs, c.stored strings = gs.map Frame.bytes ∧
      (c.collected strings).Holds (fs ++ gs) := by
  induction strings generalizing c fs with
  | nil => exact ⟨[], rfl, by rwa [List.append_nil]⟩
  | cons data more ih =>
    have hdoes := push_does c data
    simp only [stored, pushes, Collector.collected, List.filterMap_cons, Push.stored?]
    generalize c.push data = r at hdoes
    obtain ⟨answer, c'⟩ := r
    cases hdoes with
    | @stored f _ hparse hf =>
      obtain ⟨-, rfl⟩ := Frame.parse?_eq_some_iff.1 hparse
      obtain ⟨gs, hstored, hholds⟩ := ih (h.store hf.belongs)
      refine ⟨f :: gs, ?_, by rwa [List.append_assoc] at hholds⟩
      rw [List.map_cons, ← hstored]
      rfl
    | completed => exact ih ⟨h.data, h.messages, h.belong⟩
    | _ => exact ih h

/-- What is collected is a snapshot, unless it is nothing. -/
theorem Holds.validate_eq_ok (h : c.Holds fs) (hne : fs ≠ []) : validate c.data = .ok () := by
  have hall : (Stream.locate 0 fs).all (fun l => belongs l.frame) = true := by
    have hbelong : fs.all belongs = true := List.all_eq_true.2 h.belong
    rwa [← Stream.map_frame_locate 0 fs, List.all_map] at hbelong
  have hsome : (Stream.locate 0 fs).isEmpty = false := by
    rw [List.isEmpty_eq_false_iff, ← List.length_pos_iff, Stream.length_locate,
      List.length_pos_iff]
    exact hne
  rw [h.data]
  simp only [validate, Stream.frames_flatMap, bind, Except.bind, hall, hsome, if_true]
  rfl

/-- What is collected is listed whole. -/
theorem Holds.list_eq_ok (h : c.Holds fs) (hne : fs ≠ []) :
    ∃ messages, Message.list c.data = .ok messages ∧ messages.length = fs.length ∧
      messages.map (·.bytesIn c.data) = (fs.map Frame.bytes).map .ok := by
  have hwanted : ∀ f ∈ fs, f.wanted = true := fun f hf => wanted_of_belongs (h.belong f hf)
  have hlength : (Message.ofFrames fs).length = fs.length := by
    rw [Message.length_ofFrames, List.countP_eq_length]
    exact hwanted
  have hsome : Message.ofFrames fs ≠ [] := by
    rw [← List.length_pos_iff, hlength, List.length_pos_iff]
    exact hne
  refine ⟨Message.ofFrames fs, ?_, hlength, ?_⟩
  · rw [h.data, Message.list_flatMap, if_neg hsome]
  · rw [h.data, Message.map_bytesIn_ofFrames, List.filter_eq_self.2 hwanted, List.map_map]
    rfl

end Holds

end Collector

end GnssAiding.Snapshot
