/-
A transfer over its whole life: it is made from a blob, started, and takes
frames and ticks in any order, also when it has finished already.

An input leads to moves and to nothing else (`take_comes`). While no deadline leaves
the clock's range, no input meets a fault, and what every move keeps holds after
every input (`history_yields`). So do the books of the queue (`history_consistent`).
-/
import GnssAiding.Proofs.Frame.Stream
import GnssAiding.Proofs.Message.List
import GnssAiding.Proofs.Transfer.Move

namespace GnssAiding

open Turn

/-! ## Messages that have not been sent -/

/-- The messages of a blob are fresh, and there are some. -/
theorem Message.untouched_of_list {data : Bytes} {ms : List Message}
    (h : Message.list data = .ok ms) : ms ≠ [] ∧ ∀ m ∈ ms, m.Untouched := by
  obtain ⟨-, hne, rfl⟩ := list_eq_ok_iff.1 h
  refine ⟨hne, fun m hm => ?_⟩
  obtain ⟨i, hi, rfl⟩ := List.mem_mapIdx.1 hm
  exact ⟨rfl, rfl⟩

/-- The messages of a blob stand in it where they say. -/
theorem Queue.sliced_of_list {data : Bytes} {ms : List Message} (h : Message.list data = .ok ms) :
    Sliced ⟨data, ms, 0, 0, 0⟩ := by
  obtain ⟨-, -, rfl⟩ := Message.list_eq_ok_iff.1 h
  intro l hl
  obtain ⟨m, hm, rfl⟩ := List.mem_map.1 hl
  obtain ⟨i, hi, rfl⟩ := List.mem_mapIdx.1 hm
  exact Stream.slice_locate (List.mem_filter.1 (List.getElem_mem hi)).1

/-- What is done in `q` stands unchanged in `r`. -/
def Queue.DoneIn (q r : Queue) : Prop :=
  ∀ (i : Nat) (m : Message), q.messages[i]? = some m → m.state.isDone = true →
    r.messages[i]? = some m

/-! ## Places among inputs -/

/-- There are `n` places, one behind the other, of which the `i`-th is one for `i`. -/
def Places (P : Nat → Nat → Prop) (n : Nat) : Prop :=
  ∃ places : List Nat, places.length = n ∧ places.Pairwise (· < ·) ∧
    ∀ (i place : Nat), places[i]? = some place → P i place

section Places

variable {P Q : Nat → Nat → Prop} {n : Nat}

theorem Places.nil : Places P 0 := ⟨[], rfl, .nil, by simp⟩

theorem Places.mono (h : Places P n) (hpq : ∀ i place, P i place → Q i place) : Places Q n := by
  obtain ⟨places, hlen, hsorted, hall⟩ := h
  exact ⟨places, hlen, hsorted, fun i place hp => hpq i place (hall i place hp)⟩

/-- One place more, behind the others. -/
theorem Places.concat {last : Nat} (h : Places P n)
    (hpq : ∀ i place, P i place → place < last ∧ Q i place) (hlast : Q n last) :
    Places Q (n + 1) := by
  obtain ⟨places, hlen, hsorted, hall⟩ := h
  refine ⟨places ++ [last], ?_, ?_, ?_⟩
  · rw [List.length_append, hlen, List.length_singleton]
  · refine List.pairwise_append.2 ⟨hsorted, List.pairwise_singleton _ _, ?_⟩
    intro place hp last' hl
    rw [List.mem_singleton.1 hl]
    obtain ⟨i, hi⟩ := List.getElem?_of_mem hp
    exact (hpq i place (hall i place hi)).1
  · intro i place hp
    by_cases hi : i < places.length
    · rw [List.getElem?_append_left hi] at hp
      exact (hpq i place (hall i place hp)).2
    · have hlt := (List.getElem?_eq_some_iff.1 hp).1
      rw [List.length_append, List.length_singleton] at hlt
      obtain rfl : i = n := by omega
      rw [← hlen, List.getElem?_concat_length] at hp
      cases hp
      exact hlast

end Places

namespace Transfer

theorem ofData_of_list {data : Bytes} {messages : List Message}
    (h : Message.list data = .ok messages) (s : Settings) :
    ofData data s = .ok ⟨⟨data, messages, 0, 0, 0⟩, s.discipline, s.budget⟩ := by
  unfold ofData Queue.ofData
  rw [h]
  rfl

theorem ofData_eq_ok {data : Bytes} {s : Settings} {t : Transfer} (h : ofData data s = .ok t) :
    ∃ ms, Message.list data = .ok ms ∧ t = ⟨⟨data, ms, 0, 0, 0⟩, s.discipline, s.budget⟩ := by
  unfold ofData Queue.ofData at h
  cases hl : Message.list data with
  | error e => rw [hl] at h; cases h
  | ok ms =>
    rw [hl] at h
    cases h
    exact ⟨ms, rfl, rfl⟩

theorem discipline_of_ofData {data : Bytes} {s : Settings} {t : Transfer}
    (h : ofData data s = .ok t) : t.discipline = s.discipline := by
  obtain ⟨ms, -, rfl⟩ := ofData_eq_ok h
  rfl

theorem next_of_ofData {data : Bytes} {s : Settings} {t : Transfer} (h : ofData data s = .ok t) :
    t.queue.next = 0 := by
  obtain ⟨ms, -, rfl⟩ := ofData_eq_ok h
  rfl

theorem consistent_of_ofData {data : Bytes} {s : Settings} {t : Transfer}
    (h : ofData data s = .ok t) : t.queue.Consistent := by
  obtain ⟨ms, hl, rfl⟩ := ofData_eq_ok h
  have hms : ms = [] ++ ms := rfl
  exact .of_append hms rfl (by simp) (Message.untouched_of_list hl).2 rfl rfl
    (Queue.sliced_of_list hl)

theorem consistent_started {c : Context} {t : Transfer} (h : t.queue.Consistent) :
    (t.started c).queue.Consistent := by
  unfold started
  split
  · exact h.sentAll c
  · exact h.sentNext c _

/-! ## Inputs -/

/-- What comes to a transfer that has begun, and when. -/
inductive Input
  | frame (now : Nat) (f : Frame)
  | tick (now : Nat)
deriving DecidableEq, Repr

/-- The clock reading of an input. -/
def Input.now : Input → Nat
  | frame now _ | tick now => now

/-- Takes an input. A frame that is not for the transfer leaves it where it
stands. -/
def take (s : Settings) (p : Transfer × Step) : Input → Turn (Transfer × Step)
  | .frame now f => (p.1.receive ⟨s, now⟩ f).getD (pure p)
  | .tick now => p.1.checkTimeouts ⟨s, now⟩

/-- Begins at the clock reading `now` and takes inputs one after another. -/
def history (s : Settings) (now : Nat) (inputs : List Input) (t : Transfer) :
    Turn (Transfer × Step) := do
  let p ← t.start ⟨s, now⟩
  inputs.foldlM (take s) p

theorem history_append (s : Settings) (now : Nat) (inputs more : List Input) (t : Transfer) :
    t.history s now (inputs ++ more) = t.history s now inputs >>= more.foldlM (take s) := by
  simp only [history, List.foldlM_append, bind_assoc]

/-- An input leads to moves, and to nothing else. -/
theorem take_comes {s : Settings} {p : Transfer × Step} (hc : p.1.queue.Consistent)
    (hp : p.2 = p.1.queue.step) (i : Input) :
    ∃ acts u, (take s p i).Comes ⟨s, i.now⟩ acts (u, u.queue.step) ∧
      Moves ⟨s, i.now⟩ p.1 acts u := by
  cases i with
  | frame now f =>
    simp only [take]
    cases hr : p.1.receive ⟨s, now⟩ f with
    | none =>
      refine ⟨[], p.1, ?_, .nil p.1⟩
      rw [← hp]
      exact .pure p
    | some turn =>
      obtain ⟨i, acts, u, hturn, hanswer⟩ := receive_comes hc hr
      exact ⟨acts, u, hturn, hanswer.move.moves⟩
  | tick now =>
    obtain ⟨n, acts, u, hturn, hlapses, -⟩ := checkTimeouts_comes ⟨s, now⟩ hc
    exact ⟨acts, u, hturn, hlapses.moves⟩

section

variable {s : Settings} {I : Transfer → Prop} (consistent : ∀ {t}, I t → t.queue.Consistent)
  (step : ∀ {c t u i acts}, c.settings = s → Move c t i acts u → I t → I u)

include consistent step

theorem take_yields {p : Transfer × Step} (hp : I p.1 ∧ p.2 = p.1.queue.step) {i : Input}
    (hi : Context.Fits ⟨s, i.now⟩) :
    (take s p i).Yields fun q => I q.1 ∧ q.2 = q.1.queue.step := by
  obtain ⟨acts, u, hturn, hmoves⟩ := take_comes (consistent hp.1) hp.2 i
  exact ⟨acts, _, hturn.eq hi, hmoves.keeps (step rfl) hp.1, rfl⟩

theorem takeAll_yields {p : Transfer × Step} (hp : I p.1 ∧ p.2 = p.1.queue.step)
    {inputs : List Input} (hin : ∀ i ∈ inputs, Context.Fits ⟨s, i.now⟩) :
    (inputs.foldlM (take s) p).Yields fun q => I q.1 ∧ q.2 = q.1.queue.step :=
  .foldlM (fun i hi _ hq => take_yields consistent step hq (hin i hi)) hp

/-- **What the start brings about and every move keeps** holds after every
input, and no input meets a fault. -/
theorem history_yields {t : Transfer} {now : Nat} {inputs : List Input}
    (hnow : Context.Fits ⟨s, now⟩) (hin : ∀ i ∈ inputs, Context.Fits ⟨s, i.now⟩)
    (hq : t.queue.Sliced) (ht : I (t.started ⟨s, now⟩)) :
    (t.history s now inputs).Yields fun q => I q.1 ∧ q.2 = q.1.queue.step := by
  unfold history
  rw [start_eq hnow hq]
  refine Yields.bind (P := fun q => I q.1 ∧ q.2 = q.1.queue.step) ⟨_, _, rfl, ht, rfl⟩ ?_
  intro q hq
  exact takeAll_yields consistent step hq hin

/-- The same without a word about faults: whatever the clock says, it holds of
every result there is. -/
theorem take_keeps {p q : Transfer × Step} (hp : I p.1 ∧ p.2 = p.1.queue.step) {i : Input}
    (h : (take s p i).result = .ok q) : I q.1 ∧ q.2 = q.1.queue.step := by
  obtain ⟨acts, u, hturn, hmoves⟩ := take_comes (consistent hp.1) hp.2 i
  cases hturn.eq_result h
  exact ⟨hmoves.keeps (step rfl) hp.1, rfl⟩

theorem takeAll_keeps {p q : Transfer × Step} (hp : I p.1 ∧ p.2 = p.1.queue.step)
    {inputs : List Input} (h : (inputs.foldlM (take s) p).result = .ok q) :
    I q.1 ∧ q.2 = q.1.queue.step := by
  induction inputs generalizing p with
  | nil =>
    cases h
    exact hp
  | cons i is ih =>
    rw [List.foldlM_cons] at h
    obtain ⟨r, hr, hq⟩ := result_bind_eq_ok.1 h
    exact ih (take_keeps consistent step hp hr) hq

theorem history_keeps {t : Transfer} {now : Nat} {inputs : List Input} {q : Transfer × Step}
    (hq : t.queue.Sliced) (ht : I (t.started ⟨s, now⟩))
    (h : (t.history s now inputs).result = .ok q) :
    I q.1 ∧ q.2 = q.1.queue.step := by
  unfold history at h
  obtain ⟨p, hp, hrest⟩ := result_bind_eq_ok.1 h
  cases (start_comes ⟨s, now⟩ hq).eq_result hp
  exact takeAll_keeps consistent step ⟨ht, rfl⟩ hrest

end

/-! ## The books are kept -/

/-- **The books of a transfer.** Start a transfer of any blob that is
accepted, under any discipline, and give it frames and ticks in any order. No
turn meets a fault, and after each one the counters agree with the states of
the messages (`Queue.Consistent`), the transfer is finished exactly if every
message is done, and a message that is done never changes again. -/
theorem history_consistent {data : Bytes} {s : Settings} {t : Transfer} {now : Nat}
    {inputs : List Input} (ht : ofData data s = .ok t) (hnow : Context.Fits ⟨s, now⟩)
    (hin : ∀ i ∈ inputs, Context.Fits ⟨s, i.now⟩) :
    (t.history s now inputs).Yields fun p =>
      p.1.queue.Consistent ∧
      (p.2 = .finished ↔ ∀ m ∈ p.1.queue.messages, m.state.isDone = true) ∧
      ∀ more : List Input, (∀ i ∈ more, Context.Fits ⟨s, i.now⟩) →
        (t.history s now (inputs ++ more)).Yields fun q => p.1.queue.DoneIn q.1.queue := by
  have hstart := consistent_of_ofData ht
  obtain ⟨acts, p, hp, hcons, hstep⟩ := history_yields (I := fun u => u.queue.Consistent) id
    (fun _ hmove => hmove.consistent) hnow hin hstart.sliced (consistent_started hstart)
  refine ⟨acts, p, hp, hcons, ?_, fun more hmore => ?_⟩
  · rw [hstep]
    exact hcons.step_eq_finished_iff
  · rw [history_append, hp]
    refine Yields.bind (P := (p = ·)) ⟨acts, p, rfl, rfl⟩ ?_
    rintro _ rfl
    -- From here on: consistent, and every message that was done is still there.
    refine (takeAll_yields (I := fun u => u.queue.Consistent ∧ p.1.queue.DoneIn u.queue) And.left
      ?_ ⟨⟨hcons, fun _ _ hm _ => hm⟩, hstep⟩ hmore).mono fun r hr => hr.1.2
    rintro c u v i acts - hmove ⟨hu, hdone⟩
    exact ⟨hmove.consistent hu, fun k m hm hd => hmove.keeps_done hu (hdone k m hm hd) hd⟩

/-- A message of sixteen bytes. -/
def almanac (n : UInt8) : Frame :=
  .sealed MessageClass.mga MgaId.gps [2, 0, n, 0, 0, 0, 0, 0] (by simp)

def pairData : Bytes := [almanac 1, almanac 2].flatMap Frame.bytes

/-- A budget that no message fits, and a single retry. -/
def pairSettings : Settings := ⟨100, 1, .windowed, .valset, 10, 0⟩

def pairTransfer : Transfer :=
  ⟨⟨pairData, [.ofLocated 0 ⟨0, almanac 1⟩, .ofLocated 1 ⟨16, almanac 2⟩], 0, 0, 0⟩, .windowed,
    10⟩

/-- Under any settings the two messages make a transfer. -/
theorem ofData_pairData (s : Settings) :
    ofData pairData s = .ok ⟨pairTransfer.queue, s.discipline, s.budget⟩ := by
  simp only [ofData, Queue.ofData, Message.list, Stream.frames, Stream.scan, pairData,
    Stream.split_flatMap]
  rfl

theorem ofData_pair : ofData pairData pairSettings = .ok pairTransfer :=
  ofData_pairData pairSettings

/-- The first message is sent again and given up, the second one refused. -/
def pairInputs : List Input :=
  [.tick 100, .tick 200,
    .frame 250 (.sealed MessageClass.mga MgaId.ack [0, 0, 4, MgaId.gps, 2, 0, 2, 0] (by simp))]

theorem history_consistent_pair :
    ofData pairData pairSettings = .ok pairTransfer ∧ Context.Fits ⟨pairSettings, 0⟩ ∧
      (∀ i ∈ pairInputs, Context.Fits ⟨pairSettings, i.now⟩) ∧
      (pairTransfer.history pairSettings 0 pairInputs).Yields fun p =>
        p.1.queue.Consistent ∧
        (p.2 = .finished ↔ ∀ m ∈ p.1.queue.messages, m.state.isDone = true) :=
  ⟨ofData_pair, by decide, by decide,
    (history_consistent ofData_pair (by decide) (by decide)).mono fun _ hp => ⟨hp.1, hp.2.1⟩⟩

end Transfer

end GnssAiding
