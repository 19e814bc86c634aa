/-
The record of what goes out.

A transfer writes the setup, if its discipline asks for one, and then one message
for each that it reports as sent: the one that is named there. For the first time
the messages go out in the order of the blob, and one that goes out again was sent
before and is not done. `Dispatch` says so of what was done, without a word about
the transfer that did it. The record goes on with something that sends nothing, with
the next message, or with an earlier one again (`Dispatch.quiet`,
`Dispatch.sendFirst`, `Dispatch.sendAgain`).
-/
import GnssAiding.Transfer.AckFrame
import GnssAiding.Proofs.Transfer.Queue
import Mathlib.Data.List.Forall2

namespace GnssAiding

/-! ## What is told of messages -/

namespace Action

/-- The message that an action reports as sent. -/
def sent? : Action → Option MessageReport
  | report (.messageSent r) => some r
  | _ => none

/-- The message that an action reports as done. -/
def concluded? : Action → Option MessageReport
  | report (.messageComplete r) | report (.messageFailed r) => some r
  | _ => none

end Action

namespace Transfer

/-- The messages reported as sent, each told by its place in the blob. -/
def sentOut (acts : List Action) : List Nat :=
  (acts.filterMap Action.sent?).map MessageReport.sequence

/-- The messages reported as done. -/
def concluded (acts : List Action) : List Nat :=
  (acts.filterMap Action.concluded?).map MessageReport.sequence

/-- What goes to the receiver in front of the messages. -/
def setup (s : Settings) : List Bytes :=
  if s.discipline.needsAcks then [s.ackSetup.frame.bytes] else []

/-- What is done in front of the messages. -/
def announcement (s : Settings) (total : Nat) : List Action :=
  .report (.start total) :: (setup s).map .write

/-! ## The record of what goes out -/

/-- The bytes are those of the listed message that the report names. -/
def Names (q : Queue) (data : Bytes) (r : MessageReport) : Prop :=
  ∃ m, q.messages[r.sequence]? = some m ∧ r = { m.report with retries := r.retries } ∧
    data = m.frame.bytes

/-- A message is reported as sent behind the actions `before`. -/
structure Sending (q : Queue) (before : List Action) (r : MessageReport) : Prop where
  /-- It was written just before. -/
  names : ∃ data, before.getLast? = some (.write data) ∧ Names q data r
  /-- It is a repetition exactly if the message was sent before. -/
  again : 0 < r.retries ↔ r.sequence ∈ sentOut before
  unresolved : r.sequence ∉ concluded before

/-- Of the messages listed in `q` the first `k` have gone out. -/
structure Dispatch (s : Settings) (q : Queue) (acts : List Action) (k : Nat) : Prop where
  /-- There is one write for each message reported as sent, behind the setup. -/
  written : ∃ data, acts.filterMap Action.written? = setup s ++ data ∧
    List.Forall₂ (Names q) data (acts.filterMap Action.sent?)
  /-- Without the repetitions it is 0, 1, 2 and so on that went out. -/
  first : (sentOut acts).eraseDups = List.range k
  sending : ∀ before r after, acts = before ++ .report (.messageSent r) :: after →
    Sending q before r
  /-- What is reported as done was sent. -/
  done : ∀ i ∈ concluded acts, i < k

theorem sentOut_append (acts more : List Action) :
    sentOut (acts ++ more) = sentOut acts ++ sentOut more := by
  simp only [sentOut, List.filterMap_append, List.map_append]

theorem concluded_append (acts more : List Action) :
    concluded (acts ++ more) = concluded acts ++ concluded more := by
  simp only [concluded, List.filterMap_append, List.map_append]

theorem concluded_transmission (m : Message) : concluded m.transmission = [] := rfl

theorem concluded_conclusion (m : Message) (failure : Option FailureReason) :
    concluded [.report (m.conclusion failure)] = [m.sequence] := by
  cases failure <;> rfl

theorem concluded_announcement (s : Settings) (total : Nat) :
    concluded (announcement s total) = [] := by
  unfold announcement setup
  split <;> rfl

/-- Of what comes twice the first counts. -/
theorem eraseDups_concat (is : List Nat) (i : Nat) :
    (is ++ [i]).eraseDups = if i ∈ is then is.eraseDups else is.eraseDups ++ [i] := by
  rw [List.eraseDups_append]
  split
  · next hi => simp [List.removeAll, hi]
  · next hi =>
    have hrest : [i].removeAll is = [i] := by simp [List.removeAll, hi]
    rw [hrest]
    rfl

/-- A property of the places where a message is reported as sent, at one action more. -/
theorem sending_concat {P : List Action → MessageReport → Prop} {acts : List Action} {a : Action}
    (h : ∀ before r after, acts = before ++ .report (.messageSent r) :: after → P before r)
    (ha : ∀ r, a = .report (.messageSent r) → P acts r) (before : List Action) (r : MessageReport)
    (after : List Action) (heq : acts ++ [a] = before ++ .report (.messageSent r) :: after) :
    P before r := by
  rcases List.eq_nil_or_concat after with rfl | ⟨rest, b, rfl⟩
  · obtain ⟨rfl, hlast⟩ := List.append_inj' heq rfl
    exact ha r (List.singleton_inj.1 hlast)
  · rw [List.concat_eq_append, ← List.cons_append, ← List.append_assoc] at heq
    exact h before r rest (List.append_inj' heq rfl).1

namespace Dispatch

/-- The transfer is announced, and the setup goes out. -/
theorem announced (s : Settings) (q : Queue) (total : Nat) :
    Dispatch s q (announcement s total) 0 := by
  refine ⟨⟨[], ?_, ?_⟩, ?_, ?_, ?_⟩
  · unfold announcement setup
    split <;> rfl
  · unfold announcement setup
    split <;> exact .nil
  · unfold announcement setup
    split <;> rfl
  · intro before r after heq
    have hmem : .report (.messageSent r) ∈ announcement s total := by
      rw [heq]
      simp
    simp [announcement] at hmem
  · rw [concluded_announcement]
    simp

variable {s : Settings} {q : Queue} {acts : List Action} {k : Nat} (h : Dispatch s q acts k)

include h

theorem mem_sentOut {i : Nat} : i ∈ sentOut acts ↔ i < k := by
  rw [← List.mem_eraseDups, h.first, List.mem_range]

/-- Something is done that sends nothing. -/
theorem quiet {a : Action} (hw : a.written? = none) (hs : a.sent? = none)
    (hd : ∀ r, a.concluded? = some r → r.sequence < k) : Dispatch s q (acts ++ [a]) k where
  written := by
    simpa only [List.filterMap_append, List.filterMap_cons, hw, hs, List.filterMap_nil,
      List.append_nil] using h.written
  first := by
    have hnone : sentOut [a] = [] := by simp [sentOut, hs]
    rw [sentOut_append, hnone, List.append_nil, h.first]
  sending := by
    refine sending_concat h.sending ?_
    rintro r rfl
    cases hs
  done := by
    intro i hi
    rw [concluded_append, List.mem_append] at hi
    rcases hi with hi | hi
    · exact h.done i hi
    · obtain ⟨r, hr, rfl⟩ := List.mem_map.1 hi
      obtain ⟨b, hb, hbr⟩ := List.mem_filterMap.1 hr
      exact hd r (List.mem_singleton.1 hb ▸ hbr)

/-- The host waits a while. -/
theorem pause (c : Context) : Dispatch s q (acts ++ Queue.pause c) k := by
  unfold Queue.pause
  split
  · exact h.quiet rfl rfl (by rintro r ⟨⟩)
  · rwa [List.append_nil]

variable {m : Message} (hm : Names q m.frame.bytes m.report) (hopen : m.sequence ∉ concluded acts)

include hm hopen

/-- A message goes out, whether for the first time or again. -/
theorem transmit {n : Nat} (hagain : 0 < m.retries ↔ m.sequence ∈ sentOut acts)
    (hfirst : (sentOut acts ++ [m.sequence]).eraseDups = List.range n) (hn : k ≤ n) :
    Dispatch s q (acts ++ m.transmission) n where
  written := by
    obtain ⟨data, hdata, hnames⟩ := h.written
    refine ⟨data ++ [m.frame.bytes], ?_, ?_⟩
    · rw [List.filterMap_append, hdata, List.append_assoc]
      rfl
    · rw [List.filterMap_append]
      exact List.rel_append hnames (.cons hm .nil)
  first := by
    rw [sentOut_append]
    exact hfirst
  sending := by
    have hwrite : ∀ before r after, acts ++ [.write m.frame.bytes] =
        before ++ .report (.messageSent r) :: after → Sending q before r :=
      sending_concat h.sending (by rintro r ⟨⟩)
    have hsplit : acts ++ m.transmission =
        acts ++ [.write m.frame.bytes] ++ [.report (.messageSent m.report)] := by
      rw [List.append_assoc]
      rfl
    have hsame : sentOut (acts ++ [.write m.frame.bytes]) = sentOut acts := by
      rw [sentOut_append]
      exact List.append_nil _
    have hsame' : concluded (acts ++ [.write m.frame.bytes]) = concluded acts := by
      rw [concluded_append]
      exact List.append_nil _
    rw [hsplit]
    refine sending_concat hwrite ?_
    rintro r ⟨⟩
    refine ⟨⟨m.frame.bytes, List.getLast?_concat, hm⟩, ?_, ?_⟩
    · rwa [hsame]
    · rwa [hsame']
  done := by
    intro i hi
    rw [concluded_append, concluded_transmission, List.append_nil] at hi
    exact Nat.lt_of_lt_of_le (h.done i hi) hn

/-- A message that has been sent goes out again. -/
theorem sendAgain (hlt : m.sequence < k) (hr : 0 < m.retries) :
    Dispatch s q (acts ++ m.transmission) k := by
  have hsent := h.mem_sentOut.2 hlt
  refine h.transmit hm hopen (iff_of_true hr hsent) ?_ (Nat.le_refl k)
  rw [eraseDups_concat, if_pos hsent, h.first]

omit hopen in
/-- The next message goes out. -/
theorem sendFirst (hk : m.sequence = k) (hr : m.retries = 0) :
    Dispatch s q (acts ++ m.transmission) (k + 1) := by
  have hunsent : k ∉ sentOut acts := fun hi => Nat.lt_irrefl k (h.mem_sentOut.1 hi)
  refine h.transmit hm (fun hi => Nat.lt_irrefl k (hk ▸ h.done _ hi)) ?_ ?_ (Nat.le_succ k)
  · rw [hk]
    exact iff_of_false (by omega) hunsent
  · rw [hk, eraseDups_concat, if_neg hunsent, h.first, List.range_succ]

end Dispatch

/-- The messages are those listed from the `k`-th on, and none of them was sent. -/
def Due (q : Queue) (k : Nat) (ms : List Message) : Prop :=
  ∀ (j : Nat) (m : Message), ms[j]? = some m →
    m.sequence = k + j ∧ m.retries = 0 ∧ Names q m.frame.bytes m.report

section Due

variable {s : Settings} {q : Queue} {acts : List Action} {k : Nat} {m : Message}
  {ms : List Message}

theorem Due.tail (h : Due q k (m :: ms)) : Due q (k + 1) ms := by
  intro j n hn
  rw [Nat.add_assoc, Nat.add_comm 1 j]
  exact h (j + 1) n hn

theorem Due.take (h : Due q k ms) (n : Nat) : Due q k (ms.take n) := by
  intro j m hm
  rw [List.getElem?_take] at hm
  split at hm
  · exact h j m hm
  · cases hm

/-- The next messages go out, with something in front of each that does not matter. -/
theorem Dispatch.sendNext {gap : List Action}
    (hgap : ∀ {acts k}, Dispatch s q acts k → Dispatch s q (acts ++ gap) k)
    (h : Dispatch s q acts k) (hms : Due q k ms) :
    Dispatch s q (acts ++ ms.flatMap fun m => gap ++ m.transmission) (k + ms.length) := by
  induction ms generalizing acts k with
  | nil => rwa [List.flatMap_nil, List.append_nil]
  | cons m ms ih =>
    obtain ⟨hseq, hr, hm⟩ := hms 0 m rfl
    have hrest := ih ((hgap h).sendFirst hm hseq hr) hms.tail
    rw [List.flatMap_cons, ← List.append_assoc, ← List.append_assoc, List.length_cons,
      Nat.add_comm ms.length 1, ← Nat.add_assoc]
    exact hrest

theorem Dispatch.train (c : Context) (h : Dispatch s q acts k) (hms : Due q k ms) :
    Dispatch s q (acts ++ Queue.trainActions c ms) (k + ms.length) := by
  cases ms with
  | nil => rwa [Queue.trainActions, List.append_nil]
  | cons m ms =>
    obtain ⟨hseq, hr, hm⟩ := hms 0 m rfl
    have hrest := Dispatch.sendNext (fun h => h.pause c) (h.sendFirst hm hseq hr) hms.tail
    rw [Queue.trainActions, ← List.append_assoc, List.length_cons, Nat.add_comm ms.length 1,
      ← Nat.add_assoc]
    exact hrest

end Due

theorem concluded_transmissions {gap : List Action} (hgap : concluded gap = [])
    (ms : List Message) :
    concluded (ms.flatMap fun m => gap ++ m.transmission) = [] := by
  induction ms with
  | nil => rfl
  | cons m ms ih =>
    rw [List.flatMap_cons, concluded_append, concluded_append, hgap, ih, concluded_transmission]
    rfl

theorem concluded_pause (c : Context) : concluded (Queue.pause c) = [] := by
  unfold Queue.pause
  split <;> rfl

theorem concluded_train (c : Context) (ms : List Message) :
    concluded (Queue.trainActions c ms) = [] := by
  cases ms with
  | nil => rfl
  | cons m ms =>
    rw [Queue.trainActions, concluded_append, concluded_transmission,
      concluded_transmissions (concluded_pause c)]
    rfl

/-! ## What the record says -/

namespace Dispatch

variable {s : Settings} {q : Queue} {acts : List Action} {k : Nat} (h : Dispatch s q acts k)

include h

/-- A message that has gone out was written. -/
theorem write_mem {i : Nat} {m : Message} (hi : i < k) (hm : q.messages[i]? = some m) :
    m.frame.bytes ∈ acts.filterMap Action.written? := by
  obtain ⟨r, hr, rfl⟩ := List.mem_map.1 (h.mem_sentOut.2 hi)
  obtain ⟨a, ha, har⟩ := List.mem_filterMap.1 hr
  obtain rfl : a = .report (.messageSent r) := by
    unfold Action.sent? at har
    split at har <;> cases har
    rfl
  obtain ⟨before, after, rfl⟩ := List.append_of_mem ha
  obtain ⟨data, hlast, n, hn, -, rfl⟩ := (h.sending before r after rfl).names
  cases hm.symm.trans hn
  exact Action.mem_written.2 (List.mem_append_left _ (List.mem_of_getLast? hlast))

/-- The setup is written once, if at all. -/
theorem count_setup (hq : ∀ m ∈ q.messages, m.frame.bytes ≠ s.ackSetup.frame.bytes) :
    (acts.filterMap Action.written?).count s.ackSetup.frame.bytes =
      if s.discipline.needsAcks then 1 else 0 := by
  obtain ⟨data, hdata, hnames⟩ := h.written
  have hother : ∀ d ∈ data, d ≠ s.ackSetup.frame.bytes := by
    have hboth := hnames.imp fun d r ⟨m, hm, hr, hd⟩ =>
      And.intro (hd ▸ hq m (List.mem_of_getElem? hm)) (⟨m, hm, hr, hd⟩ : Names q d r)
    exact ((List.forall₂_and_left _ _).1 hboth).1
  have hnone : data.count s.ackSetup.frame.bytes = 0 :=
    List.count_eq_zero.2 fun hmem => hother _ hmem rfl
  rw [hdata, List.count_append, hnone, setup]
  split <;> simp

end Dispatch

end Transfer

end GnssAiding
