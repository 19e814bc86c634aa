/-
A collected snapshot can be restored.

What a collector has answered as stored is accepted as a snapshot and listed whole, and
data that is accepted and listed makes a job (`Job.ofSnapshot_of_listed`). So a started
session accepts it (`Line.sendSnapshot_result`), whatever was pushed into the collector
besides (`Snapshot.Collector.collected_restores`).
-/
import GnssAiding.Proofs.Session.Sending
import GnssAiding.Proofs.Snapshot.Collection

namespace GnssAiding

/-! ## The job of a snapshot -/

/-- A snapshot that is listed makes a job, unless it is too large. -/
theorem Job.ofSnapshot_of_listed {s : Settings} {data : Bytes} {messages : List Message}
    (hsize : data.length ≤ maxBlob) (hvalid : Snapshot.validate data = .ok ())
    (hlist : Message.list data = .ok messages) :
    ofSnapshot s data = .ok (.messages ⟨⟨data, messages, 0, 0, 0⟩, s.discipline, s.budget⟩) := by
  have hchecked : checkSize data = .ok () := checkSize_eq_ok_iff.2 hsize
  unfold ofSnapshot
  rw [hchecked, hvalid, Transfer.ofData_of_list hlist]
  rfl

namespace Line

variable {l : Line} {data : Bytes} {messages : List Message}

/-- **A started session accepts a snapshot that is listed**, unless the snapshot is too
large or the clock cannot show the deadline of a message. -/
theorem sendSnapshot_result (h : Relation.ReflTransGen Next fresh l)
    (hw : l.state = .ok .waitingForData) (hsize : data.length ≤ Job.maxBlob)
    (hvalid : Snapshot.validate data = .ok ()) (hlist : Message.list data = .ok messages) :
    ∃ settings, l.session.settings = some settings ∧ ∀ now,
      (l.call now (.sendSnapshot data)).1.result = .ok .done ∨
        ¬ Context.Fits ⟨settings, l.clock.reading now⟩ ∧
          Faults (l.call now (.sendSnapshot data)).1.result := by
  obtain ⟨hp, hstate⟩ := state_eq_ok_iff.1 hw
  obtain ⟨settings, hs⟩ := (session_reachable h).equipped (by simp [hstate])
  refine ⟨settings, hs, fun now => ?_⟩
  have hjob := Job.ofSnapshot_of_listed (s := settings) hsize hvalid hlist
  rw [call_result hp]
  exact Session.begin_accepts hstate hs hjob (Job.ofSnapshot_prepares settings data _ hjob) _

end Line

namespace Snapshot

/-- The data restores these messages: it is a snapshot, they are what is listed, and a
started session accepts it if it is not too large. A session that cannot show the deadline
of a message on its clock stops on a fault instead. -/
structure Restores (data : Bytes) (messages : List Bytes) : Prop where
  valid : validate data = .ok ()
  listed : ∃ ms, Message.list data = .ok ms ∧ ms.length = messages.length ∧
    ms.map (·.bytesIn data) = messages.map .ok
  accepted : data.length ≤ Job.maxBlob → ∀ l, Relation.ReflTransGen Line.Next Line.fresh l →
    l.state = .ok .waitingForData → ∃ settings, l.session.settings = some settings ∧ ∀ now,
      (l.call now (.sendSnapshot data)).1.result = .ok .done ∨
        ¬ Context.Fits ⟨settings, l.clock.reading now⟩ ∧
          Faults (l.call now (.sendSnapshot data)).1.result

/-- What a collector holds restores the messages that it answered as stored. -/
theorem Collector.Holds.restores {c : Collector} {fs : List Frame} (h : c.Holds fs)
    (hne : fs ≠ []) : Restores c.data (fs.map Frame.bytes) := by
  have hvalid := h.validate_eq_ok hne
  obtain ⟨ms, hlist, hlength, hbytes⟩ := h.list_eq_ok hne
  exact
    { valid := hvalid
      listed := ⟨ms, hlist, by rw [hlength, List.length_map], hbytes⟩
      accepted := fun hsize l hl hw => Line.sendSnapshot_result hl hw hsize hvalid hlist }

open Collector

/-- **What was collected can be restored.** Whatever strings are pushed into an empty
collector, it holds those that it answered as stored, in order, and counts them. These are
the messages of the data base up to the acknowledgement that counts what is held by then:
it completes the collection, and behind it nothing is taken. A push that is refused or
ignored changes nothing. If any message is held, the data restores the messages. -/
theorem Collector.collected_restores {strings : List Bytes}
    (h : strings.length < Nat.pow 2 32) :
    (empty.collected strings).data = (empty.stored strings).flatten ∧
      (empty.collected strings).messages = (empty.stored strings).length ∧
      (∀ p ∈ empty.pushes strings, p.Careful) ∧
      ((empty.pushes strings).Pairwise fun p q =>
        p.answer = .ok .complete → q.answer = .ok .ignored ∧ q.after = q.before) ∧
      (1 ≤ (empty.collected strings).messages →
        Restores (empty.collected strings).data (empty.stored strings)) := by
  obtain ⟨fs, hstored, hholds⟩ := Holds.empty.collected strings
  rw [List.nil_append] at hholds
  refine ⟨?_, ?_, fun p hp => ?_, pairwise_pushes _ _, fun hany => ?_⟩
  · rw [hholds.data, hstored, List.flatMap_def]
  · rw [hholds.messages, hstored, List.length_map]
  · exact careful_of_mem (by rwa [show empty.messages = 0 from rfl, Nat.zero_add]) hp
  · rw [hstored]
    refine hholds.restores ?_
    rw [hholds.messages] at hany
    exact List.length_pos_iff.1 hany

/-- A message of the data base with one byte in it. -/
def record (n : UInt8) : Frame := .sealed MessageClass.mga MgaId.dbd [n] (by simp)

/-- The acknowledgement that counts `n` messages of the data base. -/
def closing (n : UInt8) : Frame :=
  .sealed MessageClass.mga MgaId.ack [1, 0, 0, MgaId.dbd, n, 0, 0, 0] (by simp)

/-- What a receiver sends: two messages with other things between them, a count that is
wrong and one that is right, and a message too late. -/
def dump : List Bytes :=
  [(record 7).bytes, pollFrame.bytes, (record 8).bytes.dropLast, (closing 2).bytes,
    (record 9).bytes, (closing 2).bytes, (record 7).bytes]

/-- Two messages are collected, and a session that was started takes them back. -/
theorem Collector.collected_restores_dump :
    dump.length < Nat.pow 2 32 ∧
      (empty.pushes dump).map (·.answer) =
        [.ok .stored, .ok .ignored, .ok .ignored, .error (.refused .badData), .ok .stored,
          .ok .complete, .ok .ignored] ∧
      (empty.collected dump).data = (record 7).bytes ++ (record 9).bytes ∧
      validate (empty.collected dump).data = .ok () ∧
      (Line.startedLine.call 0 (.sendSnapshot (empty.collected dump).data)).1.result =
        .ok .done := by
  have hsize : dump.length < Nat.pow 2 32 := by decide
  have hstored : empty.stored dump = [(record 7).bytes, (record 9).bytes] := by decide +kernel
  obtain ⟨hdata, hmessages, -, -, hrestores⟩ := collected_restores hsize
  rw [hstored] at hdata hmessages hrestores
  have hrestored := hrestores (by rw [hmessages]; decide)
  refine ⟨hsize, by decide +kernel, by simpa using hdata, hrestored.valid, ?_⟩
  obtain ⟨settings, hs, haccepted⟩ :=
    hrestored.accepted (by rw [hdata]; decide) _ Line.startedLine_reachable rfl
  cases hs
  rcases haccepted 0 with hdone | ⟨hn, -⟩
  · exact hdone
  · exact absurd (by decide) hn

end Snapshot

end GnssAiding
