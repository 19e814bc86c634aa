/-
What closes a collection of the navigation data base.

A push closes a collection that is open just when it is an acknowledgement about the data
base that counts the messages in it (`Collector.completes_iff`). The byte that says whether
the receiver accepts is not looked at, nor is the reason it gives, so at any time there is
a refusal that closes the collection (`Collector.collected_acknowledgement`). The refusal
of the poll itself, which has no bytes to echo, closes one that is still empty
(`Collector.closed_by_refusal`).
-/
import Mathlib.Algebra.Group.Nat.Defs
import GnssAiding.Proofs.Snapshot.Collection

namespace GnssAiding.Snapshot

/-- The acknowledgement about the data base with this verdict, which is 1 where the receiver
accepts, the reason for it, and a count where other messages are echoed. -/
def acknowledgement (verdict info : UInt8) (count : Nat) : Frame :=
  .sealed MessageClass.mga MgaId.ack
    ([verdict, 0, info, MgaId.dbd] ++ Bytes.le32 (UInt32.ofNat count)) (by simp)

theorem parse?_acknowledgement (verdict info : UInt8) (count : Nat) :
    Frame.parse? (acknowledgement verdict info count).bytes =
      some (acknowledgement verdict info count) :=
  Frame.parse?_bytes (Frame.intact_sealed _ _ _ _)

theorem closes_acknowledgement (verdict info : UInt8) {count : Nat} (h : count < 2 ^ 32) :
    Closes (acknowledgement verdict info count) count where
  kind := rfl
  long := Nat.le_refl 8
  about := rfl
  count := by
    have hread := congrArg UInt32.toNat (Bytes.read32_le32 (UInt32.ofNat count))
    exact hread.trans (UInt32.toNat_ofNat_of_lt' h)

namespace Collector

section Completes

variable {c : Collector} {strings : List Bytes} {p : Push}

/-- The push closes the collection, which was open. -/
structure Push.Completes (p : Push) : Prop where
  wasOpen : p.before.complete = false
  complete : p.after.complete = true

/-- What is pushed is an acknowledgement about the data base that counts what is collected. -/
def Push.Counts (p : Push) : Prop :=
  ∃ f, Frame.parse? p.data = some f ∧ Closes f p.before.messages

theorem completes_iff (h : p ∈ c.pushes strings) :
    p.Completes ↔ p.before.complete = false ∧ p.Counts := by
  have hpush := push_of_mem h
  constructor
  · rintro ⟨hopen, hcomplete⟩
    have hdoes := does_of_mem h
    generalize p.answer = answer at hdoes
    generalize p.after = after at hdoes hcomplete
    cases hdoes with
    | completed _ hparse hf => exact ⟨hopen, _, hparse, hf⟩
    | _ => simp [hopen] at hcomplete
  · rintro ⟨hopen, f, hparse, hf⟩
    rw [push_of_closes hopen hparse hf] at hpush
    exact ⟨hopen, congrArg (·.2.complete) hpush.symm⟩

/-- What is complete in the end was so before, or one of the pushes closed it. -/
theorem complete_collected_iff :
    (c.collected strings).complete = true ↔
      c.complete = true ∨ ∃ p ∈ c.pushes strings, p.Completes := by
  induction strings generalizing c with
  | nil => simp [collected, pushes]
  | cons data more ih =>
    simp only [collected, pushes, ih]
    by_cases hc : c.complete = true
    · rw [push_of_complete hc data]
      simp [hc]
    · have hfirst : (⟨data, c, (c.push data).1, (c.push data).2⟩ : Push).Completes ↔
          (c.push data).2.complete = true :=
        ⟨Push.Completes.complete, fun h => ⟨by simpa using hc, h⟩⟩
      simp [hc, hfirst]

end Completes

/-! ## The verdict -/

section Verdict

variable {c : Collector}

theorem collected_append (c : Collector) (strings more : List Bytes) :
    c.collected (strings ++ more) = (c.collected strings).collected more := by
  induction strings generalizing c with
  | nil => rfl
  | cons data rest ih => exact ih _

/-- The number of messages has 32 bits. -/
theorem messages_push_lt (h : c.messages < 2 ^ 32) (data : Bytes) :
    (c.push data).2.messages < 2 ^ 32 := by
  by_cases hroom : c.messages + 1 < 2 ^ 32
  · have hle := (push_does c data).messages_le
    omega
  · unfold push
    split
    · exact h
    · -- A message that cannot be counted is not stored, so the number is the same everywhere.
      simp only [Checked.narrow, show ¬ c.messages + 1 < Nat.pow 2 32 from hroom, if_false,
        apply_ite Prod.snd, apply_ite Collector.messages, ite_self]
      exact h

theorem messages_collected_lt (h : c.messages < 2 ^ 32) (strings : List Bytes) :
    (c.collected strings).messages < 2 ^ 32 := by
  induction strings generalizing c with
  | nil => exact h
  | cons data more ih => exact ih (messages_push_lt h data)

/-- Whatever the verdict is, the acknowledgement that counts right leaves the collection
complete. -/
theorem collected_acknowledgement (h : c.messages < 2 ^ 32) (strings : List Bytes)
    (verdict info : UInt8) :
    c.collected (strings ++
        [(acknowledgement verdict info (c.collected strings).messages).bytes]) =
      { c.collected strings with complete := true } := by
  rw [collected_append]
  generalize hc : c.collected strings = c'
  have hcount : c'.messages < 2 ^ 32 := hc ▸ messages_collected_lt h strings
  show (c'.push _).2 = _
  by_cases hcomplete : c'.complete = true
  · rw [push_of_complete hcomplete]
    simp [← hcomplete]
  · have hopen : c'.complete = false := by simpa using hcomplete
    rw [push_of_closes hopen (parse?_acknowledgement ..)
      (closes_acknowledgement verdict info hcount)]

end Verdict

/-- **A collection that began empty is complete just when an acknowledgement about the data
base has counted what was in it.** Each push that closes it is such a one, and each such one
closes it if it is open. Of an acknowledgement nothing else is looked at: at any time the
one that counts right closes the collection, whether the receiver accepts or refuses. -/
theorem complete_iff_counted (strings : List Bytes) :
    ((empty.collected strings).complete = true ↔
      ∃ p ∈ empty.pushes strings, p.Completes) ∧
    (∀ p ∈ empty.pushes strings, p.Completes ↔ p.before.complete = false ∧ p.Counts) ∧
    ∀ verdict info, empty.collected (strings ++
        [(acknowledgement verdict info (empty.collected strings).messages).bytes]) =
      { empty.collected strings with complete := true } := by
  refine ⟨?_, fun p hp => completes_iff hp, fun verdict info => ?_⟩
  · rw [complete_collected_iff]
    simp [empty]
  · exact collected_acknowledgement (by decide) strings verdict info

/-- A message of one byte. -/
def shortMessage : Frame := Message.shortFrame

/-- A snapshot of one message is closed by a refusal that happens to count one. -/
theorem complete_iff_counted_shortMessage :
    empty.collected [shortMessage.bytes] = ⟨shortMessage.bytes, 1, false⟩ ∧
    empty.collected [shortMessage.bytes, (acknowledgement 0 4 1).bytes] =
      ⟨shortMessage.bytes, 1, true⟩ ∧
    ∃ p ∈ empty.pushes [shortMessage.bytes, (acknowledgement 0 4 1).bytes],
      p.before.complete = false ∧ p.Counts := by
  have hclosed := (complete_iff_counted [shortMessage.bytes]).2.2 0 4
  have hcomplete := congrArg Collector.complete hclosed
  obtain ⟨p, hp, hcompletes⟩ := (complete_iff_counted _).1.1 hcomplete
  exact ⟨rfl, hclosed, p, hp, ((complete_iff_counted _).2.1 p hp).1 hcompletes⟩

/-- The receiver that is not ready refuses the poll, and an empty snapshot is complete. -/
theorem closed_by_refusal :
    (acknowledgement 0 5 0).payload = [0, 0, 5, MgaId.dbd, 0, 0, 0, 0] ∧
    Frame.parse? (acknowledgement 0 5 0).bytes = some (acknowledgement 0 5 0) ∧
    empty.complete = false ∧
    empty.push (acknowledgement 0 5 0).bytes = (.ok .complete, ⟨[], 0, true⟩) :=
  ⟨rfl, rfl, rfl, rfl⟩

end Collector

end GnssAiding.Snapshot
