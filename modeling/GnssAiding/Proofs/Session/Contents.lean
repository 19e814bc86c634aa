/-
What the job of a session at work holds.

A job holds the data that it was made of (`Job.held`), and its messages or blocks are
those of the data (`Job.Tallies`). No turn changes that, but for a file that is served,
which the receiver may change in place; and a session takes no more than so much data. So
whatever happened since, the job of a session at work holds data of a bounded length that
its messages or blocks are those of (`Reachable.stocked`).
-/
import GnssAiding.Proofs.Legacy.Link
import GnssAiding.Proofs.Session.Origin

namespace GnssAiding

namespace Job

/-- The data that the job holds: the blob of its messages, the records of its blocks, or its
file. -/
def held : Job → Bytes
  | none => []
  | messages t => t.queue.data
  | flash t => t.data
  | legacyFlash p => p.file
  | server s => s.file

/-- The messages of the job are the frames of its data that are wanted; its blocks are what
its data is cut into. -/
def Tallies : Job → Prop
  | none => False
  | messages t =>
    t.queue.cargo = (Stream.locate 0 (Stream.split t.queue.data).1).filter Message.wanted
  | flash t => t.blocks.map Flash.Block.item = Flash.items (Flash.chunksOf t.data)
  | legacyFlash p => p.blocks.map Flash.Block.item = (Flash.Block.cut p.file).map Flash.Block.item
  | server _ => True

/-- The most data that a job can hold: a blob of the largest size behind its initial messages. -/
def maxHeld : Nat := maxBlob + Initial.prefixLength

/-- The job holds data of a bounded length, and its messages or blocks are those of it. -/
structure Filled (job : Job) : Prop where
  length_le : job.held.length ≤ maxHeld
  tallies : job.Tallies

/-! ## Making a job -/

section Making

variable {s : Settings} {data : Bytes} {job : Job}

/-- Data that makes a job has passed the check of its size. -/
theorem length_le_of_checkSize {u : Unit}
    (h : (liftM (checkSize data) : Except Failure Unit) = .ok u) : data.length ≤ maxBlob :=
  checkSize_eq_ok_iff.1 (lift_eq_ok_iff.1 h)

theorem ofOffline_eq_ok {time : TimeAdjustment} {position : Option Position}
    (h : ofOffline s data time position = .ok job) :
    data.length ≤ maxBlob ∧ ∃ data' t, Initial.prepend data time position = .ok data' ∧
      Transfer.ofData data' s = .ok t ∧ job = .messages t := by
  obtain ⟨_, hsize, h⟩ := bind_eq_ok_iff.1 h
  obtain ⟨data', hdata, h⟩ := bind_eq_ok_iff.1 h
  obtain ⟨t, ht, h⟩ := bind_eq_ok_iff.1 h
  cases h
  exact ⟨length_le_of_checkSize hsize, data', t, hdata, lift_eq_ok_iff.1 ht, rfl⟩

theorem legacyToFlash_eq_ok (h : legacyToFlash data = .ok job) :
    data.length ≤ maxBlob ∧ ∃ p, Legacy.Push.ofFile data = .ok p ∧ job = .legacyFlash p := by
  obtain ⟨_, hsize, h⟩ := bind_eq_ok_iff.1 h
  obtain ⟨p, hp, h⟩ := bind_eq_ok_iff.1 h
  cases h
  exact ⟨length_le_of_checkSize hsize, p, lift_eq_ok_iff.1 hp, rfl⟩

theorem ofSnapshot_eq_ok (h : ofSnapshot s data = .ok job) :
    data.length ≤ maxBlob ∧ ∃ t, Transfer.ofData data s = .ok t ∧ job = .messages t := by
  obtain ⟨_, hsize, h⟩ := bind_eq_ok_iff.1 h
  obtain ⟨_, -, h⟩ := bind_eq_ok_iff.1 h
  obtain ⟨t, ht, h⟩ := bind_eq_ok_iff.1 h
  cases h
  exact ⟨length_le_of_checkSize hsize, t, lift_eq_ok_iff.1 ht, rfl⟩

theorem serve_eq_ok {fileId : UInt16} (h : serve data fileId = .ok job) :
    data.length ≤ maxBlob ∧ job = .server ⟨data, fileId⟩ := by
  obtain ⟨_, hsize, -⟩ := bind_eq_ok_iff.1 h
  exact ⟨length_le_of_checkSize hsize, Session.serve_eq_ok h⟩

theorem filled_messages {t : Transfer} (h : Transfer.ofData data s = .ok t)
    (hsize : data.length ≤ maxHeld) : (messages t).Filled := by
  obtain rfl := Transfer.data_of_ofData h
  exact ⟨hsize, Transfer.cargo_of_ofData h⟩

end Making

/-- The job that a call makes is filled with data. -/
theorem filled_of_make {s : Settings} {call : Session.Call} {job : Job}
    (h : call.make? s = some (.ok job)) : job.Filled := by
  have small : ∀ {data : Bytes}, data.length ≤ maxBlob → data.length ≤ maxHeld :=
    fun h => Nat.le_trans h (Nat.le_add_right _ _)
  cases call with
  | sendOnline data time =>
    obtain ⟨hsize, data', t, hretimed, ht, rfl⟩ := ofOnline_eq_ok_iff.1 (Option.some.inj h)
    have hlength : data'.length = data.length := by
      cases hretimed with
      | same => rfl
      | adjusted hadjust => exact Initial.length_adjust hadjust
    exact filled_messages ht (small (hlength ▸ hsize))
  | sendOffline data time position =>
    obtain ⟨hsize, data', t, hprepend, ht, rfl⟩ := ofOffline_eq_ok (Option.some.inj h)
    refine filled_messages ht ?_
    exact Nat.le_trans (Initial.length_prepend_le hprepend) (Nat.add_le_add_right hsize _)
  | sendToFlash data =>
    obtain ⟨records, -, hsize, rfl⟩ := Flash.Transfer.toFlash_eq_ok (Option.some.inj h)
    have hdata : (Flash.Transfer.ofChunks (Flash.chunksOf records)).data = records :=
      Bytes.flatten_pieces _ _ _
    constructor
    · exact (congrArg List.length hdata).trans_le (small hsize)
    · exact (Flash.Transfer.items_ofChunks _).trans (by rw [hdata])
  | sendLegacyToFlash data =>
    obtain ⟨hsize, p, hp, rfl⟩ := legacyToFlash_eq_ok (Option.some.inj h)
    obtain ⟨header, -, rfl⟩ := Legacy.Push.ofFile_eq_ok hp
    exact ⟨small hsize, rfl⟩
  | sendSnapshot data =>
    obtain ⟨hsize, t, ht, rfl⟩ := ofSnapshot_eq_ok (Option.some.inj h)
    exact filled_messages ht (small hsize)
  | startServer data fileId =>
    obtain ⟨hsize, rfl⟩ := serve_eq_ok (Option.some.inj h)
    exact ⟨small hsize, trivial⟩
  | _ => cases h

/-! ## Turns -/

namespace Filled

variable {c : Context} {job next : Job} {f : Frame} {acts : List Action} {step : Step}

/-- It matters which data the messages are of, and what they bring. -/
theorem messages {t u : Transfer} (h : (messages t).Filled) (hdata : u.queue.data = t.queue.data)
    (hcargo : u.queue.cargo = t.queue.cargo) : (Job.messages u).Filled where
  length_le := (congrArg List.length hdata).trans_le h.length_le
  tallies := by
    rw [Tallies, hdata, hcargo]
    exact h.tallies

theorem flash {t u : Flash.Transfer} (h : (flash t).Filled) (hdata : u.data = t.data)
    (hitems : u.blocks.map Flash.Block.item = t.blocks.map Flash.Block.item) :
    (Job.flash u).Filled where
  length_le := (congrArg List.length hdata).trans_le h.length_le
  tallies := by
    rw [Tallies, hdata, hitems]
    exact h.tallies

theorem legacyFlash {p q : Legacy.Push} (h : (legacyFlash p).Filled) (hfile : q.file = p.file)
    (hitems : q.blocks.map Flash.Block.item = p.blocks.map Flash.Block.item) :
    (Job.legacyFlash q).Filled where
  length_le := (congrArg List.length hfile).trans_le h.length_le
  tallies := by
    rw [Tallies, hfile, hitems]
    exact h.tallies

theorem begins (h : job.Filled) (hb : Begins c job acts next step) : next.Filled := by
  cases hb with
  | @messages t _ _ _ _ =>
    exact h.messages (Transfer.data_started c t) (Transfer.cargo_started c t)
  | @flash chunks b hb _ => exact h.flash rfl (Flash.Block.map_item_set hb (b.item_outAt c))
  | legacyFlash => exact h.legacyFlash rfl rfl
  | server => exact h

theorem answers (h : job.Filled) (ha : Answers c f job acts next .running) : next.Filled := by
  cases ha with
  | messages _ ha _ => exact h.messages ha.move.data ha.move.cargo
  | flash ht ha =>
    obtain ⟨b, hb⟩ := ha.underway ht
    exact h.flash ha.data_eq (hb.items.trans ht.items.symm)
  | legacyFlash _ ha => exact h.legacyFlash ha.file_eq ha.items_eq
  | server s =>
    exact ⟨(Legacy.Server.length_edit _ _ _).trans_le h.length_le, trivial⟩

theorem lapses (h : job.Filled) (hl : Lapses c job acts next .running) : next.Filled := by
  cases hl with
  | messages _ hl _ _ => exact h.messages hl.moves.data hl.moves.cargo
  | flash ht hl =>
    obtain ⟨b, hb⟩ := hl.underway ht
    exact h.flash hl.data_eq (hb.items.trans ht.items.symm)
  | legacyFlash _ hl => exact h.legacyFlash hl.file_eq hl.items_eq
  | server s => exact h

end Filled

/-- The job is underway and filled with data. -/
structure Stocked (s : Settings) (job : Job) : Prop extends Filled job where
  underway : job.Underway s

end Job

/-! ## Sessions -/

namespace Session

theorem sustained_stocked : Sustained Job.Stocked where
  starts hm hnext := by
    obtain ⟨acts, next, step, hcomes, hbegins⟩ :=
      Job.start_comes (Call.make?_prepares hm _ rfl)
    cases hcomes.eq_result hnext
    exact ⟨(Job.filled_of_make hm).begins hbegins, hbegins.underway⟩
  receives h hturn hnext := by
    obtain ⟨acts, next, step, hcomes, hanswers⟩ := Job.receive_comes h.underway hturn
    cases hcomes.eq_result hnext
    exact ⟨h.toFilled.answers hanswers, hanswers.underway⟩
  checks h hnext := by
    obtain ⟨acts, next, step, hcomes, hlapses⟩ := Job.checkTimeouts_comes h.underway
    cases hcomes.eq_result hnext
    exact ⟨h.toFilled.lapses hlapses, hlapses.underway⟩

/-- **The job of a session at work holds data of a bounded length, and its messages or
blocks are those of it**, after any calls whatever. -/
theorem Reachable.stocked {s : Session} (h : Reachable s) : s.AtWork Job.Stocked :=
  h.job_of_sustained sustained_stocked

end Session

end GnssAiding
