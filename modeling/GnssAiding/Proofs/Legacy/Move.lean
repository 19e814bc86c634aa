/-
What the transfer of a legacy file does with an input, said once.

In the two phases at its ends the transfer waits for the answer to a stop
message, and between them for the answer to the current block (`Waits`), which
it reads from the file (`Sliced`); then it is `Underway`. A
frame that is for it is such an answer (`Answer`); a tick comes too early, or
finds the stop message or the block overdue (`Lapse`). `receive_comes` and
`checkTimeouts_comes` say that an input leads to nothing else, unless it stops
on a deadline that the clock cannot show.
-/
import GnssAiding.Legacy.Push
import GnssAiding.Proofs.Flash.Blocks
import GnssAiding.Proofs.Transfer.Turn

namespace GnssAiding.Legacy.Push

open Turn
open Flash (Block)

/-! ## Sending -/

/-- What sending a block does to the host. -/
def transmission (b : Block) : List Action :=
  (match Frame.build MessageClass.aid AidId.alp b.bytes with
    | .ok f => [.write f.bytes]
    | .error _ => []) ++ [.report (.legacy (.flashBlockSent b.report))]

/-- The transfer when it has just sent a stop message. -/
def stopSent (c : Context) (p : Push) : Push :=
  { p with deadline := c.now + c.settings.timeout }

/-- The transfer at the beginning of a phase. -/
def entering (phase : Phase) (p : Push) : Push := { p with phase := phase, retries := 0 }

theorem sendStop_comes (c : Context) (p : Push) :
    (p.sendStop c).Comes c [.write stopFrame.bytes] (p.stopSent c) :=
  (Comes.act (.write stopFrame.bytes)).bind_nil ((deadline_comes c).result rfl)

/-- A block of data, which stands in the file where it says. -/
def Piece (file : Bytes) (b : Block) : Prop := b.content ≠ .stop ∧ b.content.StandsIn file

/-- Every block is a piece of the file. -/
def Sliced (p : Push) : Prop := ∀ x ∈ p.blocks.map Block.item, x.1 ≠ .stop ∧ x.1.StandsIn p.file

theorem Sliced.piece {p : Push} (h : p.Sliced) {i : Nat} {b : Block} (hb : p.blocks[i]? = some b) :
    Piece p.file b :=
  h b.item (List.mem_map_of_mem (List.mem_of_getElem? hb))

/-- Blocks with the items of others are pieces of the file if those are. -/
theorem Sliced.congr {p q : Push} (h : p.Sliced)
    (hitems : q.blocks.map Block.item = p.blocks.map Block.item) (hfile : q.file = p.file) :
    q.Sliced := by
  unfold Sliced
  rw [hitems, hfile]
  exact h

theorem sendBlock_comes (c : Context) {p : Push} {b : Block} (hb : p.blocks[p.current]? = some b)
    (hpiece : Piece p.file b) : (p.sendBlock c).Comes c (transmission b) (p.put (b.outAt c)) := by
  -- Behind the write: the deadline is set and the block is reported.
  have told : (Turn.deadline c >>= fun d => do
      report (.flashBlockSent b.report)
      pure (p.put { b with state := .waitingForAck, deadline := d })).Comes c
      [.report (.legacy (.flashBlockSent b.report))] (p.put (b.outAt c)) :=
    (deadline_comes c).nil_bind ((Comes.act _).result rfl)
  have hbytes := Block.bytesIn_eq hpiece.2
  unfold sendBlock
  rw [Checked.get_eq hb]
  refine Comes.check ?_
  unfold transmission
  dsimp only
  split
  · rw [hbytes]
    refine Comes.check ?_
    cases Frame.build MessageClass.aid AidId.alp b.bytes with
    | ok f => exact (Comes.act (.write f.bytes)).bind told
    | error e => exact told
  · next hstop => exact absurd hstop hpiece.1

/-- The current block is sent once more. -/
theorem resend_comes (c : Context) {p : Push} {b : Block} (hc : p.current < p.blocks.length)
    (hpiece : Piece p.file b) :
    ((p.put b.again).sendBlock c).Comes c (transmission b.again) (p.put (b.again.outAt c)) := by
  have hput : (p.put b.again).blocks[(p.put b.again).current]? = some b.again :=
    List.getElem?_set_self hc
  have hagain : (p.put b.again).put (b.again.outAt c) = p.put (b.again.outAt c) := by
    simp only [put, List.set_set]
  rw [← hagain]
  exact sendBlock_comes c hput hpiece

theorem start_comes (c : Context) (p : Push) :
    (p.start c).Comes c
      [.report (.start p.blocks.length), .report (.legacy .startupStarted), .write stopFrame.bytes]
      ((p.entering .starting).stopSent c, .running) := by
  refine (Comes.act (.report (.start p.blocks.length))).bind ?_
  refine Comes.result ?_ rfl
  exact (Comes.act (.report (.legacy .startupStarted))).bind (sendStop_comes c _)

/-! ## Answers and lapses -/

/-- What a transfer does with a reply. -/
inductive Answer (c : Context) (p : Push) (r : Reply) : List Action → Push → Step → Prop
  /-- The receiver is reset, and the first block is sent. -/
  | begun {b} (hp : p.phase = .starting) (hb : p.blocks[p.current]? = some b) :
    Answer c p r (.report (.legacy .startupCompleted) :: transmission b)
      ((p.entering .mainSequence).put (b.outAt c)) .running
  /-- The block has arrived, and the next one is sent. -/
  | advanced {b next} (hp : p.phase = .mainSequence) (hr : r = .ack)
    (hb : p.blocks[p.current]? = some b) (hn : p.blocks[p.current + 1]? = some next) :
    Answer c p r (.report (.legacy (.flashBlockComplete b.report)) :: transmission next)
      { p with
        blocks := (p.blocks.set p.current (b.ended .received)).set (p.current + 1) (next.outAt c)
        current := p.current + 1 } .running
  /-- The last block has arrived, and the transfer is to be closed. -/
  | closing {b} (hp : p.phase = .mainSequence) (hr : r = .ack)
    (hb : p.blocks[p.current]? = some b) (hl : p.blocks.length ≤ p.current + 1) :
    Answer c p r
      [.report (.legacy (.flashBlockComplete b.report)), .report (.legacy .finalizeStarted),
        .write stopFrame.bytes]
      ((entering .stopping { p.put (b.ended .received) with current := p.current + 1 }).stopSent c)
      .running
  | resent {b} (hp : p.phase = .mainSequence) (hr : r = .nak)
    (hb : p.blocks[p.current]? = some b) (ha : b.retries < c.settings.retries) :
    Answer c p r (.report (.legacy (.flashBlockFailed b.report)) :: transmission b.again)
      (p.put (b.again.outAt c)) .running
  | exhausted {b} (hp : p.phase = .mainSequence) (hr : r = .nak)
    (hb : p.blocks[p.current]? = some b) (ha : ¬ b.retries < c.settings.retries) :
    Answer c p r [.report (.legacy (.flashBlockFailed b.report))] (p.put (b.ended .failed))
      (.terminated .receiverNak)
  | closed (hp : p.phase = .stopping) (hr : r = .ack) :
    Answer c p r [.report (.legacy (.finalizeCompleted p.storedHeader))]
      { p with header := p.storedHeader, phase := .idle } .finished
  | refused (hp : p.phase = .stopping) (hr : r = .nak) :
    Answer c p r [.report (.legacy .finalizeFailed)] p (.terminated .receiverNak)

/-- The transfer waits for the answer to a stop message; if none comes, it
reports `failed`. -/
inductive Stopped : Phase → LegacyEvent → Prop
  | starting : Stopped .starting .startupFailed
  | stopping : Stopped .stopping .finalizeFailed

/-- What a transfer does with a tick. -/
inductive Lapse (c : Context) (p : Push) : List Action → Push → Step → Prop
  | stopEarly {failed} (hp : Stopped p.phase failed) (hd : c.now < p.deadline) :
    Lapse c p [] p .running
  | stopAgain {failed} (hp : Stopped p.phase failed) (hd : p.deadline ≤ c.now)
    (hr : p.retries < c.settings.retries) :
    Lapse c p [.write stopFrame.bytes] (stopSent c { p with retries := p.retries + 1 }) .running
  | stopGivenUp {failed} (hp : Stopped p.phase failed) (hd : p.deadline ≤ c.now)
    (hr : ¬ p.retries < c.settings.retries) :
    Lapse c p [.report (.legacy failed)] p (.terminated .receiverNotResponding)
  | early {b} (hp : p.phase = .mainSequence) (hb : p.blocks[p.current]? = some b)
    (hd : c.now < b.deadline) : Lapse c p [] p .running
  | nudged {b} (hp : p.phase = .mainSequence) (hb : p.blocks[p.current]? = some b)
    (hd : b.deadline ≤ c.now) (hs : b.state = .waitingForAck) :
    Lapse c p [.write Flash.nudge] (p.put (b.nudgedAt c)) .running
  | resent {b} (hp : p.phase = .mainSequence) (hb : p.blocks[p.current]? = some b)
    (hd : b.deadline ≤ c.now) (hs : b.state = .waitingForSecondChance)
    (hr : b.retries < c.settings.retries) :
    Lapse c p (transmission b.again) (p.put (b.again.outAt c)) .running
  | givenUp {b} (hp : p.phase = .mainSequence) (hb : p.blocks[p.current]? = some b)
    (hd : b.deadline ≤ c.now) (hs : b.state = .waitingForSecondChance)
    (hr : ¬ b.retries < c.settings.retries) :
    Lapse c p [] (p.put (b.ended .failed)) (.terminated .receiverNotResponding)

/-- What a transfer waits for that has begun and not ended. -/
inductive Waits (s : Settings) (p : Push) : Prop
  | starting {b} (hp : p.phase = .starting) (hr : p.retries ≤ s.retries)
    (hb : p.blocks[p.current]? = some b) (hfresh : ∀ b ∈ p.blocks, b.retries = 0)
  | sending {b} (hp : p.phase = .mainSequence) (out : Block.Out s.retries p.blocks p.current b)
  | stopping (hp : p.phase = .stopping) (hr : p.retries ≤ s.retries)

/-- A transfer that has begun and not ended. -/
structure Underway (s : Settings) (p : Push) : Prop where
  waits : Waits s p
  sliced : p.Sliced

/-! ## Inputs -/

theorem answerBlock_comes (c : Context) {p : Push} {b : Block} (r : Reply) (hs : p.Sliced)
    (hp : p.phase = .mainSequence) (hb : p.blocks[p.current]? = some b) :
    ∃ acts q step, (p.answerBlock c r).Comes c acts (q, step) ∧ Answer c p r acts q step := by
  have hcurrent := (List.getElem?_eq_some_iff.1 hb).1
  unfold answerBlock
  rw [Checked.get_eq hb]
  cases r with
  | ack =>
    by_cases hl : p.current + 1 < p.blocks.length
    · have hn := List.getElem?_eq_getElem hl
      refine ⟨_, _, _, Comes.check ?_, .advanced hp rfl hb hn⟩
      refine (Comes.act (.report (.legacy (.flashBlockComplete b.report)))).bind ?_
      dsimp only [put]
      rw [List.length_set, if_pos hl]
      refine (sendBlock_comes c ?_ ?_).result rfl
      · exact (List.getElem?_set_ne (Nat.ne_of_lt (Nat.lt_succ_self _))).trans hn
      · exact hs.piece hn
    · refine ⟨_, _, _, Comes.check ?_, .closing hp rfl hb (Nat.le_of_not_lt hl)⟩
      refine (Comes.act (.report (.legacy (.flashBlockComplete b.report)))).bind ?_
      dsimp only [put]
      rw [List.length_set, if_neg hl]
      refine Comes.result ?_ rfl
      exact (Comes.act (.report (.legacy .finalizeStarted))).bind (sendStop_comes c _)
  | nak =>
    by_cases ha : b.retries < c.settings.retries
    · refine ⟨_, _, _, Comes.check ?_, .resent hp rfl hb ha⟩
      refine (Comes.act (.report (.legacy (.flashBlockFailed b.report)))).bind ?_
      rw [if_neg (Nat.not_le_of_lt ha)]
      exact (resend_comes c hcurrent (hs.piece hb)).result rfl
    · refine ⟨_, _, _, Comes.check ?_, .exhausted hp rfl hb ha⟩
      refine (Comes.act (.report (.legacy (.flashBlockFailed b.report)))).bind_nil ?_
      rw [if_pos (Nat.le_of_not_lt ha)]
      exact .pure _

/-- A frame that is for the transfer is an answer to what it waits for. -/
theorem receive_comes {c : Context} {p : Push} {f : Frame} {turn : Turn (Push × Step)}
    (hu : Underway c.settings p) (h : p.receive c f = some turn) :
    ∃ r acts q step, Reply.parse? f = some r ∧ turn.Comes c acts (q, step) ∧
      Answer c p r acts q step := by
  unfold receive at h
  cases hf : Reply.parse? f with
  | none =>
    rw [hf] at h
    cases h
  | some r =>
    rw [hf] at h
    refine ⟨r, ?_⟩
    unfold answer at h
    cases hu.waits with
    | starting hp _ hb _ =>
      simp only [hp] at h
      cases h
      refine ⟨_, _, _, rfl, ?_, .begun hp hb⟩
      refine Comes.result ?_ rfl
      exact (Comes.act (.report (.legacy .startupCompleted))).bind
        (sendBlock_comes c hb (hu.sliced.piece hb))
    | sending hp out =>
      simp only [hp] at h
      cases h
      obtain ⟨acts, q, step, hturn, hanswer⟩ := answerBlock_comes c r hu.sliced hp out.current
      exact ⟨acts, q, step, rfl, hturn, hanswer⟩
    | stopping hp _ =>
      cases r with
      | ack =>
        simp only [hp] at h
        cases h
        refine ⟨_, _, _, rfl, ?_, .closed hp rfl⟩
        exact (Comes.act (.report (.legacy (.finalizeCompleted p.storedHeader)))).result rfl
      | nak =>
        simp only [hp] at h
        cases h
        refine ⟨_, _, _, rfl, ?_, .refused hp rfl⟩
        exact (Comes.act (.report (.legacy .finalizeFailed))).result rfl

/-- A transfer that is underway takes whatever answers. -/
theorem Underway.exists_receive {c : Context} {p : Push} {f : Frame} {r : Reply}
    (hu : Underway c.settings p) (hr : Reply.parse? f = some r) :
    ∃ turn, p.receive c f = some turn := by
  unfold receive answer
  rw [hr]
  cases hu.waits with
  | starting hp | sending hp => simp [hp]
  | stopping hp => cases r <;> simp [hp]

/-- A tick comes too early or finds the stop message overdue. -/
theorem stopTimedOut_comes (c : Context) {p : Push} {failed : LegacyEvent}
    (hp : Stopped p.phase failed) :
    ∃ acts q step,
      (if p.deadline ≤ c.now then p.stopTimedOut c failed else pure (p, .running)).Comes c acts
        (q, step) ∧ Lapse c p acts q step := by
  by_cases hd : p.deadline ≤ c.now
  · rw [if_pos hd]
    unfold stopTimedOut
    by_cases hr : p.retries < c.settings.retries
    · rw [if_pos hr]
      exact ⟨_, _, _, (sendStop_comes c _).result rfl, .stopAgain hp hd hr⟩
    · rw [if_neg hr]
      exact ⟨_, _, _, (Comes.act (.report (.legacy failed))).result rfl, .stopGivenUp hp hd hr⟩
  · rw [if_neg hd]
    exact ⟨_, _, _, .pure _, .stopEarly hp (Nat.lt_of_not_le hd)⟩

/-- A tick comes too early or finds the current block overdue. -/
theorem blockTimedOut_comes (c : Context) {p : Push} {b : Block} (hs : p.Sliced)
    (hp : p.phase = .mainSequence) (hb : p.blocks[p.current]? = some b) (ha : b.awaiting = true) :
    ∃ acts q step, (p.blockTimedOut c).Comes c acts (q, step) ∧ Lapse c p acts q step := by
  have hcurrent := (List.getElem?_eq_some_iff.1 hb).1
  unfold blockTimedOut
  rw [Checked.get_eq hb]
  by_cases hd : c.now < b.deadline
  · refine ⟨_, _, _, Comes.check ?_, .early hp hb hd⟩
    rw [if_pos hd]
    exact .pure _
  have hdue := Nat.le_of_not_lt hd
  rcases Block.awaiting_iff.1 ha with hstate | hstate
  · refine ⟨_, _, _, Comes.check ?_, .nudged hp hb hdue hstate⟩
    rw [if_neg hd, hstate]
    exact (Comes.act (.write Flash.nudge)).bind_nil ((deadline_comes c).result rfl)
  · by_cases hr : b.retries < c.settings.retries
    · have hpiece : Piece p.file b := hs.piece hb
      refine ⟨_, _, _, Comes.check ?_, .resent hp hb hdue hstate hr⟩
      rw [if_neg hd, hstate]
      dsimp only
      rw [if_pos hr]
      exact (resend_comes c (b := { b with state := .waitingForResend }) hcurrent hpiece).result rfl
    · refine ⟨_, _, _, Comes.check ?_, .givenUp hp hb hdue hstate hr⟩
      rw [if_neg hd, hstate]
      dsimp only
      rw [if_neg hr]
      exact .pure _

theorem checkTimeouts_comes (c : Context) {p : Push} (hu : Underway c.settings p) :
    ∃ acts q step, (p.checkTimeouts c).Comes c acts (q, step) ∧ Lapse c p acts q step := by
  unfold checkTimeouts
  cases hu.waits with
  | starting hp _ _ _ =>
    rw [hp]
    exact stopTimedOut_comes c (hp ▸ .starting)
  | sending hp out =>
    rw [hp]
    exact blockTimedOut_comes c hu.sliced hp out.current out.awaiting
  | stopping hp _ =>
    rw [hp]
    exact stopTimedOut_comes c (hp ▸ .stopping)

/-! ## Going on -/

variable {c : Context} {p q : Push} {acts : List Action}

/-- A transfer that a file makes has all its blocks in front of it. -/
theorem ofFile_eq_ok {file : Bytes} (h : ofFile file = .ok p) :
    ∃ header, Header.parse file = .ok header ∧
      p = ⟨file, header, Block.cut file, 0, .idle, 0, 0⟩ := by
  unfold ofFile at h
  cases hh : Header.parse file with
  | error e =>
    rw [hh] at h
    cases h
  | ok header =>
    rw [hh] at h
    cases h
    exact ⟨header, rfl, rfl⟩

/-- What a file is cut into are its pieces. -/
theorem piece_of_mem_cut {file : Bytes} {x : Flash.Content × UInt16}
    (hx : x ∈ (Block.cut file).map Block.item) : x.1 ≠ .stop ∧ x.1.StandsIn file := by
  obtain ⟨b, hb, rfl⟩ := List.mem_map.1 hx
  obtain ⟨i, hi, rfl⟩ := List.mem_mapIdx.1 hb
  exact ⟨nofun, Bytes.slice_pieces Flash.blockSize_pos (List.getElem?_eq_getElem hi)⟩

/-- The transfer of a file is underway when it has begun. -/
theorem underway_start {s : Settings} {file : Bytes} (h : ofFile file = .ok p) (c : Context) :
    Underway s ((p.entering .starting).stopSent c) := by
  obtain ⟨header, hh, rfl⟩ := ofFile_eq_ok h
  have hfile : file ≠ [] := by
    rintro rfl
    cases hh
  obtain ⟨piece, pieces, hcut⟩ : ∃ piece pieces,
      Bytes.pieces Flash.blockSize (by decide) file = piece :: pieces :=
    List.exists_cons_of_ne_nil (mt (Bytes.pieces_eq_nil_iff _).1 hfile)
  have hfirst : (Block.cut file)[0]? =
      some (.fresh (.data (0 * Flash.blockSize) piece) (UInt16.ofNat 0)) := by
    rw [Block.cut, List.getElem?_mapIdx, hcut]
    rfl
  refine ⟨?_, fun _ => piece_of_mem_cut⟩
  exact .starting rfl (Nat.zero_le _) hfirst fun _ => Flash.Transfer.retries_dataBlocks

theorem Answer.waits {r : Reply} (h : Answer c p r acts q .running) (hw : Waits c.settings p) :
    Waits c.settings q := by
  cases hw with
  | starting hp hr hb hfresh =>
    cases h with
    | begun _ hb => exact .sending rfl (.start hb rfl rfl hfresh)
    | advanced hp' | closing hp' | resent hp' =>
      rw [hp] at hp'
      cases hp'
  | sending hp out =>
    cases h with
    | begun hp' =>
      rw [hp] at hp'
      cases hp'
    | @advanced b next _ _ hb hn =>
      exact .sending hp (out.advance (b.ended .received) hn (next.awaiting_outAt c) rfl)
    | closing => exact .stopping rfl (Nat.zero_le _)
    | @resent b _ _ hb ha => exact .sending hp (out.put (b.again.awaiting_outAt c) ha)
  | stopping hp hr =>
    cases h with
    | begun hp' | advanced hp' | closing hp' | resent hp' =>
      rw [hp] at hp'
      cases hp'

theorem Lapse.waits (h : Lapse c p acts q .running) (hw : Waits c.settings p) :
    Waits c.settings q := by
  cases h with
  | stopEarly => exact hw
  | early => exact hw
  | stopAgain hp hd hr =>
    cases hw with
    | starting hp' _ hb hfresh => exact .starting hp' hr hb hfresh
    | sending hp' out =>
      rw [hp'] at hp
      cases hp
    | stopping hp' _ => exact .stopping hp' hr
  | @nudged b hp hb hd hs =>
    cases hw with
    | sending hp' out =>
      cases out.current.symm.trans hb
      exact .sending hp (out.put (b.awaiting_nudgedAt c) out.retries)
    | starting hp' | stopping hp' =>
      rw [hp'] at hp
      cases hp
  | @resent b hp hb hd hs hr =>
    cases hw with
    | sending hp' out => exact .sending hp (out.put (b.again.awaiting_outAt c) hr)
    | starting hp' | stopping hp' =>
      rw [hp'] at hp
      cases hp

/-! ## What a turn leaves alone -/

theorem Answer.file_eq {r : Reply} {step : Step} (h : Answer c p r acts q step) :
    q.file = p.file := by
  cases h <;> rfl

theorem Lapse.file_eq {step : Step} (h : Lapse c p acts q step) : q.file = p.file := by
  cases h <;> rfl

/-- The header changes only at the end. -/
theorem Answer.header_eq {r : Reply} (h : Answer c p r acts q .running) : q.header = p.header := by
  cases h <;> rfl

theorem Lapse.header_eq {step : Step} (h : Lapse c p acts q step) : q.header = p.header := by
  cases h <;> rfl

theorem items_put {b b' : Block} (hb : p.blocks[p.current]? = some b) (hitem : b'.item = b.item) :
    (p.put b').blocks.map Block.item = p.blocks.map Block.item :=
  Block.map_item_set hb hitem

theorem Answer.items_eq {r : Reply} {step : Step} (h : Answer c p r acts q step) :
    q.blocks.map Block.item = p.blocks.map Block.item := by
  cases h with
  | begun hp hb => exact items_put (p := p.entering .mainSequence) hb rfl
  | @advanced b next hp hr hb hn =>
    have hnext : (p.blocks.set p.current (b.ended .received))[p.current + 1]? = some next := by
      rwa [List.getElem?_set_ne (Nat.ne_of_lt (Nat.lt_succ_self _))]
    exact (Block.map_item_set hnext (next.item_outAt c)).trans (items_put hb rfl)
  | closing hp hr hb | resent hp hr hb | exhausted hp hr hb => exact items_put hb rfl
  | closed | refused => rfl

theorem Lapse.items_eq {step : Step} (h : Lapse c p acts q step) :
    q.blocks.map Block.item = p.blocks.map Block.item := by
  cases h with
  | stopEarly | stopGivenUp | early | stopAgain => rfl
  | nudged hp hb | resent hp hb | givenUp hp hb => exact items_put hb rfl

theorem Answer.underway {r : Reply} (h : Answer c p r acts q .running)
    (hu : Underway c.settings p) : Underway c.settings q :=
  ⟨h.waits hu.waits, hu.sliced.congr h.items_eq h.file_eq⟩

theorem Lapse.underway (h : Lapse c p acts q .running) (hu : Underway c.settings p) :
    Underway c.settings q :=
  ⟨h.waits hu.waits, hu.sliced.congr h.items_eq h.file_eq⟩

/-! ## How long the receiver may be silent -/

/-- The clock reading from which what the transfer waits for is overdue. -/
def pending? (p : Push) : Option Nat :=
  match p.phase with
  | .idle => none
  | .starting | .stopping => some p.deadline
  | .mainSequence => p.blocks[p.current]?.map (·.deadline)

/-- How often what the transfer waits for may be overdue until it gives up. -/
def left (limit : Nat) (p : Push) : Nat :=
  match p.phase with
  | .mainSequence => (p.blocks[p.current]?.map (Block.left limit)).getD 0
  | _ => limit - p.retries + 1

/-- The most that can be left in a phase. -/
def patience (limit : Nat) (p : Push) : Nat :=
  match p.phase with
  | .mainSequence => 2 * (limit + 1)
  | _ => limit + 1

theorem left_sending {limit : Nat} {b : Block} (hp : p.phase = .mainSequence)
    (hb : p.blocks[p.current]? = some b) : p.left limit = b.left limit := by
  simp only [left, hp, hb, Option.map_some, Option.getD_some]

theorem left_stopped {limit : Nat} {failed : LegacyEvent} (hp : Stopped p.phase failed) :
    p.left limit = limit - p.retries + 1 := by
  unfold left
  generalize p.phase = phase at hp
  cases hp <;> rfl

theorem pending?_stopped {failed : LegacyEvent} (hp : Stopped p.phase failed) :
    p.pending? = some p.deadline := by
  unfold pending?
  generalize p.phase = phase at hp
  cases hp <;> rfl

theorem Underway.left_bounds {s : Settings} (h : Underway s p) :
    0 < p.left s.retries ∧ p.left s.retries ≤ p.patience s.retries := by
  cases h.waits with
  | sending hp out =>
    rw [left_sending hp out.current, patience, hp]
    exact ⟨Block.left_pos _ _, Block.left_le _ _⟩
  | starting hp | stopping hp =>
    simp only [left, patience, hp]
    omega

/-- If what the transfer waits for is overdue, it gives up or has less left. -/
theorem Lapse.gives_up_or_left_lt {step : Step} (h : Lapse c p acts q step)
    (hd : ∀ d, p.pending? = some d → d ≤ c.now) :
    step = .terminated .receiverNotResponding ∨
      step = .running ∧ q.left c.settings.retries < p.left c.settings.retries := by
  have hdue : ∀ {b}, p.phase = .mainSequence → p.blocks[p.current]? = some b →
      b.deadline ≤ c.now := by
    intro b hp hb
    exact hd _ (by simp only [pending?, hp, hb, Option.map_some])
  cases h with
  | stopEarly hp hearly => exact absurd (hd _ (pending?_stopped hp)) (Nat.not_le_of_lt hearly)
  | early hp hb hearly => exact absurd (hdue hp hb) (Nat.not_le_of_lt hearly)
  | stopGivenUp | givenUp => exact .inl rfl
  | stopAgain hp _ hr =>
    refine .inr ⟨rfl, ?_⟩
    rw [left_stopped hp, left_stopped (p := stopSent c { p with retries := p.retries + 1 }) hp]
    simp only [stopSent]
    omega
  | @nudged b hp hb _ hs =>
    refine .inr ⟨rfl, ?_⟩
    have hput : (p.put (b.nudgedAt c)).blocks[p.current]? = some (b.nudgedAt c) :=
      List.getElem?_set_self (List.getElem?_eq_some_iff.1 hb).1
    rw [left_sending hp hb, left_sending (p := p.put (b.nudgedAt c)) hp hput]
    exact Block.left_nudgedAt_lt _ c hs
  | @resent b hp hb _ hs hr =>
    refine .inr ⟨rfl, ?_⟩
    have hput : (p.put (b.again.outAt c)).blocks[p.current]? = some (b.again.outAt c) :=
      List.getElem?_set_self (List.getElem?_eq_some_iff.1 hb).1
    rw [left_sending hp hb, left_sending (p := p.put (b.again.outAt c)) hp hput]
    exact Block.left_again_lt c hs hr

end GnssAiding.Legacy.Push
