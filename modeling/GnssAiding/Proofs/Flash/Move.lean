/-
What a transfer into flash does with an input, said once.

A transfer is underway while its current block is out (`Underway`). Then a
frame that is for it is an answer to that block (`Answer`), and a tick either
comes too early, or nudges the receiver, sends the block again or gives up
(`Lapse`). `receive_comes` and `checkTimeouts_comes` say that an input leads
to nothing else, unless it stops on a deadline that the clock cannot show. A
transfer that goes on is underway still (`Answer.underway`, `Lapse.underway`).
-/
import GnssAiding.Proofs.Flash.Blocks
import GnssAiding.Proofs.Transfer.Turn

namespace GnssAiding

namespace Flash

open Turn

namespace Transfer

/-! ## Sending -/

theorem sendCurrent_comes (c : Context) {t : Transfer} {b : Block}
    (hb : t.blocks[t.current]? = some b) (hin : b.content.StandsIn t.data) :
    (t.sendCurrent c).Comes c b.transmission (t.put (b.outAt c)) := by
  have hframe := Block.frame_eq hin
  unfold sendCurrent
  rw [Checked.get_eq hb]
  refine Comes.check ?_
  dsimp only
  rw [hframe]
  obtain ⟨content, sequence, state, retries, due⟩ := b
  unfold Block.transmission
  generalize Block.record _ = framed
  -- A block that has no record is not written, and a stop is not reported.
  cases framed with
  | ok f =>
    refine Comes.cons ?_
    cases content with
    | data offset bytes => exact (deadline_comes c).nil_bind ((Comes.act _).result rfl)
    | stop => exact (deadline_comes c).result rfl
  | error e =>
    cases content with
    | data offset bytes => exact (deadline_comes c).nil_bind ((Comes.act _).result rfl)
    | stop => exact (deadline_comes c).result rfl

/-- What sending the block again does to the host. -/
def resending (b : Block) : List Action :=
  .report (.flashBlockRetry b.again.report) :: b.again.transmission

theorem sendAgain_comes (c : Context) {t : Transfer} {b : Block}
    (hc : t.current < t.blocks.length) (hin : b.content.StandsIn t.data) :
    (t.sendAgain c b).Comes c (resending b) (t.put (b.again.outAt c)) := by
  have hput : (t.put b.again).blocks[(t.put b.again).current]? = some b.again :=
    List.getElem?_set_self hc
  have hagain : (t.put b.again).put (b.again.outAt c) = t.put (b.again.outAt c) := by
    simp only [put, List.set_set]
  rw [← hagain]
  exact (Comes.act (.report (.flashBlockRetry b.again.report))).bind
    (sendCurrent_comes c hput hin)

/-! ## Answers and lapses -/

/-- What a transfer whose current block is `b` does with a reply. -/
inductive Answer (c : Context) (t : Transfer) (b : Block) (r : Reply) :
    List Action → Transfer → Step → Prop
  /-- The receiver has stored everything. -/
  | stopped (hv : r.verdict = .accepted) (hs : r.sequence = stopSequence) :
    Answer c t b r [] (t.put (b.ended .received)) .finished
  /-- The block has arrived, and the next one is sent. -/
  | advanced {next} (hv : r.verdict = .accepted) (hs : r.sequence ≠ stopSequence)
    (hb : r.sequence = b.sequence) (hn : t.blocks[t.current + 1]? = some next) :
    Answer c t b r (.report (.flashBlockComplete b.report) :: next.transmission)
      ⟨t.data, (t.blocks.set t.current (b.ended .received)).set (t.current + 1) (next.outAt c),
        t.current + 1⟩ .running
  /-- The receiver wants the block again. -/
  | resent (hv : r.verdict = .again) (hr : b.retries < c.settings.retries) :
    Answer c t b r (resending b) (t.put (b.again.outAt c)) .running
  /-- The receiver wants the block again, which was sent again as often as allowed. -/
  | exhausted (hv : r.verdict = .again) (hr : ¬ b.retries < c.settings.retries) :
    Answer c t b r [] (t.put (b.ended .failed)) (.terminated .receiverNak)
  | aborted (hv : r.verdict = .abort) :
    Answer c t b r [] (t.put (b.ended .failed)) (.terminated .receiverNak)
  | unknown (hv : r.verdict = .unknown) :
    Answer c t b r [] (t.put (b.ended .failed)) (.terminated .protocolError)

/-- What a transfer whose current block is `b` does with a tick. -/
inductive Lapse (c : Context) (t : Transfer) (b : Block) :
    List Action → Transfer → Step → Prop
  | early (hd : c.now < b.deadline) : Lapse c t b [] t .running
  | nudged (hd : b.deadline ≤ c.now) (hs : b.state = .waitingForAck) :
    Lapse c t b [.write nudge] (t.put (b.nudgedAt c)) .running
  | resent (hd : b.deadline ≤ c.now) (hs : b.state = .waitingForSecondChance)
    (hr : b.retries < c.settings.retries) :
    Lapse c t b (resending b) (t.put (b.again.outAt c)) .running
  | givenUp (hd : b.deadline ≤ c.now) (hs : b.state = .waitingForSecondChance)
    (hr : ¬ b.retries < c.settings.retries) :
    Lapse c t b [] (t.put (b.ended .failed)) (.terminated .receiverNotResponding)

/-- A transfer of `chunks` that has begun and not ended. -/
structure Underway (s : Settings) (chunks : List Bytes) (t : Transfer) (b : Block) : Prop
    extends Block.Out s.retries t.blocks t.current b where
  items : t.blocks.map Block.item = items chunks
  /-- The blocks are slices of the records that the transfer holds. -/
  sliced : ∀ x ∈ Flash.items chunks, x.1.StandsIn t.data

namespace Underway

variable {s : Settings} {chunks : List Bytes} {t : Transfer} {b : Block}
  (h : Underway s chunks t b)

include h

theorem item_eq : (Flash.items chunks)[t.current]? = some b.item :=
  Block.getElem?_items h.items h.current

theorem length_blocks : t.blocks.length = chunks.length + 1 := by
  have := congrArg List.length h.items
  simpa [Flash.items] using this

theorem standsIn {i : Nat} {b : Block} (hb : t.blocks[i]? = some b) :
    b.content.StandsIn t.data := by
  refine h.sliced b.item ?_
  rw [← h.items]
  exact List.mem_map_of_mem (List.mem_of_getElem? hb)

/-- The current block is one of data, or the stop behind all of them. -/
theorem current_cases :
    (∃ chunk, chunks[t.current]? = some chunk ∧
        b.content = .data (t.current * blockSize) chunk ∧ b.sequence = UInt16.ofNat t.current) ∨
      t.current = chunks.length ∧ b.content = .stop ∧ b.sequence = stopSequence := by
  rcases items_getElem?_eq_some_iff.1 h.item_eq with ⟨chunk, hchunk, hitem⟩ | ⟨hlast, hitem⟩
  · exact .inl ⟨chunk, hchunk, congrArg Prod.fst hitem, congrArg Prod.snd hitem⟩
  · exact .inr ⟨hlast, congrArg Prod.fst hitem, congrArg Prod.snd hitem⟩

/-- Behind a block of data there is another one. -/
theorem exists_next (hs : b.sequence ≠ stopSequence) :
    ∃ next, t.blocks[t.current + 1]? = some next := by
  rcases h.current_cases with ⟨chunk, hchunk, -⟩ | ⟨-, -, hstop⟩
  · have hlt := (List.getElem?_eq_some_iff.1 hchunk).1
    have hnext : t.current + 1 < t.blocks.length := by
      rw [h.length_blocks]
      omega
    exact ⟨_, List.getElem?_eq_getElem hnext⟩
  · exact absurd hstop hs

/-- The current block is replaced and still out. -/
theorem put {b' : Block} (hitem : b'.item = b.item) (ha : b'.awaiting = true)
    (hr : b'.retries ≤ s.retries) : Underway s chunks (t.put b') b' where
  toOut := h.toOut.put ha hr
  items := by
    rw [← h.items]
    exact Block.map_item_set h.current hitem
  sliced := h.sliced

/-- The current block is done and the next one is out. -/
theorem advance {next next' : Block} (state : Progress) (hn : t.blocks[t.current + 1]? = some next)
    (hitem : next'.item = next.item) (ha : next'.awaiting = true)
    (hr : next'.retries = next.retries) :
    Underway s chunks
      ⟨t.data, (t.blocks.set t.current (b.ended state)).set (t.current + 1) next',
        t.current + 1⟩ next' where
  toOut := h.toOut.advance (b.ended state) hn ha hr
  items := by
    have hnext : (t.blocks.set t.current (b.ended state))[t.current + 1]? = some next := by
      rw [List.getElem?_set_ne (Nat.ne_of_lt (Nat.lt_succ_self _)), hn]
    dsimp only
    rw [Block.map_item_set hnext hitem, Block.map_item_set h.current (b.item_ended state), h.items]
  sliced := h.sliced

end Underway

/-! ## Inputs -/

/-- The start sends the first block. -/
theorem start_comes (c : Context) {t : Transfer} {b : Block} (hb : t.blocks[t.current]? = some b)
    (hin : b.content.StandsIn t.data) :
    (t.start c).Comes c (.report (.start (t.blocks.length - 1)) :: b.transmission)
      (t.put (b.outAt c), .running) :=
  (Comes.act (.report (.start (t.blocks.length - 1)))).bind
    ((sendCurrent_comes c hb hin).result rfl)

/-- A transfer that has begun is underway, with its first block. -/
theorem underway_start (c : Context) {chunks : List Bytes} (hplaced : InPlace chunks) :
    ∃ b, (ofChunks chunks).blocks[0]? = some b ∧
      Underway c.settings chunks ((ofChunks chunks).put (b.outAt c)) (b.outAt c) := by
  have hlen : 0 < (ofChunks chunks).blocks.length := by
    simp only [ofChunks, List.length_append, List.length_singleton]
    omega
  have hb := List.getElem?_eq_getElem hlen
  refine ⟨_, hb, .start hb rfl rfl fun _ => retries_ofChunks, ?_, hplaced⟩
  rw [← items_ofChunks]
  exact Block.map_item_set hb rfl

section Answering

variable {c : Context} {chunks : List Bytes} {t : Transfer} {b : Block} {r : Reply}
  {turn : Turn (Transfer × Step)} (ht : Underway c.settings chunks t b)

include ht

/-- An acknowledgement ends the transfer, or the next block is sent, or it is of another
block. -/
theorem accepted_comes (hv : r.verdict = .accepted) (h : t.answer c b r = some turn) :
    ∃ acts u step, turn.Comes c acts (u, step) ∧ Answer c t b r acts u step := by
  unfold answer at h
  rw [hv] at h
  dsimp only at h
  split at h
  · next hs =>
    cases h
    exact ⟨_, _, _, .pure _, .stopped hv hs⟩
  next hs =>
  split at h
  · next hb =>
    split at h
    · next hstop =>
      -- The number of a stop is that of the stop, so this branch is not reached.
      rcases ht.current_cases with ⟨chunk, -, hdata, -⟩ | ⟨-, -, hlast⟩
      · cases hdata.symm.trans hstop
      · exact absurd (hb.trans hlast) hs
    · cases h
      obtain ⟨next, hn⟩ := ht.exists_next (hb ▸ hs)
      refine ⟨_, _, _, ?_, .advanced hv hs hb hn⟩
      refine (Comes.act (.report (.flashBlockComplete b.report))).bind ?_
      refine (sendCurrent_comes c ?_ ?_).result rfl
      · exact (List.getElem?_set_ne (Nat.ne_of_lt (Nat.lt_succ_self _))).trans hn
      · exact ht.standsIn hn
  · cases h

theorem answer_comes (h : t.answer c b r = some turn) :
    ∃ acts u step, turn.Comes c acts (u, step) ∧ Answer c t b r acts u step := by
  cases hv : r.verdict with
  | accepted => exact accepted_comes ht hv h
  | again =>
    simp only [answer, hv] at h
    cases h
    by_cases hr : b.retries < c.settings.retries
    · rw [if_neg (Nat.not_le_of_lt hr)]
      exact ⟨_, _, _, (sendAgain_comes c ht.lt (ht.standsIn ht.current)).result rfl, .resent hv hr⟩
    · rw [if_pos (Nat.le_of_not_lt hr)]
      exact ⟨_, _, _, .pure _, .exhausted hv hr⟩
  | abort =>
    simp only [answer, hv] at h
    cases h
    exact ⟨_, _, _, .pure _, .aborted hv⟩
  | unknown =>
    simp only [answer, hv] at h
    cases h
    exact ⟨_, _, _, .pure _, .unknown hv⟩

/-- A frame that is for the transfer is an answer to the current block. -/
theorem receive_comes {f : Frame} (h : t.receive c f = some turn) :
    ∃ r acts u step, Reply.parse? f = some r ∧ turn.Comes c acts (u, step) ∧
      Answer c t b r acts u step := by
  unfold receive at h
  rw [Reply.read_eq] at h
  cases hf : Reply.parse? f with
  | none =>
    rw [hf] at h
    cases h
  | some r =>
    rw [hf, Checked.get_eq ht.current] at h
    simp only [ht.awaiting, if_true] at h
    obtain ⟨acts, u, step, hcomes, hanswer⟩ := answer_comes ht h
    exact ⟨r, acts, u, step, rfl, hcomes, hanswer⟩

end Answering

/-- A tick comes too early or finds the current block overdue. -/
theorem checkTimeouts_comes (c : Context) {t : Transfer} {b : Block}
    (hb : t.blocks[t.current]? = some b) (ha : b.awaiting = true)
    (hin : b.content.StandsIn t.data) :
    ∃ acts u step, (t.checkTimeouts c).Comes c acts (u, step) ∧ Lapse c t b acts u step := by
  have hcurrent := (List.getElem?_eq_some_iff.1 hb).1
  unfold checkTimeouts
  rw [Checked.get_eq hb]
  by_cases hd : c.now < b.deadline
  · refine ⟨_, _, _, Comes.check ?_, .early hd⟩
    rw [if_pos hd]
    exact .pure _
  have hdue := Nat.le_of_not_lt hd
  rcases Block.awaiting_iff.1 ha with hs | hs
  · refine ⟨_, _, _, Comes.check ?_, .nudged hdue hs⟩
    rw [if_neg hd, hs]
    exact (Comes.act (.write nudge)).bind_nil ((deadline_comes c).result rfl)
  · by_cases hr : b.retries < c.settings.retries
    · refine ⟨_, _, _, Comes.check ?_, .resent hdue hs hr⟩
      rw [if_neg hd, hs]
      dsimp only
      rw [if_pos hr]
      exact (sendAgain_comes c hcurrent (b := { b with state := .waitingForResend }) hin).result rfl
    · refine ⟨_, _, _, Comes.check ?_, .givenUp hdue hs hr⟩
      rw [if_neg hd, hs]
      dsimp only
      rw [if_neg hr]
      exact .pure _

/-! ## Going on -/

theorem Answer.underway {c : Context} {chunks : List Bytes} {t u : Transfer} {b : Block}
    {r : Reply} {acts : List Action} (h : Answer c t b r acts u .running)
    (ht : Underway c.settings chunks t b) : ∃ b', Underway c.settings chunks u b' := by
  cases h with
  | @advanced next hv hs hb hn =>
    exact ⟨_, ht.advance .received hn (next.item_outAt c) (next.awaiting_outAt c) rfl⟩
  | resent hv hr => exact ⟨_, ht.put (b.item_again) (b.again.awaiting_outAt c) hr⟩

theorem Lapse.underway {c : Context} {chunks : List Bytes} {t u : Transfer} {b : Block}
    {acts : List Action} (h : Lapse c t b acts u .running) (ht : Underway c.settings chunks t b) :
    ∃ b', Underway c.settings chunks u b' := by
  cases h with
  | early hd => exact ⟨b, ht⟩
  | nudged hd hs => exact ⟨_, ht.put (b.item_nudgedAt c) (b.awaiting_nudgedAt c) ht.retries⟩
  | resent hd hs hr => exact ⟨_, ht.put (b.item_again) (b.again.awaiting_outAt c) hr⟩

/-! ## What a turn leaves alone -/

theorem Answer.data_eq {c : Context} {t u : Transfer} {b : Block} {r : Reply}
    {acts : List Action} {step : Step} (h : Answer c t b r acts u step) : u.data = t.data := by
  cases h <;> rfl

theorem Lapse.data_eq {c : Context} {t u : Transfer} {b : Block} {acts : List Action}
    {step : Step} (h : Lapse c t b acts u step) : u.data = t.data := by
  cases h <;> rfl

/-! ## How long the receiver may be silent -/

/-- The clock reading from which the current block is overdue. -/
def pending? (t : Transfer) : Option Nat := t.blocks[t.current]?.map (·.deadline)

/-- How often the current block may be overdue until it is given up. -/
def left (limit : Nat) (t : Transfer) : Nat :=
  (t.blocks[t.current]?.map (Block.left limit)).getD 0

theorem left_eq {limit : Nat} {t : Transfer} {b : Block} (hb : t.blocks[t.current]? = some b) :
    t.left limit = b.left limit := by
  simp only [left, hb, Option.map_some, Option.getD_some]

theorem Underway.left_bounds {s : Settings} {chunks : List Bytes} {t : Transfer} {b : Block}
    (h : Underway s chunks t b) :
    0 < t.left s.retries ∧ t.left s.retries ≤ 2 * (s.retries + 1) := by
  rw [left_eq h.current]
  exact ⟨Block.left_pos _ _, Block.left_le _ _⟩

/-- If the current block is overdue, it is given up or has less left. -/
theorem Lapse.gives_up_or_left_lt {c : Context} {t u : Transfer} {b : Block} {acts : List Action}
    {step : Step} (h : Lapse c t b acts u step) (hb : t.blocks[t.current]? = some b)
    (hd : ∀ d, t.pending? = some d → d ≤ c.now) :
    step = .terminated .receiverNotResponding ∨
      step = .running ∧ u.left c.settings.retries < t.left c.settings.retries := by
  have hlt := (List.getElem?_eq_some_iff.1 hb).1
  have hput : ∀ b', (t.put b').blocks[(t.put b').current]? = some b' :=
    fun _ => List.getElem?_set_self hlt
  have hdue : b.deadline ≤ c.now := hd _ (by simp only [pending?, hb, Option.map_some])
  cases h with
  | early hearly => exact absurd hdue (Nat.not_le_of_lt hearly)
  | givenUp => exact .inl rfl
  | nudged _ hs =>
    refine .inr ⟨rfl, ?_⟩
    rw [left_eq hb, left_eq (hput _)]
    exact Block.left_nudgedAt_lt _ c hs
  | resent _ hs hr =>
    refine .inr ⟨rfl, ?_⟩
    rw [left_eq hb, left_eq (hput _)]
    exact Block.left_again_lt c hs hr

end Transfer

end Flash

end GnssAiding
