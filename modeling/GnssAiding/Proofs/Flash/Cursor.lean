/-
Where a transfer into flash stands, and how often each block has gone out.

While a transfer runs, the blocks before the current one are received, the current
one is on its way, and those behind it have not been sent (`InOrder`). What was
written are the attempts at the records of the blocks up to the current one (`Placed`),
which are distinct (`exists_records`). An answer or a lapse stays at the block or, if it
acknowledges that block, goes on to the next (`Answer.current_cases`). So the cursor
never falls back or skips a block, and no record goes out too often (`history_cursor`).
-/
import GnssAiding.Proofs.Flash.Completion
import GnssAiding.Proofs.Flash.Tries

namespace GnssAiding.Flash

open Turn
open GnssAiding.Transfer (Input pairSettings)

/-! ## Records -/

namespace Block

theorem record_eq_of_item {b b' : Block} (h : b.item = b'.item) : b.record = b'.record := by
  have hcontent : b.content = b'.content := congrArg Prod.fst h
  have hsequence : b.sequence = b'.sequence := congrArg Prod.snd h
  rw [record, record, hcontent, hsequence]

/-- Sending a block writes its record and nothing else. -/
theorem written_transmission {b : Block} {f : Frame} (h : b.record = .ok f) :
    b.transmission.filterMap Action.written? = [f.bytes] := by
  unfold transmission
  rw [h]
  cases b.content <;> rfl

end Block

namespace Transfer

theorem written_resending {b : Block} {f : Frame} (h : b.record = .ok f) :
    (resending b).filterMap Action.written? = [f.bytes] :=
  b.again.written_transmission h

/-- The number that the answer to what is written has. -/
def number (data : Bytes) : UInt16 := ((section? data).map Prod.fst).getD stopSequence

theorem exists_record {chunks : List Bytes} (hchunks : Chunks chunks) {b : Block}
    (hb : b ∈ (ofChunks chunks).blocks) : ∃ f, b.record = .ok f ∧ number f.bytes = b.sequence := by
  rcases List.mem_append.1 hb with hb | hb
  · obtain ⟨i, hi, rfl⟩ := List.mem_mapIdx.1 hb
    obtain ⟨f, hf, hsection⟩ :=
      dataFrame_eq (hchunks.small _ (List.getElem_mem hi)) (UInt16.ofNat i)
    refine ⟨f, hf, ?_⟩
    rw [number, hsection]
    rfl
  · rw [List.mem_singleton.1 hb]
    refine ⟨stopFrame, rfl, ?_⟩
    rw [number, section?_stopFrame]
    rfl

theorem nodup_sequence_ofChunks {chunks : List Bytes} (hchunks : Chunks chunks) :
    ((ofChunks chunks).blocks.map (·.sequence)).Nodup := by
  rw [ofChunks, List.map_append, map_sequence_dataBlocks]
  refine List.nodup_append'.2 ⟨?_, List.nodup_singleton _, ?_⟩
  · refine List.nodup_range.map_on fun i hi j hj he => ?_
    exact hchunks.sequence_inj (List.mem_range.1 hi) (List.mem_range.1 hj) he
  · intro n hn hstop
    obtain ⟨i, hi, rfl⟩ := List.mem_map.1 hn
    exact hchunks.sequence_ne_stop (List.mem_range.1 hi) (List.mem_singleton.1 hstop)

/-- Every block has a record, and no two of them are the same. -/
theorem exists_records {chunks : List Bytes} (hchunks : Chunks chunks) :
    ∃ frames : List Frame, (ofChunks chunks).blocks.map Block.record = frames.map .ok ∧
      (frames.map Frame.bytes).Nodup := by
  have hall : ∀ blocks ⊆ (ofChunks chunks).blocks, ∃ frames : List Frame,
      blocks.map Block.record = frames.map .ok ∧
        (frames.map Frame.bytes).map number = blocks.map (·.sequence) := by
    intro blocks hsub
    induction blocks with
    | nil => exact ⟨[], rfl, rfl⟩
    | cons b blocks ih =>
      obtain ⟨f, hf, hnumber⟩ := exists_record hchunks (hsub List.mem_cons_self)
      obtain ⟨frames, hframes, hnumbers⟩ := ih fun b hb => hsub (List.mem_cons_of_mem _ hb)
      exact ⟨f :: frames, by simp [hf, hframes], by simp [hnumber, ← hnumbers]⟩
  obtain ⟨frames, hframes, hnumbers⟩ := hall _ (List.Subset.refl _)
  refine ⟨frames, hframes, .of_map number ?_⟩
  rw [hnumbers]
  exact nodup_sequence_ofChunks hchunks

/-- Each block stands where it says, so what it goes out as is its record. -/
theorem frames_of_records {chunks : List Bytes} {frames : List Frame} (hchunks : Chunks chunks)
    (hframes : (ofChunks chunks).blocks.map Block.record = frames.map .ok) :
    (ofChunks chunks).blocks.map (Block.frame chunks.flatten) = frames.map .ok := by
  have hframe : ∀ b ∈ (ofChunks chunks).blocks,
      b.frame chunks.flatten = b.record.mapError .refused := by
    intro b hb
    refine Block.frame_eq (hchunks.placed b.item ?_)
    rw [← items_ofChunks]
    exact List.mem_map_of_mem hb
  have hmap := congrArg (List.map (Except.mapError Failure.refused)) hframes
  rw [List.map_map, List.map_map] at hmap
  exact (List.map_congr_left hframe).trans hmap

/-- The record of a block is that of the block that the transfer was made with. -/
theorem record_of_items {chunks : List Bytes} {frames : List Frame} {t : Transfer} {i : Nat}
    {b : Block} (hframes : (ofChunks chunks).blocks.map Block.record = frames.map .ok)
    (hitems : t.blocks.map Block.item = items chunks) (hb : t.blocks[i]? = some b) :
    ∃ f, b.record = .ok f ∧ (frames.map Frame.bytes)[i]? = some f.bytes := by
  have hitem := Block.getElem?_items hitems hb
  rw [← items_ofChunks, List.getElem?_map, Option.map_eq_some_iff] at hitem
  obtain ⟨b₀, hb₀, hitem⟩ := hitem
  have hframe : (frames.map (.ok : Frame → Except Error Frame))[i]? = some b.record := by
    rw [← hframes, List.getElem?_map, hb₀, ← Block.record_eq_of_item hitem]
    rfl
  rw [List.getElem?_map, Option.map_eq_some_iff] at hframe
  obtain ⟨f, hf, hframe⟩ := hframe
  refine ⟨f, hframe.symm, ?_⟩
  rw [List.getElem?_map, hf]
  rfl

/-! ## The order of the blocks -/

/-- The blocks before the current one are received, it is on its way itself, and those
behind it have not been sent. -/
structure InOrder (t : Transfer) : Prop where
  before : ∀ (j : Nat) (b : Block), j < t.current → t.blocks[j]? = some b → b.state = .received
  current : ∃ b, t.blocks[t.current]? = some b ∧
    (b.state = .waitingForAck ∨ b.state = .waitingForSecondChance)
  ahead : ∀ (j : Nat) (b : Block), t.current < j → t.blocks[j]? = some b →
    b.state = .waitingToSend

/-- The other blocks stay when the current one is replaced. -/
theorem getElem?_put_of_ne {t : Transfer} {j : Nat} (h : j ≠ t.current) (b : Block) :
    (t.put b).blocks[j]? = t.blocks[j]? :=
  List.getElem?_set_ne h.symm

namespace InOrder

variable {t : Transfer} {b b' next next' : Block}

/-- The first block is sent. -/
theorem start {chunks : List Bytes} (hb : (ofChunks chunks).blocks[0]? = some b)
    (ha : b'.awaiting = true) : ((ofChunks chunks).put b').InOrder where
  before := fun j _ hj => absurd hj (Nat.not_lt_zero j)
  current := ⟨b', List.getElem?_set_self (List.getElem?_eq_some_iff.1 hb).1,
    Block.awaiting_iff.1 ha⟩
  ahead := by
    intro j n (hj : (ofChunks chunks).current < j) hn
    have hmem : n ∈ (ofChunks chunks).blocks := by
      rw [getElem?_put_of_ne (Nat.ne_of_gt hj)] at hn
      exact List.mem_of_getElem? hn
    rcases List.mem_append.1 hmem with hmem | hmem
    · obtain ⟨i, hi, rfl⟩ := List.mem_mapIdx.1 hmem
      rfl
    · rw [List.mem_singleton.1 hmem]
      rfl

variable (h : t.InOrder)

include h

/-- The current block is replaced and still on its way. -/
theorem put (ha : b'.awaiting = true) : (t.put b').InOrder where
  before := by
    intro j n (hj : j < t.current) hn
    rw [getElem?_put_of_ne (Nat.ne_of_lt hj)] at hn
    exact h.before j n hj hn
  current := by
    obtain ⟨b, hb, -⟩ := h.current
    exact ⟨b', List.getElem?_set_self (List.getElem?_eq_some_iff.1 hb).1,
      Block.awaiting_iff.1 ha⟩
  ahead := by
    intro j n (hj : t.current < j) hn
    rw [getElem?_put_of_ne (Nat.ne_of_gt hj)] at hn
    exact h.ahead j n hj hn

/-- The current block is received, and the next one is on its way. -/
theorem advance (hn : t.blocks[t.current + 1]? = some next) (ha : next'.awaiting = true) :
    InOrder ⟨t.data, (t.blocks.set t.current (b.ended .received)).set (t.current + 1) next',
      t.current + 1⟩ where
  before := by
    intro j n hj hn
    dsimp only at hj hn
    rw [List.getElem?_set_ne (Nat.ne_of_gt hj)] at hn
    by_cases he : j = t.current
    · subst he
      obtain ⟨b₀, hb₀, -⟩ := h.current
      rw [List.getElem?_set_self (List.getElem?_eq_some_iff.1 hb₀).1] at hn
      cases hn
      rfl
    · rw [List.getElem?_set_ne (Ne.symm he)] at hn
      exact h.before j n (by omega) hn
  current := by
    refine ⟨next', List.getElem?_set_self ?_, Block.awaiting_iff.1 ha⟩
    rw [List.length_set]
    exact (List.getElem?_eq_some_iff.1 hn).1
  ahead := by
    intro j n hj hn
    dsimp only at hj hn
    rw [List.getElem?_set_ne (Nat.ne_of_lt hj), List.getElem?_set_ne (by omega)] at hn
    exact h.ahead j n (by omega) hn

end InOrder

/-! ## What a step does to the cursor -/

section

variable {c : Context} {chunks : List Bytes} {t u : Transfer} {b : Block} {r : Reply}
  {acts : List Action} {step : Step}

/-- The cursor stays, or goes on by one for an acknowledgement of the current block. -/
theorem Answer.current_cases (h : Answer c t b r acts u step) :
    u.current = t.current ∨
      u.current = t.current + 1 ∧ r.verdict = .accepted ∧ r.sequence = b.sequence := by
  cases h with
  | advanced hv _ hb _ => exact .inr ⟨rfl, hv, hb⟩
  | stopped | resent | exhausted | aborted | unknown => exact .inl rfl

theorem Lapse.current_eq (h : Lapse c t b acts u step) : u.current = t.current := by
  cases h <;> rfl

/-- An acknowledgement of another block is not for the transfer. -/
theorem receive_eq_none {f : Frame} (hb : t.blocks[t.current]? = some b)
    (hr : Reply.parse? f = some r) (hv : r.verdict = .accepted) (hs : r.sequence ≠ stopSequence)
    (hne : r.sequence ≠ b.sequence) : t.receive c f = none := by
  unfold receive
  rw [Reply.read_eq, hr, Checked.get_eq hb]
  dsimp only
  split
  · simp only [answer, hv, if_neg hs, if_neg hne]
  · rfl

end

/-- What a transfer that runs, with `b` as its current block, does with an input. -/
inductive Taken (s : Settings) (t : Transfer) (b : Block) (i : Input) :
    List Action → Transfer → Step → Prop
  | ignored : Taken s t b i [] t .running
  | answered {time f r acts u step} (hi : i = .frame time f) (hr : Reply.parse? f = some r)
    (ha : Answer ⟨s, time⟩ t b r acts u step) : Taken s t b i acts u step
  | lapsed {acts u step} (hl : Lapse ⟨s, i.now⟩ t b acts u step) : Taken s t b i acts u step

theorem take_of_ended {s : Settings} {p : Transfer × Step} (h : p.2 ≠ .running) (i : Input) :
    take s p i = pure p := if_neg h

theorem take_comes {s : Settings} {chunks : List Bytes} {t : Transfer} {b : Block}
    (hu : Underway s chunks t b) (i : Input) :
    ∃ more u step, (take s (t, .running) i).Comes ⟨s, i.now⟩ more (u, step) ∧
      Taken s t b i more u step := by
  cases i with
  | frame time f =>
    change ∃ more u step, ((t.receive ⟨s, time⟩ f).getD (pure (t, .running))).Comes _ more _ ∧ _
    cases hr : t.receive ⟨s, time⟩ f with
    | none => exact ⟨[], t, .running, .pure _, .ignored⟩
    | some turn =>
      obtain ⟨r, acts, u, step, hreply, hturn, hanswer⟩ := receive_comes hu hr
      exact ⟨acts, u, step, hturn, .answered rfl hreply hanswer⟩
  | tick time =>
    obtain ⟨acts, u, step, hturn, hlapse⟩ := checkTimeouts_comes ⟨s, time⟩ hu.current hu.awaiting
      (hu.standsIn hu.current)
    exact ⟨acts, u, step, hturn, .lapsed hlapse⟩

/-! ## What is written -/

/-- How a transfer stands that has done `acts`, and what of them was written, where
`frames` are the records of its blocks. -/
structure Placed (s : Settings) (chunks : List Bytes) (frames : List Frame) (acts : List Action)
    (p : Transfer × Step) : Prop where
  groups : ∃ groups,
    List.Forall₂ (Tries s.retries) ((frames.map Frame.bytes).take (p.1.current + 1)) groups ∧
    acts.filterMap Action.written? = groups.flatten
  running : p.2 = .running → ∃ b, Underway s chunks p.1 b ∧ p.1.InOrder ∧
    Reached s.retries (frames.map Frame.bytes) p.1.current b (acts.filterMap Action.written?)

namespace Placed

variable {s : Settings} {chunks : List Bytes} {frames : List Frame} {acts more : List Action}
  {t u : Transfer} {b : Block} {step : Step} {c : Context} {r : Reply}

theorem of_running (hu : Underway s chunks t b) (ho : t.InOrder)
    (hw : Reached s.retries (frames.map Frame.bytes) t.current b
      (acts.filterMap Action.written?)) :
    Placed s chunks frames acts (t, .running) where
  groups := hw.groups hu.retries
  running := fun _ => ⟨b, hu, ho, hw⟩

/-- The transfer ends where it is, and nothing more is written. -/
theorem ended {p : Transfer × Step} (h : Placed s chunks frames acts p)
    (hcurrent : u.current = p.1.current) (hstep : step ≠ .running) :
    Placed s chunks frames (acts ++ []) (u, step) where
  groups := by
    rw [List.append_nil]
    show ∃ groups, List.Forall₂ _ ((frames.map Frame.bytes).take (u.current + 1)) groups ∧ _
    rw [hcurrent]
    exact h.groups
  running := fun hrun => absurd hrun hstep

variable (hframes : (ofChunks chunks).blocks.map Block.record = frames.map .ok)
  (hu : Underway s chunks t b) (ho : t.InOrder)
  (hw : Reached s.retries (frames.map Frame.bytes) t.current b (acts.filterMap Action.written?))

include hframes hu ho hw

/-- The current block is sent once more. -/
theorem resend (hc : c.settings = s) (hr : b.retries < s.retries) :
    Placed s chunks frames (acts ++ resending b) (t.put (b.again.outAt c), .running) := by
  subst hc
  obtain ⟨f, hf, hframe⟩ := record_of_items hframes hu.items hu.current
  refine .of_running (hu.put (b.item_again) (b.again.awaiting_outAt c) hr)
    (ho.put (b.again.awaiting_outAt c)) ?_
  rw [List.filterMap_append, written_resending hf]
  exact hw.again hframe c

theorem answer (ha : Answer c t b r more u step) (hc : c.settings = s) :
    Placed s chunks frames (acts ++ more) (u, step) := by
  have h : Placed s chunks frames acts (t, .running) := .of_running hu ho hw
  subst hc
  cases ha with
  | stopped | exhausted | aborted | unknown => exact h.ended rfl Step.noConfusion
  | @advanced next hv hs hb hn =>
    obtain ⟨f, hf, hframe⟩ := record_of_items hframes hu.items hn
    refine .of_running (hu.advance .received hn (next.item_outAt c) (next.awaiting_outAt c) rfl)
      (ho.advance hn (next.awaiting_outAt c)) ?_
    have hwritten : (acts ++ .report (.flashBlockComplete b.report) :: next.transmission).filterMap
        Action.written? = acts.filterMap Action.written? ++ [f.bytes] := by
      rw [← Block.written_transmission hf]
      exact List.filterMap_append
    rw [hwritten]
    exact hw.advance hu.retries hframe (hu.ahead _ next (Nat.lt_succ_self _) hn) c
  | resent hv hr => exact resend hframes hu ho hw rfl hr

theorem lapse (hl : Lapse c t b more u step) (hc : c.settings = s) :
    Placed s chunks frames (acts ++ more) (u, step) := by
  have h : Placed s chunks frames acts (t, .running) := .of_running hu ho hw
  subst hc
  cases hl with
  | early => rwa [List.append_nil]
  | nudged hd hs =>
    refine .of_running (hu.put (b.item_nudgedAt c) (b.awaiting_nudgedAt c) hu.retries)
      (ho.put (b.awaiting_nudgedAt c)) ?_
    rw [List.filterMap_append]
    exact hw.nudged hs c
  | resent hd hs hr => exact resend hframes hu ho hw rfl hr
  | givenUp => exact h.ended rfl Step.noConfusion

omit hu ho hw

/-- One input more is taken. -/
theorem take {p : Transfer × Step} (h : Placed s chunks frames acts p) (i : Input) :
    ∃ more q, (Transfer.take s p i).Comes ⟨s, i.now⟩ more q ∧
      Placed s chunks frames (acts ++ more) q := by
  obtain ⟨t, step⟩ := p
  by_cases hrunning : step = .running
  · subst hrunning
    obtain ⟨b, hu, ho, hw⟩ := h.running rfl
    obtain ⟨more, u, step, hturn, htaken⟩ := take_comes hu i
    refine ⟨more, _, hturn, ?_⟩
    cases htaken with
    | ignored => rwa [List.append_nil]
    | answered _ _ ha => exact answer hframes hu ho hw ha rfl
    | lapsed hl => exact lapse hframes hu ho hw hl rfl
  · refine ⟨[], (t, step), ?_, by rwa [List.append_nil]⟩
    rw [take_of_ended hrunning]
    exact .pure _

end Placed

/-- Where a run stands in the end, and what it did; if it stops on a fault, it did no
more than that. -/
theorem history_placed {s : Settings} {chunks : List Bytes} {frames : List Frame}
    (hchunks : Chunks chunks)
    (hframes : (ofChunks chunks).blocks.map Block.record = frames.map .ok) (now : Nat)
    (inputs : List Input) :
    ∃ acts p, ((ofChunks chunks).history s now inputs).Runs
      (Context.Fits ⟨s, now⟩ ∧ ∀ i ∈ inputs, Context.Fits ⟨s, i.now⟩) acts p ∧
      Placed s chunks frames acts p := by
  obtain ⟨b, hb, hu⟩ := underway_start ⟨s, now⟩ hchunks.placed
  have hin : (b.outAt ⟨s, now⟩).content.StandsIn chunks.flatten := hu.standsIn hu.current
  obtain ⟨f, hf, hframe⟩ := record_of_items hframes (items_ofChunks chunks) hb
  refine Runs.foldlM (fun i h => h.take hframes i) (start_comes ⟨s, now⟩ hb hin).runs ?_ inputs
  refine .of_running hu (.start hb (b.awaiting_outAt _)) ?_
  rw [List.filterMap_cons, b.written_transmission hf]
  exact .start hframe (retries_ofChunks (List.mem_of_getElem? hb)) _

/-! ## The whole transfer -/

/-- The frame acknowledges the block with this number. -/
def Acknowledges (f : Frame) (n : UInt16) : Prop :=
  ∃ r, Reply.parse? f = some r ∧ r.verdict = .accepted ∧ r.sequence = n

/-- A transfer that runs goes on to the next block for an acknowledgement of the current
one, and for nothing else. -/
theorem Taken.current_cases {s : Settings} {t u : Transfer} {b : Block} {i : Input}
    {acts : List Action} {step : Step} (h : Taken s t b i acts u step) :
    u.current = t.current ∨ u.current = t.current + 1 ∧
      ∃ time f, i = .frame time f ∧ Acknowledges f b.sequence := by
  cases h with
  | ignored => exact .inl rfl
  | answered hi hr ha =>
    rcases ha.current_cases with hsame | ⟨hnext, hv, hb⟩
    · exact .inl hsame
    · exact .inr ⟨hnext, _, _, hi, _, hr, hv, hb⟩
  | lapsed hl => exact .inl hl.current_eq

/-- How a transfer that was made as `t` stands after `inputs`, if it runs as `u`. -/
structure Steady (s : Settings) (now : Nat) (inputs : List Input) (frames : List Frame)
    (t u : Transfer) : Prop where
  /-- The blocks have kept their data and their numbers. -/
  items : u.blocks.map Block.item = t.blocks.map Block.item
  inOrder : u.InOrder
  /-- The attempts at each record up to the current one, in order, were written. -/
  written : ∃ groups,
    List.Forall₂ (Tries s.retries) ((frames.map Frame.bytes).take (u.current + 1)) groups ∧
    (t.history s now inputs).actions.filterMap Action.written? = groups.flatten
  /-- The cursor only moves to the next block, for an acknowledgement of this one. -/
  moves : ∀ (i : Input) (v : Transfer) (step : Step),
    (t.history s now (inputs ++ [i])).result = .ok (v, step) →
    v.current = u.current ∨ v.current = u.current + 1 ∧
      ∃ time f b, i = .frame time f ∧ u.blocks[u.current]? = some b ∧ Acknowledges f b.sequence
  /-- An acknowledgement of another block is not for the transfer, and nothing comes of
  it. -/
  ignores : ∀ (time : Nat) (f : Frame) (b : Block) (n : UInt16),
    u.blocks[u.current]? = some b → Acknowledges f n → n ≠ b.sequence → n ≠ stopSequence →
    u.receive ⟨s, time⟩ f = none ∧
      t.history s now (inputs ++ [.frame time f]) = t.history s now inputs

/-- **The cursor and the ceilings of a transfer into flash.** Take data that a session
stores in flash, and frames and ticks in any order. Every block has a record, and each
record, that of the stop included, is written at most `retries + 1` times in the whole
run, however it ends, by lapses and on request together, and with at most one nudge
behind each time. After each input that the transfer runs on, the blocks before the
current one are received, it is on its way itself, those behind it have not been sent;
and the next input takes the cursor nowhere but to the next block, for an
acknowledgement of this one. An acknowledgement of another block changes nothing. -/
theorem history_cursor {data : Bytes} {s : Settings} {t : Transfer} {now : Nat}
    {inputs : List Input} (ht : Job.toFlash data = .ok (.flash t)) :
    ∃ frames : List Frame, t.blocks.map (Block.frame t.data) = frames.map .ok ∧
      (∀ f ∈ frames, ((t.history s now inputs).actions.filterMap Action.written?).count f.bytes ≤
        s.retries + 1) ∧
      (∃ n groups, List.Forall₂ (Tries s.retries) ((frames.map Frame.bytes).take n) groups ∧
        (t.history s now inputs).actions.filterMap Action.written? <+: groups.flatten) ∧
      (∀ u, (t.history s now inputs).result = .ok (u, .running) →
        Steady s now inputs frames t u) ∧
      (Context.Fits ⟨s, now⟩ → (∀ i ∈ inputs, Context.Fits ⟨s, i.now⟩) →
        ∃ p, (t.history s now inputs).result = .ok p) := by
  obtain ⟨records, -, hlen, hjob⟩ := toFlash_eq_ok ht
  have hmade : t = ofChunks (chunksOf records) := Job.flash.inj hjob
  have hchunks := Chunks.of_length_le hlen
  generalize chunksOf records = chunks at hmade hchunks
  subst hmade
  obtain ⟨frames, hframes, hnodup⟩ := exists_records hchunks
  obtain ⟨acts, p, hruns, hplaced⟩ := history_placed (s := s) hchunks hframes now inputs
  obtain ⟨groups, hgroups, hwritten⟩ := hplaced.groups
  have hpart : ((ofChunks chunks).history s now inputs).actions.filterMap Action.written? <+:
      groups.flatten := by
    rw [← hwritten]
    exact hruns.actions_isPrefix.filterMap _
  refine ⟨frames, frames_of_records hchunks hframes, fun f _ => ?_, ⟨_, groups, hgroups, hpart⟩,
    fun u hu => ?_, ?_⟩
  · refine Nat.le_trans (hpart.sublist.count_le _) ?_
    exact Tries.count_flatten_le hgroups (hnodup.sublist (List.take_sublist _ _))
      (bytes_ne_nudge f)
  · obtain ⟨hrun, rfl⟩ := hruns.eq_of_ok hu
    obtain ⟨b, hunder, horder, -⟩ := hplaced.running rfl
    have hnext : ∀ i, (ofChunks chunks).history s now (inputs ++ [i]) =
        (⟨acts, .ok (u, .running)⟩ : Turn _) >>= fun p => take s p i := by
      intro i
      rw [history_concat, hrun]
    refine ⟨?_, horder, ⟨groups, hgroups, by rw [hrun, hwritten]⟩, ?_, ?_⟩
    · rw [hunder.items, items_ofChunks]
    · intro i v step hv
      obtain ⟨more, v', step', hturn, htaken⟩ := take_comes hunder i
      rw [hnext, bind_ok] at hv
      cases hturn.eq_result hv
      rcases htaken.current_cases with hsame | ⟨hmoved, time, f, hi, hack⟩
      · exact .inl hsame
      · exact .inr ⟨hmoved, time, f, b, hi, hunder.current, hack⟩
    · intro time f b' n hb ⟨r, hr, hv, hn⟩ hne hstop
      subst hn
      have hnone : u.receive ⟨s, time⟩ f = none := receive_eq_none hb hr hv hstop hne
      refine ⟨hnone, ?_⟩
      rw [hnext, hrun, bind_ok]
      simp [take, hnone, pure_def]
  · intro hnow hin
    exact ⟨p, by rw [hruns.eq ⟨hnow, hin⟩]⟩

/-- With the second block on its way, an acknowledgement of an eighth comes to nothing. -/
theorem history_cursor_orbit :
    let inputs := orbitInputs.take 3
    Job.toFlash orbitData = .ok (.flash orbitTransfer) ∧
      ∃ (frames : List Frame) (u : Transfer),
        (orbitTransfer.history pairSettings 0 inputs).result = .ok (u, .running) ∧
        u.current = 1 ∧ Steady pairSettings 0 inputs frames orbitTransfer u ∧
        u.receive ⟨pairSettings, 260⟩ (stored 7 0) = none := by
  intro inputs
  obtain ⟨frames, -, -, -, hsteady, htotal⟩ :=
    @history_cursor orbitData pairSettings orbitTransfer 0 inputs toFlash_orbit
  obtain ⟨⟨u, step⟩, hu⟩ := htotal (by decide) (by decide)
  have hend : (orbitTransfer.history pairSettings 0 inputs).result.toOption.map (fun p =>
      (p.2, p.1.current, p.1.blocks[p.1.current]?.map (·.sequence))) =
      some (.running, 1, some 1) := by decide +kernel
  rw [hu] at hend
  obtain ⟨hrun, hcurrent, hsequence⟩ :
      step = .running ∧ u.current = 1 ∧ u.blocks[u.current]?.map (·.sequence) = some 1 := by
    simpa [Except.toOption] using hend
  subst hrun
  obtain ⟨b, hb, hone⟩ := Option.map_eq_some_iff.1 hsequence
  have hother : Acknowledges (stored 7 0) 7 := ⟨⟨0, 7⟩, by decide, rfl, rfl⟩
  have hne : (7 : UInt16) ≠ b.sequence := by
    rw [hone]
    decide
  have h := hsteady u hu
  exact ⟨toFlash_orbit, frames, u, hu, hcurrent, h,
    (h.ignores 260 (stored 7 0) b 7 hb hother hne (by decide)).1⟩

end Transfer

end GnssAiding.Flash
