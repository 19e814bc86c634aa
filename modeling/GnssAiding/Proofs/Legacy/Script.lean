/-
What the transfer of a legacy file writes.

Each phase leaves its writes behind those of the phase before: stop messages, the
attempts at the blocks one after another, stop messages again. `Stage` says how far a
transfer has come with that, and every answer and every lapse that it runs on keeps it
(`Answer.stage`, `Lapse.stage`). At any time what was written is the beginning of a
`Script`, and when the transfer waits to be closed it is a whole one.
-/
import GnssAiding.Proofs.Flash.Tries
import GnssAiding.Proofs.Legacy.Link

namespace GnssAiding.Legacy.Push

open Flash (Block Tries Reached)

/-! ## The frames of the blocks -/

/-- The frames carry the blocks of the file: full ones, and a last one that may be
shorter. -/
structure CutInto (file : Bytes) (frames : List Frame) : Prop where
  built : ∀ f ∈ frames, Frame.build MessageClass.aid AidId.alp f.payload = .ok f
  file : (frames.map Frame.payload).flatten = file
  full : ∀ f ∈ frames.dropLast, f.payload.length = 512
  small : ∀ f ∈ frames, f.payload ≠ [] ∧ f.payload.length ≤ 512

theorem exists_frames (file : Bytes) :
    ∃ frames : List Frame, frames.map Frame.payload = Flash.chunksOf file ∧
      CutInto file frames := by
  have hbuild : ∀ chunks : List Bytes, (∀ chunk ∈ chunks, chunk.length ≤ 512) →
      ∃ frames : List Frame, frames.map Frame.payload = chunks ∧
        ∀ f ∈ frames, Frame.build MessageClass.aid AidId.alp f.payload = .ok f := by
    intro chunks hsmall
    induction chunks with
    | nil => exact ⟨[], rfl, List.forall_mem_nil _⟩
    | cons chunk chunks ih =>
      rw [List.forall_mem_cons] at hsmall
      obtain ⟨frames, rfl, hbuilt⟩ := ih hsmall.2
      have hfits : chunk.length < 65536 := by omega
      refine ⟨.sealed MessageClass.aid AidId.alp chunk hfits :: frames, rfl, ?_⟩
      rw [List.forall_mem_cons]
      exact ⟨dif_pos hfits, hbuilt⟩
  have hsmall : ∀ chunk ∈ Flash.chunksOf file, chunk.length ≤ 512 :=
    fun chunk hchunk => Bytes.length_le_of_mem_pieces Flash.blockSize_pos hchunk
  obtain ⟨frames, hframes, hbuilt⟩ := hbuild _ hsmall
  have hpayload : ∀ f ∈ frames, f.payload ∈ Flash.chunksOf file := by
    intro f hf
    rw [← hframes]
    exact List.mem_map_of_mem hf
  refine ⟨frames, hframes, hbuilt, ?_, fun f hf => ?_, fun f hf => ⟨?_, hsmall _ (hpayload f hf)⟩⟩
  · rw [hframes, Flash.chunksOf, Bytes.flatten_pieces]
  · have hmem : f.payload ∈ (Flash.chunksOf file).dropLast := by
      rw [← hframes, ← List.map_dropLast]
      exact List.mem_map_of_mem hf
    exact Bytes.length_of_mem_dropLast_pieces _ hmem
  · exact Bytes.ne_nil_of_mem_pieces Flash.blockSize_pos (hpayload f hf)

/-- The frame of a block is that of the chunk of the file. -/
theorem frame_of_items {file : Bytes} {frames : List Frame} {p : Push} {i : Nat} {b : Block}
    (hframes : frames.map Frame.payload = Flash.chunksOf file)
    (hbuilt : ∀ f ∈ frames, Frame.build MessageClass.aid AidId.alp f.payload = .ok f)
    (hitems : p.blocks.map Block.item = (Block.cut file).map Block.item)
    (hb : p.blocks[i]? = some b) :
    ∃ f, Frame.build MessageClass.aid AidId.alp b.bytes = .ok f ∧
      (frames.map Frame.bytes)[i]? = some f.bytes := by
  obtain ⟨chunk, hchunk, hcontent⟩ := Link.item_cut_eq_some (Block.getElem?_items hitems hb)
  rw [← hframes, List.getElem?_map, Option.map_eq_some_iff] at hchunk
  obtain ⟨f, hf, hpayload⟩ := hchunk
  refine ⟨f, ?_, ?_⟩
  · rw [Block.bytes_of_content hcontent, ← hpayload]
    exact hbuilt f (List.mem_of_getElem? hf)
  · rw [List.getElem?_map, hf]
    rfl

/-- Sending a block writes its frame and nothing else. -/
theorem written_transmission {b : Block} {f : Frame}
    (h : Frame.build MessageClass.aid AidId.alp b.bytes = .ok f) :
    (transmission b).filterMap Action.written? = [f.bytes] := by
  unfold transmission
  rw [h]
  rfl

/-! ## What is written -/

/-- What a whole transfer writes: the stop message once and at most `limit` times again,
the attempts at each block, and the stop message as often as at first. -/
def Script (limit : Nat) (frames writes : List Bytes) : Prop :=
  ∃ resets groups closes, resets ≤ limit ∧ closes ≤ limit ∧
    List.Forall₂ (Tries limit) frames groups ∧
    writes = List.replicate (resets + 1) stopFrame.bytes ++ groups.flatten ++
      List.replicate (closes + 1) stopFrame.bytes

/-- How a transfer stands that runs, and what it has written, in each phase. -/
inductive Stage (limit : Nat) (frames : List Bytes) (p : Push) : List Bytes → Prop
  | resetting {b} (hp : p.phase = .starting) (hr : p.retries ≤ limit) (hi : p.current = 0)
    (hb : p.blocks[p.current]? = some b) (hfresh : ∀ b ∈ p.blocks, b.retries = 0) :
    Stage limit frames p (List.replicate (p.retries + 1) stopFrame.bytes)
  | sending {resets b body} (hp : p.phase = .mainSequence) (hresets : resets ≤ limit)
    (out : Block.Out limit p.blocks p.current b) (hw : Reached limit frames p.current b body) :
    Stage limit frames p (List.replicate (resets + 1) stopFrame.bytes ++ body)
  | closing {resets groups} (hp : p.phase = .stopping) (hr : p.retries ≤ limit)
    (hi : p.current = p.blocks.length) (hresets : resets ≤ limit)
    (hw : List.Forall₂ (Tries limit) frames groups) :
    Stage limit frames p (List.replicate (resets + 1) stopFrame.bytes ++ groups.flatten ++
      List.replicate (p.retries + 1) stopFrame.bytes)

section

variable {s : Settings} {c : Context} {p q : Push} {limit : Nat} {frames ws : List Bytes}
  {more : List Action} {r : Reply}

theorem Stage.waits (h : Stage s.retries frames p ws) : Waits s p := by
  cases h with
  | resetting hp hr hi hb hfresh => exact .starting hp hr hb hfresh
  | sending hp hresets out hw => exact .sending hp out
  | closing hp hr hi hresets hw => exact .stopping hp hr

/-- What was written is the beginning of a script. -/
theorem Stage.part (h : Stage limit frames p ws) : ∃ all, Script limit frames all ∧ ws <+: all := by
  cases h with
  | resetting hp hr hi hb hfresh =>
    refine ⟨_, ⟨p.retries, _, 0, hr, Nat.zero_le _, Tries.once _ frames, rfl⟩, ?_⟩
    rw [List.append_assoc]
    exact List.prefix_append _ _
  | @sending resets b body hp hresets out hw =>
    obtain ⟨groups, hgroups, rfl⟩ := hw.groups out.retries
    have hall : List.Forall₂ (Tries limit)
        (frames.take (p.current + 1) ++ frames.drop (p.current + 1)) (groups ++ _) :=
      List.rel_append hgroups (Tries.once limit _)
    rw [List.take_append_drop] at hall
    -- The script goes on with each frame to come once, and one stop message.
    refine ⟨_, ⟨resets, _, 0, hresets, Nat.zero_le _, hall, rfl⟩, ?_⟩
    rw [List.flatten_append, List.append_assoc, List.append_assoc]
    exact (List.prefix_append_right_inj _).2 (List.prefix_append _ _)
  | closing hp hr hi hresets hw => exact ⟨_, ⟨_, _, _, hresets, hr, hw, rfl⟩, List.prefix_refl _⟩

/-- A transfer that is being closed has written a whole script. -/
theorem Stage.script (h : Stage limit frames p ws) (hp : p.phase = .stopping) :
    Script limit frames ws := by
  cases h with
  | closing _ hr _ hresets hw => exact ⟨_, _, _, hresets, hr, hw, rfl⟩
  | resetting hp' | sending hp' =>
    rw [hp] at hp'
    cases hp'

/-- The current block is one of those there are, and behind them the transfer is closed. -/
theorem Stage.current_lt (h : Stage limit frames p ws) (hp : p.phase = .mainSequence) :
    p.current < p.blocks.length := by
  cases h with
  | sending _ _ out _ => exact out.lt
  | resetting hp' | closing hp' =>
    rw [hp] at hp'
    cases hp'

theorem Stage.current_of_stopping (h : Stage limit frames p ws) (hp : p.phase = .stopping) :
    p.current = p.blocks.length := by
  cases h with
  | closing _ _ hi _ _ => exact hi
  | resetting hp' | sending hp' =>
    rw [hp] at hp'
    cases hp'

/-- Each block has its frame. -/
structure Framed (frames : List Bytes) (p : Push) : Prop where
  length : frames.length = p.blocks.length
  frame : ∀ (i : Nat) (b : Block), p.blocks[i]? = some b →
    ∃ f, Frame.build MessageClass.aid AidId.alp b.bytes = .ok f ∧ frames[i]? = some f.bytes

theorem Answer.stage (ha : Answer c p r more q .running) (hf : Framed frames p)
    (h : Stage c.settings.retries frames p ws) :
    Stage c.settings.retries frames q (ws ++ more.filterMap Action.written?) := by
  -- The stage tells the phase, and the phase which answers there are.
  cases h with
  | resetting hp hr hi hb hfresh =>
    cases ha with
    | @begun b _ hb =>
      obtain ⟨f, hbuild, hframe⟩ := hf.frame _ b hb
      have hretries := hfresh b (List.mem_of_getElem? hb)
      have hreached : Reached c.settings.retries frames p.current (b.outAt c) [f.bytes] := by
        rw [hi] at hframe ⊢
        exact .start hframe hretries c
      rw [List.filterMap_cons, written_transmission hbuild]
      exact .sending rfl hr (.start hb rfl rfl hfresh) hreached
    | advanced hp' | closing hp' | resent hp' =>
      rw [hp] at hp'
      cases hp'
  | @sending resets b body hp hresets out hw =>
    cases ha with
    | begun hp' =>
      rw [hp] at hp'
      cases hp'
    | @advanced b' next _ _ hb hn =>
      cases out.current.symm.trans hb
      obtain ⟨f, hbuild, hframe⟩ := hf.frame _ next hn
      have hretries := out.ahead _ next (Nat.lt_succ_self _) hn
      rw [List.filterMap_cons, written_transmission hbuild, List.append_assoc]
      exact .sending hp hresets (out.advance (b.ended .received) hn (next.awaiting_outAt c) rfl)
        (hw.advance out.retries hframe hretries c)
    | closing _ _ _ hl =>
      obtain ⟨groups, hgroups, rfl⟩ := hw.groups out.retries
      have hlast : p.current + 1 = p.blocks.length := Nat.le_antisymm out.lt hl
      rw [hlast, ← hf.length, List.take_length] at hgroups
      refine .closing rfl (Nat.zero_le _) ?_ hresets hgroups
      simp [stopSent, entering, put, hlast]
    | @resent b' _ _ hb hr =>
      cases out.current.symm.trans hb
      obtain ⟨f, hbuild, hframe⟩ := hf.frame _ b hb
      rw [List.filterMap_cons, written_transmission (b := b.again) hbuild, List.append_assoc]
      exact .sending hp hresets (out.put (b.again.awaiting_outAt c) hr) (hw.again hframe c)
  | closing hp =>
    cases ha with
    | begun hp' | advanced hp' | closing hp' | resent hp' =>
      rw [hp] at hp'
      cases hp'

theorem Lapse.stage (hl : Lapse c p more q .running) (hf : Framed frames p)
    (h : Stage c.settings.retries frames p ws) :
    Stage c.settings.retries frames q (ws ++ more.filterMap Action.written?) := by
  cases hl with
  | stopEarly | early =>
    rw [List.filterMap_nil, List.append_nil]
    exact h
  | @stopAgain failed hp hd hr =>
    have hwritten : [Action.write stopFrame.bytes].filterMap Action.written? =
        [stopFrame.bytes] := rfl
    rw [hwritten]
    cases h with
    | resetting hp' _ hi hb hfresh =>
      rw [← List.replicate_succ']
      exact .resetting (p := stopSent c { p with retries := p.retries + 1 }) hp' hr hi hb hfresh
    | closing hp' _ hi hresets hw =>
      rw [List.append_assoc, ← List.replicate_succ']
      exact .closing (p := stopSent c { p with retries := p.retries + 1 }) hp' hr hi hresets hw
    | sending hp' =>
      rw [hp'] at hp
      cases hp
  | @nudged b hp hb hd hs =>
    cases h with
    | sending _ hresets out hw =>
      cases out.current.symm.trans hb
      rw [List.append_assoc]
      exact .sending hp hresets (out.put (b.awaiting_nudgedAt c) out.retries) (hw.nudged hs c)
    | resetting hp' | closing hp' =>
      rw [hp] at hp'
      cases hp'
  | @resent b hp hb hd hs hr =>
    cases h with
    | sending _ hresets out hw =>
      cases out.current.symm.trans hb
      obtain ⟨f, hbuild, hframe⟩ := hf.frame _ b hb
      rw [written_transmission (b := b.again) hbuild, List.append_assoc]
      exact .sending hp hresets (out.put (b.again.awaiting_outAt c) hr) (hw.again hframe c)
    | resetting hp' | closing hp' =>
      rw [hp] at hp'
      cases hp'

end

end GnssAiding.Legacy.Push
