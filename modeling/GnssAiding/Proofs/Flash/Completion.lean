/-
A transfer into flash that ends well has stored everything.

What goes out in a run is told by `Sent`: the records of the chunks up to the
current one, each under its own number, and a stop message only behind the last
one. A run that goes on to the next block does so for an acknowledgement of the
one before (`AckedAt`). The receiver may acknowledge a stop at any time, which
ends the transfer; if it does so only after a stop was written, the end comes
behind the last block (`history_stored`).
-/
import GnssAiding.Proofs.Flash.Move
import GnssAiding.Proofs.Transfer.History
import Mathlib.Data.List.Induction
import Mathlib.Data.List.Nodup

namespace GnssAiding.Flash.Transfer

open Turn
open GnssAiding.Transfer (Input pairSettings)

/-- Takes an input; a transfer that has ended takes none. -/
def take (s : Settings) (p : Transfer × Step) (i : Input) : Turn (Transfer × Step) :=
  if p.2 = .running then
    match i with
    | .frame now f => (p.1.receive ⟨s, now⟩ f).getD (pure p)
    | .tick now => p.1.checkTimeouts ⟨s, now⟩
  else pure p

/-- Begins at the clock reading `now` and takes inputs one after another. -/
def history (s : Settings) (now : Nat) (inputs : List Input) (t : Transfer) :
    Turn (Transfer × Step) := do
  let p ← t.start ⟨s, now⟩
  inputs.foldlM (take s) p

theorem history_concat (s : Settings) (now : Nat) (inputs : List Input) (i : Input)
    (t : Transfer) :
    t.history s now (inputs ++ [i]) = t.history s now inputs >>= fun p => take s p i := by
  simp only [history, List.foldlM_append, List.foldlM_cons, List.foldlM_nil, bind_assoc, bind_pure]

/-! ## What has gone out -/

/-- What has been written when the first `n` blocks were sent. -/
structure Sent (chunks : List Bytes) (acts : List Action) (n : Nat) : Prop where
  /-- The chunks up to there. -/
  written : ∀ (j : Nat) (chunk : Bytes), j < n → chunks[j]? = some chunk →
    (UInt16.ofNat j, chunk) ∈ sections acts
  /-- No data but chunks, each under its own number. -/
  only : ∀ e ∈ sections acts, ∃ j, chunks[j]? = some e.2 ∧ e.1 = UInt16.ofNat j
  /-- A stop message only behind the last chunk. -/
  stop : .write stopFrame.bytes ∈ acts → n = chunks.length + 1

namespace Sent

variable {chunks : List Bytes} {acts more : List Action} {n : Nat}

theorem nil : Sent chunks [] 0 where
  written := fun j _ hj => absurd hj (Nat.not_lt_zero j)
  only := List.forall_mem_nil _
  stop := fun h => absurd h List.not_mem_nil

/-- What is neither a record nor a stop message does not count. -/
theorem quiet (h : Sent chunks acts n) (hs : sections more = [])
    (hw : .write stopFrame.bytes ∉ more) : Sent chunks (acts ++ more) n where
  written := by
    rw [sections_append, hs, List.append_nil]
    exact h.written
  only := by
    rw [sections_append, hs, List.append_nil]
    exact h.only
  stop := by
    intro hmem
    rcases List.mem_append.1 hmem with hmem | hmem
    · exact h.stop hmem
    · exact absurd hmem hw

theorem transmit_data {b : Block} {e : Event} {k : Nat} {chunk : Bytes}
    (h : Sent chunks acts n) (hc : Chunks chunks) (hk : k + 1 = n ∨ k = n)
    (hchunk : chunks[k]? = some chunk) (hcontent : b.content = .data (k * blockSize) chunk)
    (hsequence : b.sequence = UInt16.ofNat k) :
    Sent chunks (acts ++ .report e :: b.transmission) (k + 1) := by
  have hsmall := hc.small chunk (List.mem_of_getElem? hchunk)
  have hsections := Block.sections_transmission_data hcontent hsmall
  have hmore : sections (acts ++ .report e :: b.transmission) =
      sections acts ++ [(UInt16.ofNat k, chunk)] := by
    rw [← hsequence, ← hsections]
    exact sections_append _ _
  refine ⟨?_, ?_, ?_⟩
  · intro j chunk' hj hchunk'
    rw [hmore, List.mem_append]
    by_cases hjk : j = k
    · subst hjk
      rw [hchunk] at hchunk'
      cases hchunk'
      exact .inr (List.mem_singleton.2 rfl)
    · exact .inl (h.written j chunk' (by omega) hchunk')
  · intro e he
    rw [hmore, List.mem_append] at he
    rcases he with he | he
    · exact h.only e he
    · rw [List.mem_singleton.1 he]
      exact ⟨k, hchunk, rfl⟩
  · intro hmem
    have hlt := (List.getElem?_eq_some_iff.1 hchunk).1
    rcases List.mem_append.1 hmem with hmem | hmem
    · have hlast := h.stop hmem
      omega
    · have hbytes : b.bytes.length ≤ blockSize := by
        rwa [Block.bytes_of_content hcontent]
      have hstop := Block.stop_of_mem_transmission hbytes (by simpa using hmem)
      cases hcontent.symm.trans hstop

theorem transmit_stop {b : Block} {e : Event} (h : Sent chunks acts n)
    (hn : chunks.length + 1 = n ∨ chunks.length = n) (hcontent : b.content = .stop) :
    Sent chunks (acts ++ .report e :: b.transmission) (chunks.length + 1) := by
  have hmore : sections (acts ++ .report e :: b.transmission) = sections acts := by
    rw [← List.append_nil (sections acts), ← Block.sections_transmission_stop hcontent]
    exact sections_append _ _
  refine ⟨?_, ?_, fun _ => rfl⟩
  · intro j chunk hj hchunk
    have hlt := (List.getElem?_eq_some_iff.1 hchunk).1
    rw [hmore]
    exact h.written j chunk (by omega) hchunk
  · rw [hmore]
    exact h.only

/-- The next block is sent, or the last one once more. -/
theorem transmit {b : Block} {e : Event} {k : Nat} (h : Sent chunks acts n)
    (hc : Chunks chunks) (hk : k + 1 = n ∨ k = n) (hb : (items chunks)[k]? = some b.item) :
    Sent chunks (acts ++ .report e :: b.transmission) (k + 1) := by
  rcases items_getElem?_eq_some_iff.1 hb with ⟨chunk, hchunk, hitem⟩ | ⟨rfl, hitem⟩
  · exact h.transmit_data hc hk hchunk (congrArg Prod.fst hitem) (congrArg Prod.snd hitem)
  · exact h.transmit_stop hk (congrArg Prod.fst hitem)

end Sent

/-! ## What was acknowledged -/

/-- The input at `place` acknowledges the block at `i`, whose number is
`sequence`, while it is the current one. -/
def AckedAt (s : Settings) (now : Nat) (inputs : List Input) (t : Transfer) (i : Nat)
    (sequence : UInt16) (place : Nat) : Prop :=
  ∃ time f r v, inputs[place]? = some (.frame time f) ∧ Reply.parse? f = some r ∧
    r.verdict = .accepted ∧ r.sequence = sequence ∧
    (t.history s now (inputs.take place)).result = .ok (v, .running) ∧ v.current = i

/-- The first `n` blocks were acknowledged, in order. -/
def Acked (s : Settings) (now : Nat) (inputs : List Input) (t : Transfer) (n : Nat) : Prop :=
  ∃ places : List Nat, places.length = n ∧ places.Pairwise (· < ·) ∧
    ∀ (i place : Nat), places[i]? = some place →
      AckedAt s now inputs t i (UInt16.ofNat i) place

/-- No stop is acknowledged before a stop was written. -/
def StopsInTurn (s : Settings) (now : Nat) (inputs : List Input) (t : Transfer) : Prop :=
  ∀ (place time : Nat) (f : Frame) (r : Reply), inputs[place]? = some (.frame time f) →
    Reply.parse? f = some r → r.verdict = .accepted → r.sequence = stopSequence →
    .write stopFrame.bytes ∈ (t.history s now (inputs.take place)).actions

section

variable {s : Settings} {now : Nat} {inputs : List Input} {t : Transfer}

theorem AckedAt.append {i place : Nat} {sequence : UInt16}
    (h : AckedAt s now inputs t i sequence place) (more : List Input) :
    place < inputs.length ∧ AckedAt s now (inputs ++ more) t i sequence place := by
  obtain ⟨time, f, r, v, hin, hr, hv, hs, hrun, hcurrent⟩ := h
  have hlt := (List.getElem?_eq_some_iff.1 hin).1
  refine ⟨hlt, time, f, r, v, ?_, hr, hv, hs, ?_, hcurrent⟩
  · rw [List.getElem?_append_left hlt, hin]
  · rw [List.take_append_of_le_length (Nat.le_of_lt hlt), hrun]

theorem Acked.append {n : Nat} (h : Acked s now inputs t n) (more : List Input) :
    Acked s now (inputs ++ more) t n :=
  Places.mono (P := fun i => AckedAt s now inputs t i (UInt16.ofNat i)) h
    fun _ _ hp => (hp.append more).2

/-- One more block is acknowledged, by the last input. -/
theorem Acked.concat {n : Nat} {i : Input} (h : Acked s now inputs t n)
    (hi : AckedAt s now (inputs ++ [i]) t n (UInt16.ofNat n) inputs.length) :
    Acked s now (inputs ++ [i]) t (n + 1) :=
  Places.concat (P := fun i => AckedAt s now inputs t i (UInt16.ofNat i)) h
    (fun _ _ hp => hp.append [i]) hi

theorem StopsInTurn.of_concat {i : Input} (h : StopsInTurn s now (inputs ++ [i]) t) :
    StopsInTurn s now inputs t := by
  intro place time f r hin hr hv hs
  have hlt := (List.getElem?_eq_some_iff.1 hin).1
  have hstop := h place time f r (by rw [List.getElem?_append_left hlt, hin]) hr hv hs
  rwa [List.take_append_of_le_length (Nat.le_of_lt hlt)] at hstop

end

/-! ## A run -/

/-- How far a run has come that has done `acts` and stands at `p`. -/
structure Standing (s : Settings) (now : Nat) (inputs : List Input) (chunks : List Bytes)
    (acts : List Action) (p : Transfer × Step) : Prop where
  acked : Acked s now inputs (ofChunks chunks) p.1.current
  sent : Sent chunks acts (p.1.current + 1)
  running : p.2 = .running → ∃ b, Underway s chunks p.1 b
  finished : p.2 = .finished → p.1.current = chunks.length

namespace Standing

variable {s : Settings} {now : Nat} {inputs : List Input} {chunks : List Bytes}
  {acts more : List Action} {t u : Transfer} {step : Step} {b : Block} {i : Input}

/-- An input that leaves the transfer at the same block. -/
theorem stay {p q : Transfer × Step} (h : Standing s now inputs chunks acts p)
    (hcurrent : q.1.current = p.1.current) (hsent : Sent chunks (acts ++ more) (p.1.current + 1))
    (running : q.2 = .running → ∃ b, Underway s chunks q.1 b)
    (finished : q.2 = .finished → q.1.current = chunks.length) :
    Standing s now (inputs ++ [i]) chunks (acts ++ more) q where
  acked := hcurrent ▸ h.acked.append [i]
  sent := hcurrent ▸ hsent
  running := running
  finished := finished

variable {c : Context} (hchunks : Chunks chunks)
  (h : Standing s now inputs chunks acts (t, .running)) (ht : Underway c.settings chunks t b)

include hchunks h ht

/-- The current block is sent once more. -/
theorem resend : Sent chunks (acts ++ resending b) (t.current + 1) :=
  h.sent.transmit hchunks (.inl rfl) (b.item_again ▸ ht.item_eq)

/-- The transfer goes on with an answer, or ends by it. -/
theorem answer {r : Reply} (ha : Answer c t b r more u step)
    (hstop : r.verdict = .accepted → r.sequence = stopSequence → .write stopFrame.bytes ∈ acts)
    (hacked : r.verdict = .accepted → r.sequence = b.sequence →
      AckedAt s now (inputs ++ [i]) (ofChunks chunks) t.current b.sequence inputs.length)
    (hs : c.settings = s) :
    Standing s now (inputs ++ [i]) chunks (acts ++ more) (u, step) := by
  have quiet : Sent chunks (acts ++ []) (t.current + 1) := h.sent.quiet rfl List.not_mem_nil
  subst hs
  cases ha with
  | stopped hv hs =>
    exact h.stay rfl quiet (by simp) fun _ => Nat.succ.inj (h.sent.stop (hstop hv hs))
  | advanced hv hs hb hn =>
    have hdata : b.sequence = UInt16.ofNat t.current := by
      rcases ht.current_cases with ⟨chunk, -, -, hsequence⟩ | ⟨-, -, hsequence⟩
      · exact hsequence
      · exact absurd (hb.trans hsequence) hs
    have hack := hacked hv hb
    rw [hdata] at hack
    have hnext := (Answer.advanced hv hs hb hn).underway ht
    obtain ⟨b', hb'⟩ := hnext
    refine ⟨h.acked.concat hack, ?_, fun _ => ⟨b', hb'⟩, by simp⟩
    exact h.sent.transmit hchunks (.inr rfl) (Block.getElem?_items ht.items hn)
  | resent hv hr =>
    exact h.stay rfl (h.resend hchunks ht) (fun _ => (Answer.resent hv hr).underway ht) (by simp)
  | exhausted hv hr => exact h.stay rfl quiet (by simp) (by simp)
  | aborted hv => exact h.stay rfl quiet (by simp) (by simp)
  | unknown hv => exact h.stay rfl quiet (by simp) (by simp)

/-- The transfer goes on with a tick, or ends by it. -/
theorem lapse (hl : Lapse c t b more u step) (hs : c.settings = s) :
    Standing s now (inputs ++ [i]) chunks (acts ++ more) (u, step) := by
  have quiet : Sent chunks (acts ++ []) (t.current + 1) := h.sent.quiet rfl List.not_mem_nil
  subst hs
  cases hl with
  | early hd => exact h.stay rfl quiet (fun _ => ⟨b, ht⟩) (by simp)
  | nudged hd hs =>
    have hsent : Sent chunks (acts ++ [.write nudge]) (t.current + 1) :=
      h.sent.quiet (by simp [sections, section?_nudge]) (by decide)
    exact h.stay rfl hsent (fun _ => (Lapse.nudged hd hs).underway ht) (by simp)
  | resent hd hs hr =>
    exact h.stay rfl (h.resend hchunks ht) (fun _ => (Lapse.resent hd hs hr).underway ht)
      (by simp)
  | givenUp hd hs hr => exact h.stay rfl quiet (by simp) (by simp)

end Standing

/-- One input more is taken. -/
theorem Standing.take {s : Settings} {now : Nat} {inputs : List Input} {chunks : List Bytes}
    {acts more : List Action} {p q : Transfer × Step} {i : Input} (hchunks : Chunks chunks)
    (hstop : StopsInTurn s now (inputs ++ [i]) (ofChunks chunks))
    (hrun : (ofChunks chunks).history s now inputs = ⟨acts, .ok p⟩)
    (h : Standing s now inputs chunks acts p) (htake : Transfer.take s p i = ⟨more, .ok q⟩) :
    Standing s now (inputs ++ [i]) chunks (acts ++ more) q := by
  obtain ⟨t, step⟩ := p
  have ended : pure (t, step) = (⟨more, .ok q⟩ : Turn _) →
      Standing s now (inputs ++ [i]) chunks (acts ++ more) q := by
    intro hp
    cases hp
    exact h.stay rfl (h.sent.quiet rfl List.not_mem_nil) h.running h.finished
  unfold Transfer.take at htake
  split at htake
  · next hrunning =>
    dsimp only at hrunning
    subst hrunning
    obtain ⟨b, ht⟩ := h.running rfl
    cases i with
    | frame time f =>
      dsimp only at htake
      cases hr : t.receive ⟨s, time⟩ f with
      | none =>
        rw [hr] at htake
        exact ended htake
      | some turn =>
        obtain ⟨r, acts, u, step, hreply, hturn, hanswer⟩ := receive_comes ht hr
        have hlast : (inputs ++ [Input.frame time f])[inputs.length]? = some (.frame time f) :=
          List.getElem?_concat_length
        have hbefore : (inputs ++ [Input.frame time f]).take inputs.length = inputs :=
          List.take_left
        rw [hr, Option.getD_some] at htake
        rw [hturn.eq_of_ok (by rw [htake])] at htake
        cases htake
        refine h.answer hchunks ht hanswer (fun hv hs => ?_) (fun hv hb => ?_) rfl
        · have := hstop inputs.length time f r hlast hreply hv hs
          rwa [hbefore, hrun] at this
        · refine ⟨time, f, r, t, hlast, hreply, hv, hb, ?_, rfl⟩
          rw [hbefore, hrun]
    | tick time =>
      obtain ⟨acts, u, step, hturn, hlapse⟩ :=
        checkTimeouts_comes ⟨s, time⟩ ht.current ht.awaiting (ht.standsIn ht.current)
      dsimp only at htake
      rw [hturn.eq_of_ok (by rw [htake])] at htake
      cases htake
      exact h.lapse hchunks ht hlapse rfl
  · exact ended htake

/-- Where a run stands, if no stop is acknowledged before one was written. -/
theorem standing_history {s : Settings} {now : Nat} {inputs : List Input} {chunks : List Bytes}
    (hchunks : Chunks chunks) (hstop : StopsInTurn s now inputs (ofChunks chunks))
    {acts : List Action} {p : Transfer × Step}
    (h : (ofChunks chunks).history s now inputs = ⟨acts, .ok p⟩) :
    Standing s now inputs chunks acts p := by
  induction inputs using List.reverseRecOn generalizing acts p with
  | nil =>
    obtain ⟨b, hb, hunder⟩ := underway_start ⟨s, now⟩ hchunks.placed
    have hfirst : (items chunks)[0]? = some b.item :=
      Block.getElem?_items (items_ofChunks chunks) hb
    have hin := hchunks.placed _ (List.mem_of_getElem? hfirst)
    have hstart := start_comes ⟨s, now⟩ hb hin
    simp only [history, List.foldlM_nil, bind_pure] at h
    rw [hstart.eq_of_ok (by rw [h])] at h
    cases h
    exact {
      acked := ⟨[], rfl, .nil, by simp⟩
      sent := Sent.nil.transmit hchunks (.inr rfl) hfirst
      running := fun _ => ⟨_, hunder⟩
      finished := by simp }
  | append_singleton inputs i ih =>
    rw [history_concat] at h
    obtain ⟨acts, q, more, hrun, htake, rfl⟩ := bind_eq_ok h
    exact (ih hstop.of_concat hrun).take hchunks hstop hrun htake

/-! ## The whole transfer -/

/-- What is first written under the number of a chunk is that chunk. -/
theorem Sent.lookup {chunks : List Bytes} {acts : List Action} {n : Nat}
    (h : Sent chunks acts n) (hchunks : Chunks chunks) {j : Nat} {chunk : Bytes} (hj : j < n)
    (hchunk : chunks[j]? = some chunk) :
    (sections acts).lookup (UInt16.ofNat j) = some chunk := by
  have hlt := (List.getElem?_eq_some_iff.1 hchunk).1
  cases hfound : (sections acts).lookup (UInt16.ofNat j) with
  | none =>
    have hnot := List.lookup_eq_none_iff.1 hfound _ (h.written j chunk hj hchunk)
    simp at hnot
  | some chunk' =>
    obtain ⟨before, after, hsplit, -⟩ := List.lookup_eq_some_iff.1 hfound
    have hmem : (UInt16.ofNat j, chunk') ∈ sections acts := by simp [hsplit]
    obtain ⟨k, hk, hnumber⟩ := h.only _ hmem
    have hkj := hchunks.sequence_inj hlt (List.getElem?_eq_some_iff.1 hk).1 hnumber
    rw [← hkj, hchunk] at hk
    exact hk.symm

/-- What has become of the orbit records of `data` in a run that has stored
all of them: the blocks of data, and the chunks that they carried. -/
structure Stored (data : Bytes) (s : Settings) (now : Nat) (inputs : List Input) (t : Transfer)
    (blocks : List Block) (chunks : List Bytes) : Prop where
  parts : t.blocks = blocks ++ [.fresh .stop stopSequence]
  /-- Each block was acknowledged, in order, while it was the current one. -/
  acked : ∃ places : List Nat, places.length = blocks.length ∧ places.Pairwise (· < ·) ∧
    ∀ (i place : Nat) (b : Block), blocks[i]? = some b → places[i]? = some place →
      AckedAt s now inputs t i b.sequence place
  distinct : (blocks.map (·.sequence)).Nodup
  notStop : stopSequence ∉ blocks.map (·.sequence)
  /-- What was first written under the number of each block. -/
  written : blocks.map (fun b =>
    (sections (t.history s now inputs).actions).lookup b.sequence) = chunks.map some
  records : Offline.records data = .ok chunks.flatten
  full : ∀ chunk ∈ chunks.dropLast, chunk.length = 512
  small : ∀ chunk ∈ chunks, chunk.length ≤ 512

/-- **A transfer into flash that ends well has stored everything.** Take data
that a session stores in flash, and frames and ticks in any order of which none
acknowledges a stop before a stop was written. If the transfer finishes, then
every block of data was acknowledged, under numbers that are distinct and none
of them the stop's, and what they carried when first sent are the orbit records
of the data, cut into full blocks and a last one. -/
theorem history_stored {data : Bytes} {s : Settings} {t u : Transfer} {now : Nat}
    {inputs : List Input} (ht : Job.toFlash data = .ok (.flash t))
    (hstop : StopsInTurn s now inputs t)
    (hfin : (t.history s now inputs).result = .ok (u, .finished)) :
    ∃ (blocks : List Block) (chunks : List Bytes), Stored data s now inputs t blocks chunks := by
  obtain ⟨records, hrecords, hlen, hjob⟩ := toFlash_eq_ok ht
  have ht : t = ofChunks (chunksOf records) := Job.flash.inj hjob
  have hchunks := Chunks.of_length_le hlen
  generalize hcut : chunksOf records = chunks at ht hchunks
  subst ht
  have hrun : (ofChunks chunks).history s now inputs =
      ⟨((ofChunks chunks).history s now inputs).actions, .ok (u, .finished)⟩ := by
    rw [← hfin]
  have hstanding := standing_history hchunks hstop hrun
  have hcurrent : u.current = chunks.length := hstanding.finished rfl
  have hblock : ∀ (i : Nat) (b : Block), (dataBlocks chunks)[i]? = some b →
      ∃ chunk, chunks[i]? = some chunk ∧ b.sequence = UInt16.ofNat i := by
    intro i b hb
    rw [dataBlocks, List.getElem?_mapIdx, Option.map_eq_some_iff] at hb
    obtain ⟨chunk, hchunk, rfl⟩ := hb
    exact ⟨chunk, hchunk, rfl⟩
  refine ⟨dataBlocks chunks, chunks, rfl, ?_, ?_, ?_, ?_, ?_, ?_, hchunks.small⟩
  · obtain ⟨places, hlength, hsorted, hacked⟩ := hstanding.acked
    refine ⟨places, by rw [hlength, dataBlocks, List.length_mapIdx]; exact hcurrent, hsorted, ?_⟩
    intro i place b hb hp
    obtain ⟨-, -, hsequence⟩ := hblock i b hb
    exact hsequence ▸ hacked i place hp
  · rw [map_sequence_dataBlocks]
    refine List.nodup_range.map_on fun i hi j hj he => ?_
    exact hchunks.sequence_inj (List.mem_range.1 hi) (List.mem_range.1 hj) he
  · rw [map_sequence_dataBlocks]
    intro hmem
    obtain ⟨i, hi, he⟩ := List.mem_map.1 hmem
    exact hchunks.sequence_ne_stop (List.mem_range.1 hi) he
  · refine List.ext_getElem? fun i => ?_
    rw [List.getElem?_map, List.getElem?_map]
    cases hb : (dataBlocks chunks)[i]? with
    | none =>
      rw [List.getElem?_eq_none_iff, dataBlocks, List.length_mapIdx] at hb
      rw [List.getElem?_eq_none hb]
      rfl
    | some b =>
      obtain ⟨chunk, hchunk, hsequence⟩ := hblock i b hb
      have hlt := (List.getElem?_eq_some_iff.1 hchunk).1
      have hsent : i < u.current + 1 := by omega
      rw [Option.map_some, hsequence, hstanding.sent.lookup hchunks hsent hchunk, hchunk]
      rfl
  · rw [hrecords, ← hcut, chunksOf, Bytes.flatten_pieces]
  · rw [← hcut]
    exact fun chunk hchunk => Bytes.length_of_mem_dropLast_pieces _ hchunk

/-! ## Two blocks -/

/-- An orbit record of 84 bytes. -/
def orbit : Frame :=
  .sealed MessageClass.mga MgaId.ano ([0, 0, 5, 0, 24, 1, 1, 0] ++ List.replicate 68 0) (by simp)

/-- Records that need two blocks. -/
def orbitData : Bytes := (List.replicate 7 orbit).flatMap Frame.bytes

def orbitTransfer : Transfer := ofChunks [orbitData.take 512, orbitData.drop 512]

theorem toFlash_orbit : Job.toFlash orbitData = .ok (.flash orbitTransfer) := by
  have hrecords : Offline.records orbitData = .ok orbitData := by
    have hselect : Offline.records orbitData = .ok (((List.replicate 7 orbit).filter fun f =>
        f.intact && Offline.isRecord f).flatMap Frame.bytes) :=
      Offline.select_eq (Stream.split_flatMap (List.replicate 7 orbit)) (by decide +kernel)
    have hall : (List.replicate 7 orbit).filter (fun f => f.intact && Offline.isRecord f) =
        List.replicate 7 orbit := by decide +kernel
    rw [hall] at hselect
    exact hselect
  have hcut : Bytes.pieces blockSize (by decide) orbitData =
      [orbitData.take 512, orbitData.drop 512] := by
    have h1 : orbitData ≠ [] := by decide +kernel
    have h2 : orbitData.drop blockSize ≠ [] := by decide +kernel
    have h3 : (orbitData.drop blockSize).take blockSize = orbitData.drop 512 := by decide +kernel
    have h4 : (orbitData.drop blockSize).drop blockSize = [] := by decide +kernel
    rw [Bytes.pieces, if_neg h1, Bytes.pieces, if_neg h2, h3, h4, Bytes.pieces, if_pos rfl]
    rfl
  have hsize : ¬ Job.maxBlob < orbitData.length := by decide +kernel
  have hwhole : [orbitData.take 512, orbitData.drop 512].flatten = orbitData := by simp
  unfold Job.toFlash Job.checkSize ofData orbitTransfer ofChunks
  rw [if_neg hsize, hrecords, hwhole]
  simp only [bind, Except.bind, pure, Except.pure, Block.cut, hcut]
  rfl

/-- The answer of a receiver that has stored the record with this number. -/
def stored (low high : UInt8) : Frame :=
  .sealed MessageClass.mga MgaId.flash [replyType, 0, 0, 0, low, high] (by simp)

/-- The first block is sent again before it is acknowledged. -/
def orbitInputs : List Input :=
  [.tick 100, .tick 200, .frame 250 (stored 0 0), .frame 300 (stored 1 0),
    .frame 350 (stored 0xFF 0xFF)]

theorem history_stored_orbit :
    Job.toFlash orbitData = .ok (.flash orbitTransfer) ∧
      StopsInTurn pairSettings 0 orbitInputs orbitTransfer ∧
      (∃ u, (orbitTransfer.history pairSettings 0 orbitInputs).result = .ok (u, .finished)) ∧
      ∃ (blocks : List Block) (chunks : List Bytes),
        Stored orbitData pairSettings 0 orbitInputs orbitTransfer blocks chunks := by
  have hstop : StopsInTurn pairSettings 0 orbitInputs orbitTransfer := by
    intro place time f r hin hr hv hs
    rcases place with _ | _ | _ | _ | _ | place
    · cases hin
    · cases hin
    · cases hin
      have hreply : Reply.parse? (stored 0 0) = some ⟨0, 0⟩ := by decide
      cases hreply.symm.trans hr
      cases hs
    · cases hin
      have hreply : Reply.parse? (stored 1 0) = some ⟨0, 1⟩ := by decide
      cases hreply.symm.trans hr
      cases hs
    · decide +kernel
    · cases hin
  have hfin : ∃ u, (orbitTransfer.history pairSettings 0 orbitInputs).result =
      .ok (u, .finished) := by
    have hstep : ((orbitTransfer.history pairSettings 0 orbitInputs).result.toOption.map
        Prod.snd) = some .finished := by decide +kernel
    cases hresult : (orbitTransfer.history pairSettings 0 orbitInputs).result with
    | error e =>
      rw [hresult] at hstep
      cases hstep
    | ok p =>
      rw [hresult] at hstep
      obtain ⟨u, step⟩ := p
      cases hstep
      exact ⟨u, rfl⟩
  obtain ⟨u, hu⟩ := hfin
  exact ⟨toFlash_orbit, hstop, ⟨u, hu⟩, history_stored toFlash_orbit hstop hu⟩

end GnssAiding.Flash.Transfer
