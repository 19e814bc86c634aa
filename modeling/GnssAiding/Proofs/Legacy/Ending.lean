/-
Where the data of a legacy file ends for the receiver.

The message that ends the data is of the kind that carries it, with a zero byte for its
payload. A block that is a single zero byte goes out in these very bytes. Only the last
block of a file can be one, and it is one if the file is a byte longer than whole blocks
and ends in a zero byte (`LoneZero`, `CutInto.bytes_eq_stop_iff`). With nothing lost and
nothing refused, what is written is the stop message, the blocks once each and the stop
message (`history_acks`), and a receiver that takes what comes in between for the file is
then one byte short (`undisturbed_assembled`).
-/
import GnssAiding.Proofs.Legacy.Course
import GnssAiding.Proofs.Legacy.Header

namespace GnssAiding.Legacy

open Turn
open Flash (Block)
open GnssAiding.Transfer (Input)

/-- The last block of the file is a zero byte and nothing else. -/
def LoneZero (file : Bytes) : Prop := file.length % 512 = 1 ∧ file.getLast? = some 0

instance (file : Bytes) : Decidable (LoneZero file) := inferInstanceAs (Decidable (_ ∧ _))

/-- What a message carries. -/
def carried (message : Bytes) : Bytes := ((Frame.parse? message).map Frame.payload).getD []

/-- What a receiver puts together from messages: what they carry, up to the first that
ends the data. -/
def assembled (messages : List Bytes) : Bytes :=
  (messages.takeWhile fun m => decide (m ≠ stopFrame.bytes)).flatMap carried

theorem assembled_append_stop {messages : List Bytes} (h : stopFrame.bytes ∉ messages)
    (more : List Bytes) :
    assembled (messages ++ stopFrame.bytes :: more) = messages.flatMap carried := by
  have hpass : ∀ m ∈ messages, decide (m ≠ stopFrame.bytes) = true :=
    fun m hm => decide_eq_true fun hstop => h (hstop ▸ hm)
  rw [assembled, List.takeWhile_append_of_pos hpass, List.takeWhile_cons_of_neg (by simp),
    List.append_nil]

namespace Push

/-! ## The frames of a file -/

section Frames

variable {file : Bytes} {frames init : List Frame} {f last : Frame} {i : Nat}

theorem CutInto.flatMap_carried (h : CutInto file frames) {part : List Frame}
    (hpart : ∀ f ∈ part, f ∈ frames) :
    (part.map Frame.bytes).flatMap carried = (part.map Frame.payload).flatten := by
  have hcarried : ∀ f ∈ part, carried f.bytes = f.payload := by
    intro f hf
    obtain ⟨-, -, -, hintact⟩ := Frame.build_eq_ok (h.built f (hpart f hf))
    rw [carried, Frame.parse?_bytes hintact]
    rfl
  rw [List.flatMap_def, List.map_map]
  exact congrArg List.flatten (List.map_congr_left hcarried)

/-- A block goes out as the stop message does if it is a zero byte. -/
theorem CutInto.bytes_eq_stop_iff_payload (h : CutInto file frames) (hf : f ∈ frames) :
    f.bytes = stopFrame.bytes ↔ f.payload = [0] := by
  constructor
  · intro hbytes
    rw [Frame.bytes_injective hbytes]
    rfl
  · intro hpayload
    have hbuilt := h.built f hf
    rw [hpayload] at hbuilt
    cases hbuilt
    rfl

section Concat

variable (h : CutInto file (init ++ [last]))

include h

theorem CutInto.length_of_mem_init (hf : f ∈ init) : f.payload.length = 512 :=
  h.full f (by rwa [List.dropLast_concat])

theorem CutInto.file_concat : file = (init.map Frame.payload).flatten ++ last.payload := by
  rw [← h.file]
  simp

theorem CutInto.length_concat : file.length = 512 * init.length + last.payload.length := by
  have hsizes : init.map (List.length ∘ Frame.payload) = List.replicate init.length 512 := by
    rw [List.eq_replicate_iff]
    simpa using fun f hf => h.length_of_mem_init hf
  rw [h.file_concat, List.length_append, List.length_flatten, List.map_map, hsizes,
    List.sum_replicate_nat, Nat.mul_comm]

theorem CutInto.length_of_concat : (init ++ [last]).length = (file.length + 511) / 512 := by
  obtain ⟨hne, hsmall⟩ := h.small last (by simp)
  have hpos := List.length_pos_iff.2 hne
  rw [List.length_append, List.length_singleton, h.length_concat]
  omega

/-- It is the last block that the end of the file tells. -/
theorem CutInto.loneZero_iff : LoneZero file ↔ last.payload = [0] := by
  obtain ⟨hne, hsmall⟩ := h.small last (by simp)
  have hlength := h.length_concat
  have hlast : file.getLast? = last.payload.getLast? := by
    rw [h.file_concat, List.getLast?_append, List.getLast?_eq_some_getLast hne, Option.some_or]
  constructor
  · rintro ⟨hmod, hzero⟩
    have hone : last.payload.length = 1 := by
      have hpos := List.length_pos_iff.2 hne
      omega
    obtain ⟨b, hb⟩ := List.length_eq_one_iff.1 hone
    rw [hlast, hb] at hzero
    cases hzero
    exact hb
  · intro hpayload
    refine ⟨?_, by rw [hlast, hpayload]; rfl⟩
    rw [hlength, hpayload, List.length_singleton]
    omega

theorem CutInto.stop_not_mem_init : stopFrame.bytes ∉ init.map Frame.bytes := by
  intro hmem
  obtain ⟨f, hf, hbytes⟩ := List.mem_map.1 hmem
  have hpayload := (h.bytes_eq_stop_iff_payload (List.mem_append_left _ hf)).1 hbytes
  have hlength := h.length_of_mem_init hf
  rw [hpayload] at hlength
  cases hlength

end Concat

theorem CutInto.length_eq (h : CutInto file frames) :
    frames.length = (file.length + 511) / 512 := by
  rcases List.eq_nil_or_concat' frames with rfl | ⟨init, last, rfl⟩
  · rw [← h.file]
    rfl
  · exact h.length_of_concat

theorem CutInto.bytes_eq_stop_iff (h : CutInto file frames) (hf : frames[i]? = some f) :
    f.bytes = stopFrame.bytes ↔ LoneZero file ∧ i + 1 = frames.length := by
  have hlt := (List.getElem?_eq_some_iff.1 hf).1
  rcases List.eq_nil_or_concat' frames with rfl | ⟨init, last, rfl⟩
  · cases hf
  rw [List.length_append, List.length_singleton] at hlt ⊢
  by_cases hi : i = init.length
  · subst hi
    rw [List.getElem?_concat_length] at hf
    cases hf
    rw [h.bytes_eq_stop_iff_payload (by simp), h.loneZero_iff, and_iff_left rfl]
  · rw [List.getElem?_append_left (by omega)] at hf
    have hmem := List.mem_map_of_mem (f := Frame.bytes) (List.mem_of_getElem? hf)
    refine iff_of_false (fun hbytes => h.stop_not_mem_init (hbytes ▸ hmem)) ?_
    omega

/-- What comes of the blocks and the stop message behind them. -/
theorem CutInto.assembled_eq (h : CutInto file frames) :
    assembled (frames.map Frame.bytes ++ [stopFrame.bytes]) =
      if LoneZero file then file.dropLast else file := by
  rcases List.eq_nil_or_concat' frames with rfl | ⟨init, last, rfl⟩
  · rw [← h.file]
    rfl
  have hinit : (init.map Frame.bytes).flatMap carried = (init.map Frame.payload).flatten :=
    h.flatMap_carried fun f hf => List.mem_append_left _ hf
  by_cases hlone : LoneZero file
  · have hpayload := h.loneZero_iff.1 hlone
    have hlast := (h.bytes_eq_stop_iff_payload (f := last) (by simp)).2 hpayload
    rw [if_pos hlone, List.map_append, List.map_singleton, hlast, List.append_assoc]
    refine (assembled_append_stop h.stop_not_mem_init _).trans ?_
    rw [hinit, h.file_concat, hpayload, List.dropLast_concat]
  · have hstop : stopFrame.bytes ∉ (init ++ [last]).map Frame.bytes := by
      intro hmem
      obtain ⟨f, hf, hbytes⟩ := List.mem_map.1 hmem
      obtain ⟨i, hi⟩ := List.mem_iff_getElem?.1 hf
      exact hlone ((h.bytes_eq_stop_iff hi).1 hbytes).1
    rw [if_neg hlone, assembled_append_stop hstop, h.flatMap_carried fun _ => id, h.file]

end Frames

/-! ## A run with nothing lost -/

/-- Acknowledgements that come at these clock readings. -/
def acks (times : List Nat) : List Input := times.map fun time => .frame time (Link.replyFrame .ack)

/-- How a transfer stands that has had so many acknowledgements and nothing else, and what
it has written. -/
inductive Undisturbed (frames : List Bytes) : Nat → List Bytes → Push × Step → Prop
  | resetting {p} (hp : p.phase = .starting) (hi : p.current = 0) :
    Undisturbed frames 0 [stopFrame.bytes] (p, .running)
  | sending {i p} (hp : p.phase = .mainSequence) (hi : p.current = i) (hlt : i < frames.length) :
    Undisturbed frames (i + 1) (stopFrame.bytes :: frames.take (i + 1)) (p, .running)
  | closing {p} (hp : p.phase = .stopping) :
    Undisturbed frames (frames.length + 1) (stopFrame.bytes :: (frames ++ [stopFrame.bytes]))
      (p, .running)
  | finished {k p} (hk : frames.length + 2 ≤ k) :
    Undisturbed frames k (stopFrame.bytes :: (frames ++ [stopFrame.bytes])) (p, .finished)

section Acks

variable {s : Settings} {c : Context} {p q : Push} {file : Bytes} {frames ws : List Bytes}
  {acts : List Action} {step : Step} {k : Nat}

theorem Undisturbed.cases_step {q : Push × Step} (h : Undisturbed frames k ws q) :
    q.2 = .running ∧ k < frames.length + 2 ∨ q.2 = .finished ∧ frames.length + 2 ≤ k ∧
      ws = stopFrame.bytes :: (frames ++ [stopFrame.bytes]) := by
  cases h with
  | finished hk => exact .inr ⟨rfl, hk, rfl⟩
  | resetting | sending | closing => exact .inl ⟨rfl, by omega⟩

theorem Framed.lt (hf : Framed frames p) {i : Nat} {b : Block} (hb : p.blocks[i]? = some b) :
    i < frames.length := by
  rw [hf.length]
  exact (List.getElem?_eq_some_iff.1 hb).1

/-- The frame of the next block is written behind those before it. -/
theorem Framed.take_succ (hf : Framed frames p) {i : Nat} {b : Block}
    (hb : p.blocks[i]? = some b) :
    frames.take (i + 1) = frames.take i ++ (transmission b).filterMap Action.written? := by
  obtain ⟨f, hbuild, hframe⟩ := hf.frame i b hb
  rw [written_transmission hbuild, List.take_add_one, hframe, Option.toList_some]

theorem Answer.undisturbed (ha : Answer c p .ack acts q step) (hf : Framed frames p)
    (h : Undisturbed frames k ws (p, .running)) :
    Undisturbed frames (k + 1) (ws ++ acts.filterMap Action.written?) (q, step) := by
  -- The phase tells how many there have been.
  cases h with
  | resetting hp hi =>
    cases ha with
    | begun _ hb =>
      rw [hi] at hb
      have hfirst := hf.take_succ hb
      rw [List.take_zero, List.nil_append] at hfirst
      rw [List.filterMap_cons_none rfl, ← hfirst]
      exact .sending rfl hi (hf.lt hb)
    | advanced hp' | closing hp' | closed hp' | resent hp' | exhausted hp' | refused hp' =>
      cases hp.symm.trans hp'
  | sending hp hi hlt =>
    subst hi
    cases ha with
    | advanced _ _ _ hn =>
      rw [List.filterMap_cons_none rfl, List.cons_append, ← hf.take_succ hn]
      exact .sending hp rfl (hf.lt hn)
    | closing _ _ _ hl =>
      have hlast : p.current + 1 = frames.length := Nat.le_antisymm hlt (hf.length ▸ hl)
      rw [hlast, List.take_length]
      exact .closing rfl
    | resent _ hr | exhausted _ hr => cases hr
    | begun hp' | closed hp' | refused hp' => cases hp.symm.trans hp'
  | closing hp =>
    cases ha with
    | closed =>
      rw [show [Action.report (.legacy (.finalizeCompleted p.storedHeader))].filterMap
        Action.written? = [] from rfl, List.append_nil]
      exact .finished (Nat.le_refl _)
    | refused _ hr => cases hr
    | begun hp' | advanced hp' | closing hp' | resent hp' | exhausted hp' =>
      cases hp.symm.trans hp'

end Acks

/-- What a run keeps in which nothing but acknowledgements come. -/
structure Unhindered (s : Settings) (file : Bytes) (frames : List Frame) (k : Nat)
    (acts : List Action) (q : Push × Step) : Prop where
  items : q.1.blocks.map Block.item = (Block.cut file).map Block.item
  underway : q.2 = .running → Underway s q.1
  undisturbed : Undisturbed (frames.map Frame.bytes) k (acts.filterMap Action.written?) q

section Run

variable {s : Settings} {file : Bytes} {frames : List Frame} {acts : List Action} {k : Nat}
  (hframes : frames.map Frame.payload = Flash.chunksOf file) (hcut : CutInto file frames)

include hframes hcut

theorem Unhindered.ack {q : Push × Step} (h : Unhindered s file frames k acts q) (time : Nat) :
    ∃ more u, (take s q (.frame time (Link.replyFrame .ack))).Comes ⟨s, time⟩ more u ∧
      Unhindered s file frames (k + 1) (acts ++ more) u := by
  obtain ⟨p, step⟩ := q
  have hframed := framed_of_items hframes hcut h.items
  by_cases hrunning : step = .running
  · subst hrunning
    have hu := h.underway rfl
    have hack := Link.parse?_replyFrame .ack
    obtain ⟨turn, hturn⟩ := hu.exists_receive (c := ⟨s, time⟩) hack
    obtain ⟨r, more, q, step, hr, hcomes, ha⟩ := receive_comes hu hturn
    cases hack.symm.trans hr
    refine ⟨more, (q, step), ?_, ?_, ?_, ?_⟩
    · show (((p.receive ⟨s, time⟩ (Link.replyFrame .ack)).getD _).Comes _ _ _)
      rwa [hturn]
    · exact (ha.turned hu).items.trans h.items
    · rintro rfl
      exact ha.underway hu
    · rw [List.filterMap_append]
      exact ha.undisturbed hframed h.undisturbed
  · refine ⟨[], (p, step), ?_, h.items, h.underway, ?_⟩
    · rw [take_of_ended hrunning]
      exact .pure _
    · rcases h.undisturbed.cases_step with ⟨hstep, -⟩ | ⟨hstep, hk, hwritten⟩
      · exact absurd hstep hrunning
      · rw [List.append_nil, hwritten, show step = .finished from hstep]
        exact .finished (Nat.le_succ_of_le hk)

/-- After so many acknowledgements as there are blocks and two more, the transfer is
finished, and has written each block once. -/
theorem history_acks {p : Push} (hp : ofFile file = .ok p) (now : Nat) {times : List Nat}
    (htimes : times.length = frames.length + 2) :
    ∃ acts q, (p.history s now (acks times)).Runs
      (Context.Fits ⟨s, now⟩ ∧ ∀ time ∈ times, Context.Fits ⟨s, time⟩) acts (q, .finished) ∧
      acts.filterMap Action.written? =
        stopFrame.bytes :: (frames.map Frame.bytes ++ [stopFrame.bytes]) := by
  have hstart : Unhindered s file frames 0
      [.report (.start p.blocks.length), .report (.legacy .startupStarted), .write stopFrame.bytes]
      ((p.entering .starting).stopSent ⟨s, now⟩, .running) := by
    have hunder := underway_start (s := s) hp ⟨s, now⟩
    obtain ⟨header, -, rfl⟩ := ofFile_eq_ok hp
    exact ⟨rfl, fun _ => hunder, .resetting rfl rfl⟩
  obtain ⟨acts, ⟨q, step⟩, hruns, hend⟩ := Runs.foldlM_counted
    (I := Unhindered s file frames)
    (f := fun q time => take s q (.frame time (Link.replyFrame .ack)))
    (fun time h => h.ack hframes hcut time) (start_comes ⟨s, now⟩ p).runs hstart times
  have hhistory : p.history s now (acks times) = p.start ⟨s, now⟩ >>= fun q =>
      times.foldlM (fun q time => take s q (.frame time (Link.replyFrame .ack))) q := by
    simp only [history, acks, List.foldlM_map]
  rw [← hhistory] at hruns
  rw [Nat.zero_add, htimes] at hend
  rcases hend.undisturbed.cases_step with ⟨-, hlt⟩ | ⟨hstep, -, hwritten⟩
  · simp at hlt
  · cases hstep
    exact ⟨acts, q, hruns, hwritten⟩

end Run

/-- **Where the data of a legacy file ends for a receiver.** Take a file with a header. It
is cut into the payloads of frames, and a frame goes out in the bytes of the stop message
just when it is the last one and holds a zero byte and nothing else. If each message is
acknowledged, the stop message is written, each frame once and the stop message, and the
transfer is finished. A receiver that puts together what comes behind the start-up, up to
a stop message, gets the file then, but not the lone zero byte at its end. -/
theorem undisturbed_assembled {file : Bytes} {p : Push} (hp : ofFile file = .ok p) :
    ∃ frames, CutInto file frames ∧
      (∀ i f, frames[i]? = some f →
        (f.bytes = stopFrame.bytes ↔ LoneZero file ∧ i + 1 = frames.length)) ∧
      ∀ (s : Settings) (now : Nat) (times : List Nat), Context.Fits ⟨s, now⟩ →
        (∀ time ∈ times, Context.Fits ⟨s, time⟩) →
        times.length = (file.length + 511) / 512 + 2 →
        ∃ q, (p.history s now (acks times)).result = .ok (q, .finished) ∧
          (p.history s now (acks times)).actions.filterMap Action.written? =
            stopFrame.bytes :: (frames.map Frame.bytes ++ [stopFrame.bytes]) ∧
          assembled ((p.history s now (acks times)).actions.filterMap Action.written?).tail =
            if LoneZero file then file.dropLast else file := by
  obtain ⟨frames, hframes, hcut⟩ := exists_frames file
  refine ⟨frames, hcut, fun i f hf => hcut.bytes_eq_stop_iff hf, ?_⟩
  intro s now times hnow hin htimes
  obtain ⟨acts, q, hruns, hwritten⟩ :=
    history_acks (s := s) hframes hcut hp now (hcut.length_eq ▸ htimes)
  rw [hruns.eq ⟨hnow, hin⟩, hwritten]
  exact ⟨q, rfl, rfl, hcut.assembled_eq⟩

/-- A header and zeros behind it, which fill a block. -/
def zeroBlock : Bytes := Link.headerFile ++ List.replicate 428 0

theorem length_zeroBlock : zeroBlock.length = 512 := by
  rw [zeroBlock, List.length_append, List.length_replicate]
  rfl

/-- One zero more. -/
def zeroFile : Bytes := zeroBlock ++ [0]

theorem loneZero_zeroFile : LoneZero zeroFile := by
  simp [LoneZero, zeroFile, length_zeroBlock]

/-- The transfer of `zeroFile`. -/
def zeroPush : Push :=
  ⟨zeroFile, Link.emptyHeader, [.fresh (.data 0 zeroBlock) 0, .fresh (.data 512 [0]) 1], 0,
    .idle, 0, 0⟩

theorem ofFile_zeroFile : ofFile zeroFile = .ok zeroPush := by
  have hparse : Header.parse zeroFile = .ok Link.emptyHeader := by
    have hheader : Link.headerFile = Link.emptyHeader.encode := by
      rw [Header.encode_eq_layout]
      rfl
    rw [zeroFile, zeroBlock, hheader, List.append_assoc, Header.parse_encode]
    rfl
  have hpieces : Flash.chunksOf zeroFile = [zeroBlock, [0]] := by
    have hfull : zeroBlock.length = Flash.blockSize := length_zeroBlock
    rw [Flash.chunksOf, zeroFile, Bytes.pieces, if_neg (by simp), List.take_left' hfull,
      List.drop_left' hfull, Bytes.pieces, if_neg (by simp), Bytes.pieces]
    rfl
  have hcut : Block.cut zeroFile = zeroPush.blocks := by
    change (Flash.chunksOf zeroFile).mapIdx _ = _
    rw [hpieces]
    rfl
  unfold ofFile
  rw [hparse, hcut]
  rfl

/-- Two blocks and two stop messages are acknowledged, and the receiver is a byte short. -/
theorem undisturbed_assembled_zeroFile :
    ofFile zeroFile = .ok zeroPush ∧
      (zeroPush.history Link.hasty 0 (acks [10, 20, 30, 40])).result.map Prod.snd =
        .ok .finished ∧
      assembled ((zeroPush.history Link.hasty 0 (acks [10, 20, 30, 40])).actions.filterMap
        Action.written?).tail = zeroBlock := by
  obtain ⟨frames, -, -, hacks⟩ := undisturbed_assembled ofFile_zeroFile
  have htimes : [10, 20, 30, 40].length = (zeroFile.length + 511) / 512 + 2 := by
    simp [zeroFile, length_zeroBlock]
  obtain ⟨q, hq, -, hassembled⟩ :=
    hacks Link.hasty 0 [10, 20, 30, 40] (by decide) (by decide) htimes
  rw [hq, hassembled, if_pos loneZero_zeroFile, zeroFile, List.dropLast_concat]
  exact ⟨ofFile_zeroFile, rfl, rfl⟩

/-- The last block of an accepted file goes out as the stop message. -/
theorem lastBlock_is_stop :
    ofFile zeroFile = .ok zeroPush ∧
      ∃ b, zeroPush.blocks[1]? = some b ∧
        Frame.build MessageClass.aid AidId.alp b.bytes = .ok stopFrame :=
  ⟨ofFile_zeroFile, _, rfl, rfl⟩

end Push

end GnssAiding.Legacy
