/-
The whole course of the transfer of a legacy file.

Whatever the inputs are, a run writes a part of a script, goes through the phases in
their order (`Phase.Follows`) and reports no header but that of the file (`Standing`).
It is led on from each block, and from the last stop message, by an acknowledgement and
nothing else (`Taken.passed_cases`), so one that finishes has had as many
(`history_acked`). `history_course` puts this together.
-/
import GnssAiding.Proofs.Legacy.Script
import GnssAiding.Proofs.Transfer.History
import Mathlib.Data.List.Induction

namespace GnssAiding.Legacy

/-- The phase comes next. -/
inductive Phase.Follows : Phase → Phase → Prop
  | mainSequence : Follows .starting .mainSequence
  | stopping : Follows .mainSequence .stopping
  | idle : Follows .stopping .idle

namespace Push

open Turn
open Flash (Block)
open GnssAiding.Transfer (Input)

/-- Takes an input; a transfer that has ended takes none. -/
def take (s : Settings) (q : Push × Step) (i : Input) : Turn (Push × Step) :=
  if q.2 = .running then
    match i with
    | .frame now f => (q.1.receive ⟨s, now⟩ f).getD (pure q)
    | .tick now => q.1.checkTimeouts ⟨s, now⟩
  else pure q

/-- Begins at the clock reading `now` and takes inputs one after another. -/
def history (s : Settings) (now : Nat) (inputs : List Input) (p : Push) : Turn (Push × Step) := do
  let q ← p.start ⟨s, now⟩
  inputs.foldlM (take s) q

theorem take_of_ended {s : Settings} {q : Push × Step} (h : q.2 ≠ .running) (i : Input) :
    take s q i = pure q := if_neg h

theorem history_concat (s : Settings) (now : Nat) (inputs : List Input) (i : Input) (p : Push) :
    p.history s now (inputs ++ [i]) = p.history s now inputs >>= fun q => take s q i := by
  simp only [history, List.foldlM_append, List.foldlM_cons, List.foldlM_nil, bind_assoc, bind_pure]

/-! ## What an input comes to -/

/-- The headers that are reported as stored. -/
def finalized (acts : List Action) : List Header :=
  acts.filterMap fun a =>
    match a with
    | .report (.legacy (.finalizeCompleted h)) => some h
    | _ => none

theorem finalized_append (acts more : List Action) :
    finalized (acts ++ more) = finalized acts ++ finalized more := List.filterMap_append

theorem finalized_transmission (b : Block) : finalized (transmission b) = [] := by
  unfold transmission
  split <;> rfl

/-- What a transfer that runs does with an input. -/
inductive Taken (s : Settings) (p : Push) (i : Input) : List Action → Push → Step → Prop
  | ignored : Taken s p i [] p .running
  | answered {time f r acts q step} (hi : i = .frame time f) (hr : Reply.parse? f = some r)
    (hf : (p.receive ⟨s, time⟩ f).isSome = true) (ha : Answer ⟨s, time⟩ p r acts q step) :
    Taken s p i acts q step
  | lapsed {acts q step} (hl : Lapse ⟨s, i.now⟩ p acts q step) : Taken s p i acts q step

theorem take_comes {s : Settings} {p : Push} (hu : Underway s p) (i : Input) :
    ∃ more q step, (take s (p, .running) i).Comes ⟨s, i.now⟩ more (q, step) ∧
      Taken s p i more q step := by
  cases i with
  | frame time f =>
    change ∃ more q step, ((p.receive ⟨s, time⟩ f).getD (pure (p, .running))).Comes _ more _ ∧ _
    cases hr : p.receive ⟨s, time⟩ f with
    | none => exact ⟨[], p, .running, .pure _, .ignored⟩
    | some turn =>
      obtain ⟨r, acts, q, step, hreply, hturn, hanswer⟩ := receive_comes hu hr
      exact ⟨acts, q, step, hturn, .answered rfl hreply (by rw [hr]; rfl) hanswer⟩
  | tick time =>
    obtain ⟨acts, q, step, hturn, hlapse⟩ := checkTimeouts_comes ⟨s, time⟩ hu
    exact ⟨acts, q, step, hturn, .lapsed hlapse⟩

/-- How a transfer goes on with an input, or ends by it. -/
structure Proceeds (limit : Nat) (frames : List Bytes) (p : Push) (acts : List Action) (q : Push)
    (step : Step) : Prop where
  stage : step = .running → ∀ {ws}, Stage limit frames p ws →
    Stage limit frames q (ws ++ acts.filterMap Action.written?)
  quiet : step ≠ .running → acts.filterMap Action.written? = []
  finalized : finalized acts = if step = .finished then [p.storedHeader] else []
  closing : step = .finished → p.phase = .stopping ∧ q.current = p.current
  idle : q.phase = .idle ↔ step = .finished
  phase : q.phase = p.phase ∨ p.phase.Follows q.phase
  file : q.file = p.file
  header : step = .running → q.header = p.header
  items : q.blocks.map Block.item = p.blocks.map Block.item

section

variable {s : Settings} {c : Context} {p q : Push} {frames : List Bytes} {acts : List Action}
  {r : Reply} {step : Step} {i : Input}

theorem Underway.phase_ne_idle (h : Underway s p) : p.phase ≠ .idle := by
  cases h.waits with
  | starting hp | sending hp | stopping hp =>
    rw [hp]
    exact Phase.noConfusion

theorem Answer.proceeds (h : Answer c p r acts q step) (hu : Underway c.settings p)
    (hf : Framed frames p) : Proceeds c.settings.retries frames p acts q step where
  stage := by
    rintro rfl ws hs
    exact h.stage hf hs
  quiet := by
    intro hstep
    cases h with
    | begun | advanced | closing | resent => exact absurd rfl hstep
    | exhausted | closed | refused => rfl
  finalized := by
    cases h with
    | begun | advanced | resent => exact finalized_transmission _
    | closing | exhausted | closed | refused => rfl
  closing := by
    rintro rfl
    cases h with
    | closed hp => exact ⟨hp, rfl⟩
  idle := by
    have hp := hu.phase_ne_idle
    cases h with
    | begun | closing => exact iff_of_false Phase.noConfusion Step.noConfusion
    | advanced | resent | exhausted | refused => exact iff_of_false hp Step.noConfusion
    | closed => exact iff_of_true rfl rfl
  phase := by
    cases h with
    | begun hp =>
      rw [hp]
      exact .inr .mainSequence
    | closing hp =>
      rw [hp]
      exact .inr .stopping
    | closed hp =>
      rw [hp]
      exact .inr .idle
    | advanced | resent | exhausted | refused => exact .inl rfl
  file := h.file_eq
  header := by
    rintro rfl
    exact h.header_eq
  items := (h.turned hu).items

theorem Lapse.proceeds (h : Lapse c p acts q step) (hu : Underway c.settings p)
    (hf : Framed frames p) : Proceeds c.settings.retries frames p acts q step where
  stage := by
    rintro rfl ws hs
    exact h.stage hf hs
  quiet := by
    intro hstep
    cases h with
    | stopEarly | stopAgain | early | nudged | resent => exact absurd rfl hstep
    | stopGivenUp | givenUp => rfl
  finalized := by
    cases h with
    | stopGivenUp hp =>
      generalize p.phase = phase at hp
      cases hp <;> rfl
    | resent => exact finalized_transmission _
    | stopEarly | stopAgain | early | nudged | givenUp => rfl
  closing := by
    rintro rfl
    cases h
  idle := by
    refine iff_of_false ?_ ?_
    · have hp := hu.phase_ne_idle
      cases h <;> exact hp
    · cases h <;> exact Step.noConfusion
  phase := by
    cases h <;> exact .inl rfl
  file := h.file_eq
  header := fun _ => h.header_eq
  items := (h.turned hu).items

theorem Taken.proceeds (h : Taken s p i acts q step) (hu : Underway s p) (hf : Framed frames p) :
    Proceeds s.retries frames p acts q step := by
  cases h with
  | ignored =>
    exact {
      stage := fun _ ws hs => by simpa using hs
      quiet := fun hstep => absurd rfl hstep
      finalized := rfl
      closing := nofun
      idle := iff_of_false hu.phase_ne_idle Step.noConfusion
      phase := .inl rfl
      file := rfl
      header := fun _ => rfl
      items := rfl }
  | answered _ _ _ ha => exact ha.proceeds hu hf
  | lapsed hl => exact hl.proceeds hu hf

/-- What the transfer is through with: the blocks before the current one, and the last
stop message if it is finished. -/
def passed (q : Push × Step) : Nat := q.1.current + if q.2 = .finished then 1 else 0

/-- The transfer stays where it is, or is led on by an acknowledgement. -/
theorem Taken.passed_cases (h : Taken s p i acts q step) :
    passed (q, step) = p.current ∨ passed (q, step) = p.current + 1 ∧
      (p.phase = .mainSequence ∨ p.phase = .stopping) ∧
      ∃ time f, i = .frame time f ∧ Reply.parse? f = some .ack ∧
        (p.receive ⟨s, time⟩ f).isSome = true := by
  cases h with
  | ignored => exact .inl rfl
  | @answered time f r acts q step hi hr hf ha =>
    cases ha with
    | begun | resent | exhausted | refused => exact .inl rfl
    | advanced hp hack | closing hp hack =>
      subst hack
      exact .inr ⟨rfl, .inl hp, time, f, hi, hr, hf⟩
    | closed hp hack =>
      subst hack
      exact .inr ⟨rfl, .inr hp, time, f, hi, hr, hf⟩
  | lapsed hl => cases hl <;> exact .inl rfl

end

/-! ## A run -/

/-- How a transfer of `file` stands that has done `acts`, where `frames` carry its
blocks. -/
structure Standing (s : Settings) (file : Bytes) (header : Header) (frames : List Frame)
    (acts : List Action) (q : Push × Step) : Prop where
  part : ∃ all, Script s.retries (frames.map Frame.bytes) all ∧
    acts.filterMap Action.written? <+: all
  running : q.2 = .running → q.1.header = header ∧
    Stage s.retries (frames.map Frame.bytes) q.1 (acts.filterMap Action.written?)
  finished : q.2 = .finished → q.1.current = frames.length ∧
    Script s.retries (frames.map Frame.bytes) (acts.filterMap Action.written?)
  finalized : finalized acts = if q.2 = .finished then
    [{ header with size := UInt32.ofNat file.length, completed := 1 }] else []
  idle : q.1.phase = .idle ↔ q.2 = .finished
  items : q.1.blocks.map Block.item = (Block.cut file).map Block.item
  file : q.1.file = file

/-- A transfer that runs is underway. -/
theorem Standing.underway {s : Settings} {file : Bytes} {header : Header} {frames : List Frame}
    {acts : List Action} {p : Push} (h : Standing s file header frames acts (p, .running)) :
    Underway s p where
  waits := (h.running rfl).2.waits
  sliced := by
    have hfile : p.file = file := h.file
    unfold Sliced
    rw [h.items, hfile]
    exact fun _ => piece_of_mem_cut

section

variable {s : Settings} {file : Bytes} {header : Header} {frames : List Frame}
  {acts more : List Action} {p q : Push} {step : Step}
  (hframes : frames.map Frame.payload = Flash.chunksOf file) (hcut : CutInto file frames)

include hframes hcut

theorem framed_of_items (hitems : p.blocks.map Block.item = (Block.cut file).map Block.item) :
    Framed (frames.map Frame.bytes) p where
  length := by
    have hblocks := congrArg List.length hitems
    have hchunks := congrArg List.length hframes
    rw [List.length_map, List.length_map, Block.cut, List.length_mapIdx] at hblocks
    rw [List.length_map] at hchunks
    rw [List.length_map, hchunks, hblocks]
    rfl
  frame := fun _ _ hb => frame_of_items hframes hcut.built hitems hb

theorem Standing.turn (h : Standing s file header frames acts (p, .running))
    (hp : Proceeds s.retries (frames.map Frame.bytes) p more q step) :
    Standing s file header frames (acts ++ more) (q, step) := by
  obtain ⟨hheader, hstage⟩ := h.running rfl
  have hwritten : (acts ++ more).filterMap Action.written? =
      acts.filterMap Action.written? ++ more.filterMap Action.written? := List.filterMap_append
  have hended : step ≠ .running →
      (acts ++ more).filterMap Action.written? = acts.filterMap Action.written? := by
    intro hstep
    rw [hwritten, hp.quiet hstep, List.append_nil]
  have hstages : step = .running → Stage s.retries (frames.map Frame.bytes) q
      ((acts ++ more).filterMap Action.written?) := by
    intro hstep
    rw [hwritten]
    exact hp.stage hstep hstage
  refine ⟨?_, fun hstep => ⟨(hp.header hstep).trans hheader, hstages hstep⟩, ?_, ?_, hp.idle,
    hp.items.trans h.items, hp.file.trans h.file⟩
  · by_cases hstep : step = .running
    · exact (hstages hstep).part
    · rw [hended hstep]
      exact h.part
  · intro (hstep : step = .finished)
    obtain ⟨hphase, hcurrent⟩ := hp.closing hstep
    have hframed := framed_of_items hframes hcut h.items
    rw [hended (by rw [hstep]; exact Step.noConfusion)]
    refine ⟨?_, hstage.script hphase⟩
    rw [← List.length_map (f := Frame.bytes), hframed.length]
    exact hcurrent.trans (hstage.current_of_stopping hphase)
  · have hnone : Push.finalized acts = [] := h.finalized
    have hstored : p.storedHeader =
        { header with size := UInt32.ofNat file.length, completed := 1 } := by
      rw [storedHeader, hheader, show p.file = file from h.file]
    rw [finalized_append, hnone, List.nil_append, hp.finalized, hstored]

/-- One input more is taken. -/
theorem Standing.take {q : Push × Step} (h : Standing s file header frames acts q) (i : Input) :
    ∃ more u, (Push.take s q i).Comes ⟨s, i.now⟩ more u ∧
      Standing s file header frames (acts ++ more) u := by
  obtain ⟨p, step⟩ := q
  by_cases hrunning : step = .running
  · subst hrunning
    have hu := h.underway
    obtain ⟨more, q, step, hturn, htaken⟩ := take_comes hu i
    exact ⟨more, _, hturn,
      h.turn hframes hcut (htaken.proceeds hu (framed_of_items hframes hcut h.items))⟩
  · refine ⟨[], (p, step), ?_, by rwa [List.append_nil]⟩
    rw [take_of_ended hrunning]
    exact .pure _

/-- Where a run stands in the end, and what it did; if it stops on a fault, it did no
more than that. -/
theorem history_standing (hp : ofFile file = .ok p) (hheader : Header.parse file = .ok header)
    (now : Nat) (inputs : List Input) :
    ∃ acts q, (p.history s now inputs).Runs
      (Context.Fits ⟨s, now⟩ ∧ ∀ i ∈ inputs, Context.Fits ⟨s, i.now⟩) acts q ∧
      Standing s file header frames acts q := by
  refine Runs.foldlM (fun i h => h.take hframes hcut i) (start_comes ⟨s, now⟩ p).runs ?_ inputs
  have hunder := underway_start (s := s) hp ⟨s, now⟩
  obtain ⟨header', hheader', rfl⟩ := ofFile_eq_ok hp
  cases hheader.symm.trans hheader'
  have hstage : Stage s.retries (frames.map Frame.bytes)
      (stopSent ⟨s, now⟩ (entering .starting ⟨file, header, Block.cut file, 0, .idle, 0, 0⟩))
      [stopFrame.bytes] := by
    cases hunder.waits with
    | starting hphase hr hb hfresh => exact .resetting hphase hr rfl hb hfresh
    | sending hphase | stopping hphase => cases hphase
  exact ⟨hstage.part, fun _ => ⟨rfl, hstage⟩, nofun, rfl,
    iff_of_false Phase.noConfusion Step.noConfusion, rfl, rfl⟩

end

/-! ## What was acknowledged -/

/-- The input at `place` is an acknowledgement that the transfer takes in this phase,
with the block at `i` the current one. -/
def AckedAt (s : Settings) (now : Nat) (inputs : List Input) (p : Push) (i : Nat) (phase : Phase)
    (place : Nat) : Prop :=
  ∃ time f v, inputs[place]? = some (.frame time f) ∧ Reply.parse? f = some .ack ∧
    (p.history s now (inputs.take place)).result = .ok (v, .running) ∧
    (v.receive ⟨s, time⟩ f).isSome = true ∧ v.current = i ∧ v.phase = phase

/-- The phase in which the acknowledgement comes that is the `i`-th behind the reset. -/
def phaseOf (blocks i : Nat) : Phase := if i < blocks then .mainSequence else .stopping

section

variable {s : Settings} {now : Nat} {inputs : List Input} {file : Bytes} {header : Header}
  {frames : List Frame} {p u : Push} {q : Push × Step} {step : Step}

theorem AckedAt.append {i place : Nat} {phase : Phase} (h : AckedAt s now inputs p i phase place)
    (more : List Input) :
    place < inputs.length ∧ AckedAt s now (inputs ++ more) p i phase place := by
  obtain ⟨time, f, v, hin, hr, hrun, htaken⟩ := h
  have hlt := (List.getElem?_eq_some_iff.1 hin).1
  refine ⟨hlt, time, f, v, ?_, hr, ?_, htaken⟩
  · rw [List.getElem?_append_left hlt, hin]
  · rw [List.take_append_of_le_length (Nat.le_of_lt hlt), hrun]

variable (hframes : frames.map Frame.payload = Flash.chunksOf file) (hcut : CutInto file frames)
  (hp : ofFile file = .ok p) (hheader : Header.parse file = .ok header)

include hframes hcut hp hheader

/-- A run has come as far as acknowledgements have led it. -/
theorem history_acked (hq : (p.history s now inputs).result = .ok q) :
    Places (fun i => AckedAt s now inputs p i (phaseOf frames.length i)) (passed q) := by
  -- The last input may be one place more; the run before it says where the transfer stood.
  induction inputs using List.reverseRecOn generalizing q with
  | nil =>
    simp only [history, List.foldlM_nil, bind_pure] at hq
    cases (start_comes ⟨s, now⟩ p).eq_result hq
    obtain ⟨header, -, rfl⟩ := ofFile_eq_ok hp
    exact .nil
  | append_singleton inputs i ih =>
    rw [history_concat] at hq
    obtain ⟨⟨v, step⟩, hv, hq⟩ := result_bind_eq_ok.1 hq
    have hplaces := ih hv
    by_cases hrunning : step = .running
    · subst hrunning
      obtain ⟨acts, w, hruns, hstanding⟩ :=
        history_standing (s := s) hframes hcut hp hheader now inputs
      obtain ⟨-, rfl⟩ := hruns.eq_of_ok hv
      have hstage := (hstanding.running rfl).2
      obtain ⟨more, u, step, hturn, htaken⟩ := take_comes hstanding.underway i
      cases hturn.eq_result hq
      rcases htaken.passed_cases with hstays | ⟨hnext, hphase, time, f, hi, hr, hf⟩
      · rw [hstays]
        exact hplaces.mono fun _ _ h => (h.append [i]).2
      · have hlength := (framed_of_items hframes hcut hstanding.items).length
        rw [List.length_map] at hlength
        have hphaseOf : v.phase = phaseOf frames.length v.current := by
          rcases hphase with hphase | hphase
          · rw [hphase, phaseOf, if_pos (hlength ▸ hstage.current_lt hphase)]
          · rw [hphase, phaseOf, hstage.current_of_stopping hphase, hlength,
              if_neg (Nat.lt_irrefl _)]
        rw [hnext]
        refine Places.concat hplaces (fun _ _ h => h.append [i]) ?_
        subst hi
        refine ⟨time, f, v, List.getElem?_concat_length, hr, ?_, hf, rfl, hphaseOf⟩
        rw [List.take_left]
        exact hv
    · rw [take_of_ended hrunning] at hq
      cases hq
      exact hplaces.mono fun _ _ h => (h.append [i]).2

/-- A run that has not ended is in a phase or goes on to the next one. -/
theorem history_phase {i : Input} {v : Push} {step' : Step}
    (hu : (p.history s now inputs).result = .ok (u, step))
    (hv : (p.history s now (inputs ++ [i])).result = .ok (v, step')) :
    v.phase = u.phase ∨ u.phase.Follows v.phase := by
  rw [history_concat] at hv
  obtain ⟨q, hq, hv⟩ := result_bind_eq_ok.1 hv
  cases hu.symm.trans hq
  by_cases hrunning : step = .running
  · subst hrunning
    obtain ⟨acts, w, hruns, hstanding⟩ :=
      history_standing (s := s) hframes hcut hp hheader now inputs
    obtain ⟨-, rfl⟩ := hruns.eq_of_ok hu
    have hunder := hstanding.underway
    obtain ⟨more, v, step, hturn, htaken⟩ := take_comes hunder i
    cases hturn.eq_result hv
    exact (htaken.proceeds hunder (framed_of_items hframes hcut hstanding.items)).phase
  · rw [take_of_ended hrunning] at hv
    cases hv
    exact .inl rfl

end

/-! ## The whole transfer -/

/-- What a run has done that finishes. -/
structure Completed (s : Settings) (now : Nat) (inputs : List Input) (p : Push) (file : Bytes)
    (header : Header) (frames : List Frame) : Prop where
  written : Script s.retries (frames.map Frame.bytes)
    ((p.history s now inputs).actions.filterMap Action.written?)
  reported : finalized (p.history s now inputs).actions =
    [{ header with size := UInt32.ofNat file.length, completed := 1 }]
  /-- An acknowledgement was taken for each block, and behind them one for the last stop
  message. -/
  acked : ∃ places : List Nat, places.length = frames.length + 1 ∧ places.Pairwise (· < ·) ∧
    ∀ (i place : Nat), places[i]? = some place →
      AckedAt s now inputs p i (phaseOf frames.length i) place

/-- **The whole course of the transfer of a legacy file.** Take a file with a header, and
frames and ticks in any order. The file is cut into the payloads of frames; what is
written, however the run ends, is the beginning of a script: stop messages, the attempts
at each frame in order, stop messages, each at most `retries + 1` times. No header is
reported as stored but that of the file with the length of the file filled in, and marked
as complete. The transfer is reset first, and each input leaves it in its phase or leads
to the next. A run that finishes has written a whole script, and has taken an
acknowledgement for each block and one more. -/
theorem history_course {file : Bytes} {s : Settings} {p : Push} {now : Nat} {inputs : List Input}
    (hp : ofFile file = .ok p) :
    ∃ (header : Header) (frames : List Frame), Header.parse file = .ok header ∧
      CutInto file frames ∧
      (∃ all, Script s.retries (frames.map Frame.bytes) all ∧
        (p.history s now inputs).actions.filterMap Action.written? <+: all) ∧
      (∀ h ∈ finalized (p.history s now inputs).actions,
        h = { header with size := UInt32.ofNat file.length, completed := 1 } ∧
          (file.length < 4294967296 → h.size.toNat = file.length)) ∧
      (∀ u step, (p.history s now inputs).result = .ok (u, step) →
        (inputs = [] → u.phase = .starting) ∧ (u.phase = .idle ↔ step = .finished) ∧
        ∀ i v step', (p.history s now (inputs ++ [i])).result = .ok (v, step') →
          v.phase = u.phase ∨ u.phase.Follows v.phase) ∧
      (∀ u, (p.history s now inputs).result = .ok (u, .finished) →
        Completed s now inputs p file header frames) ∧
      (Context.Fits ⟨s, now⟩ → (∀ i ∈ inputs, Context.Fits ⟨s, i.now⟩) →
        ∃ q, (p.history s now inputs).result = .ok q) := by
  obtain ⟨header, hheader, -⟩ := ofFile_eq_ok hp
  obtain ⟨frames, hframes, hcut⟩ := exists_frames file
  obtain ⟨acts, q, hruns, hstanding⟩ :=
    history_standing (s := s) hframes hcut hp hheader now inputs
  refine ⟨header, frames, hheader, hcut, ?_, ?_, ?_, ?_, ?_⟩
  · obtain ⟨all, hall, hpart⟩ := hstanding.part
    exact ⟨all, hall, (hruns.actions_isPrefix.filterMap _).trans hpart⟩
  · intro h hh
    have hmem : h ∈ finalized acts := (hruns.actions_isPrefix.filterMap _).subset hh
    rw [hstanding.finalized] at hmem
    split at hmem
    · rw [List.mem_singleton] at hmem
      subst hmem
      refine ⟨rfl, fun hlen => ?_⟩
      rw [UInt32.toNat_ofNat']
      exact Nat.mod_eq_of_lt hlen
    · cases hmem
  · intro u step hu
    obtain ⟨-, rfl⟩ := hruns.eq_of_ok hu
    refine ⟨?_, hstanding.idle, fun i v step' hv =>
      history_phase hframes hcut hp hheader hu hv⟩
    rintro rfl
    simp only [history, List.foldlM_nil, bind_pure] at hu
    cases (start_comes ⟨s, now⟩ p).eq_result hu
    rfl
  · intro u hu
    obtain ⟨hrun, rfl⟩ := hruns.eq_of_ok hu
    obtain ⟨hcurrent, hscript⟩ := hstanding.finished rfl
    have hplaces := history_acked hframes hcut hp hheader hu
    have hpassed : passed (u, .finished) = frames.length + 1 := congrArg (· + 1) hcurrent
    rw [hpassed] at hplaces
    refine ⟨?_, ?_, hplaces⟩
    · rw [hrun]
      exact hscript
    · rw [hrun]
      exact hstanding.finalized
  · intro hnow hin
    exact ⟨q, by rw [hruns.eq ⟨hnow, hin⟩]⟩

/-- The reset is refused, which will do; the block is refused once and sent again. -/
def refusals : List Input :=
  [.frame 10 (Link.replyFrame .nak), .frame 20 (Link.replyFrame .nak),
    .frame 30 (Link.replyFrame .ack), .frame 40 (Link.replyFrame .ack)]

theorem history_course_headerFile :
    let p := Link.oneBlock .idle 0 0 0 (Link.onlyBlock .waitingToSend 0)
    ofFile Link.headerFile = .ok p ∧
      (p.history Link.hasty 0 refusals).result.map Prod.snd = .ok .finished ∧
      ∃ (header : Header) (frames : List Frame), Header.parse Link.headerFile = .ok header ∧
        CutInto Link.headerFile frames ∧
        Completed Link.hasty 0 refusals p Link.headerFile header frames := by
  intro p
  obtain ⟨header, frames, hheader, hcut, -, -, -, hfinished, htotal⟩ :=
    @history_course Link.headerFile Link.hasty p 0 refusals Link.ofFile_headerFile
  have hend : (p.history Link.hasty 0 refusals).result.map Prod.snd = .ok .finished := by
    rfl
  obtain ⟨⟨u, step⟩, hu⟩ := htotal (by decide) (by decide)
  refine ⟨Link.ofFile_headerFile, hend, header, frames, hheader, hcut, hfinished u ?_⟩
  rw [hu] at hend ⊢
  cases hend
  rfl

end Push

end GnssAiding.Legacy
