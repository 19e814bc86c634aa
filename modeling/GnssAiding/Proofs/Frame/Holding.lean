/-
What a reassembler holds back between pushes.

It is at rest after every push, whatever has come: scanning what it holds back once more gives
nothing and leaves all of it. So no frame stands at its front (`AtRest.parse?_take`), and
it is shorter than the longest frame, since a sync pair with as many bytes behind it would begin
one (`AtRest.length_lt`). No bound on the pieces is needed, and none on what they hold.
-/
import GnssAiding.Proofs.Frame.Envelope
import GnssAiding.Proofs.Frame.Reassembly

namespace GnssAiding

namespace Reassembler

/-! ## What a scan leaves over -/

theorem length_scan_le (data : Bytes) : (scan data).2.length ≤ data.length := by
  fun_induction scan data with
  | case1 => exact Nat.le_refl _
  | case2 b =>
    split
    · exact Nat.le_refl _
    · exact Nat.zero_le _
  | case3 => exact Nat.le_refl _
  | case4 b c rest hs f tail htake hf fs pending hscan ih =>
    rw [hscan] at ih
    exact Nat.le_trans ih (Nat.le_of_lt (Frame.length_lt_of_take? htake))
  | case5 b c rest hs f tail htake hf ih => exact Nat.le_succ_of_le ih
  | case6 b c rest hs ih => exact Nat.le_succ_of_le ih

/-- Frames with a wrong checksum are not given out. -/
theorem intact_of_mem_scan {data : Bytes} {f : Frame} (h : f ∈ (scan data).1) :
    f.intact = true := by
  fun_induction scan data with
  | case1 => cases h
  | case2 => cases h
  | case3 => cases h
  | case4 b c rest hs g tail htake hg fs pending hscan ih =>
    rw [hscan] at ih
    rcases List.mem_cons.1 h with rfl | hmem
    · exact hg
    · exact ih hmem
  | case5 b c rest hs g tail htake hg ih => exact ih h
  | case6 b c rest hs ih => exact ih h

/-! ## At rest -/

variable {r : Reassembler}

/-- No frame stands at the front of what is held back. -/
theorem AtRest.parse?_take (h : r.AtRest) (n : Nat) : Frame.parse? (r.pending.take n) = none := by
  rw [Option.eq_none_iff_forall_ne_some]
  intro f hparse
  obtain ⟨hintact, hfront⟩ := Frame.parse?_eq_some_iff.1 hparse
  have hgiven := scan_bytes_append hintact (r.pending.drop n)
  rw [← hfront, List.take_append_drop] at hgiven
  cases (congrArg Prod.fst hgiven).symm.trans (congrArg Prod.fst h)

/-- What is held back is shorter than the longest frame. A longer string would lose its first
byte to a scan, or be given out as a frame. -/
theorem AtRest.length_lt (h : r.AtRest) : r.pending.length < Frame.maxLength := by
  have hall : (scan r.pending).2 = r.pending := congrArg Prod.snd h
  match hpending : r.pending with
  | [] => decide
  | [b] => exact (by decide : 1 < Frame.maxLength)
  | b :: c :: rest =>
    rw [hpending] at hall
    have hdropped : scan (b :: c :: rest) ≠ scan (c :: rest) := by
      intro heq
      have hle := length_scan_le (c :: rest)
      rw [← heq, hall] at hle
      exact Nat.not_succ_le_self _ hle
    have hpair : b = sync1 ∧ c = sync2 :=
      Decidable.not_not.1 fun hs => hdropped (scan_cons_of_not_sync hs)
    obtain ⟨rfl, rfl⟩ := hpair
    cases htake : Frame.take? (sync1 :: sync2 :: rest) with
    | none => exact Frame.length_lt_of_take?_eq_none htake
    | some found =>
      by_cases hintact : found.1.intact = true
      · have hgiven := scan_of_intact htake hintact
        rw [← hpending, h] at hgiven
        cases hgiven
      · exact absurd (scan_of_damaged htake hintact) hdropped

/-- A reassembler that has nothing to do until more bytes come. -/
structure Quiescent (r : Reassembler) : Prop where
  pending_le : r.pending.length ≤ 65542
  no_frame : ∀ n, Frame.parse? (r.pending.take n) = none
  push_nil : r.push [] = ([], r)

theorem AtRest.quiescent (h : r.AtRest) : r.Quiescent :=
  ⟨Nat.le_of_lt_succ h.length_lt, h.parse?_take, Reassembler.push_nil h⟩

/-- **After every push a reassembler is quiescent.** Whatever pieces have been pushed into an
empty one, and whatever is pushed next: each frame that is given out is read as a frame, and
then at most 65542 bytes are held back, with no frame at their front; a push of nothing gives
no frame then and changes nothing. -/
theorem push_quiescent (chunks : List Bytes) (data : Bytes) :
    (∀ f ∈ ((empty.after chunks).push data).1, Frame.parse? f.bytes = some f) ∧
      ((empty.after chunks).push data).2.Quiescent :=
  ⟨fun _ hf => Frame.parse?_bytes (intact_of_mem_scan hf), (AtRest.push _ data).quiescent⟩

/-- The beginning of a frame with the longest payload. -/
def begun (rest : Bytes) : Bytes :=
  sync1 :: sync2 :: MessageClass.mga :: MgaId.dbd :: 0xFF :: 0xFF :: rest

theorem length_begun (rest : Bytes) : (begun rest).length = rest.length + 6 := rfl

theorem push_begun {rest : Bytes} (h : rest.length < 65537) :
    empty.push (begun rest) = ([], ⟨begun rest⟩) := by
  have hnone : Frame.take? (begun rest) = none := by
    rw [Frame.take?_eq_none_iff]
    intro hd hpeek
    rw [begun, Header.peek?, if_pos ⟨rfl, rfl⟩] at hpeek
    obtain rfl := Option.some.inj hpeek
    have hlong :
        Header.frameLength ⟨MessageClass.mga, MgaId.dbd, Bytes.read16 0xFF 0xFF⟩ = 65543 := by
      decide
    rw [hlong, length_begun]
    omega
  have hheld : held (begun rest) (begun rest) = begun rest :=
    if_neg fun hnil => List.cons_ne_nil _ _ hnil.1
  have hscan : scan (begun rest) = ([], begun rest) := scan_of_incomplete hnone
  simp only [push, Reassembler.empty, List.nil_append, hscan, hheld]

theorem push_acknowledgement : empty.push acknowledgement.bytes = ([acknowledgement], empty) := by
  have hscan := scan_bytes_append (f := acknowledgement) (by decide) []
  rw [List.append_nil, scan_nil] at hscan
  have hheld : held acknowledgement.bytes [] = [] := by decide
  simp only [push, Reassembler.empty, List.nil_append, hscan, hheld]

/-- Behind a frame comes all of the longest one but its last byte: as many bytes are held
back as can be. -/
theorem push_quiescent_begun :
    let almost := begun (List.replicate 65536 0)
    (empty.push acknowledgement.bytes).1 = [acknowledgement] ∧
      Frame.parse? acknowledgement.bytes = some acknowledgement ∧
      ((empty.after [acknowledgement.bytes]).push almost).2.pending.length = 65542 ∧
      ((empty.after [acknowledgement.bytes]).push almost).2.Quiescent := by
  intro almost
  have hfirst := push_quiescent [] acknowledgement.bytes
  have hgiven : (empty.push acknowledgement.bytes).1 = [acknowledgement] := by
    rw [push_acknowledgement]
  have hafter : empty.after [acknowledgement.bytes] = empty :=
    congrArg Prod.snd push_acknowledgement
  refine ⟨hgiven, hfirst.1 _ ?_, ?_, (push_quiescent [acknowledgement.bytes] almost).2⟩
  · exact hgiven ▸ List.mem_singleton.2 rfl
  · rw [hafter, push_begun (by rw [List.length_replicate]; omega), length_begun,
      List.length_replicate]

end Reassembler

end GnssAiding
