/-
Reassembly sees where the serial bytes were cut in one place only: behind a frame
whose last byte is the first sync character.

The bytes that a scan leaves over are all that it has to remember: scanning them
with what comes next finds the frames that scanning everything at once would
have found behind those already given out (`scan_append`). A cut may fall
inside the sync pair, the header, the payload or the checksum of a frame, or
between a wrong checksum and the frame behind it; none of these is a case of
its own, because the scan keeps the whole of whatever it cannot decide yet.

But more is held back than the scan leaves over: at the end of a buffer the last byte of a
frame that has been given out is kept if it is the first sync character (`EndsInSync`). It
does no harm unless the next byte is the second one; then the two are taken for the
beginning of a frame, which in the stream they are not (`cuts_unseen_iff`).

So what is found in a stream is a matter of the stream alone where intact frames stand in
it among text that neither holds the first sync character nor begins with the second one
(`Carries`): they are what is found, whatever their payloads and checksums look like
(`pushAll_of_carries`).
-/
import GnssAiding.Frame.Reassembler
import Mathlib.Data.List.Basic

namespace GnssAiding

/-- What follows a frame does not change how it is read. -/
theorem Frame.take?_append {data rest : Bytes} {f : Frame} (h : take? data = some (f, rest))
    (more : Bytes) : take? (data ++ more) = some (f, rest ++ more) := by
  rw [eq_of_take? h, List.append_assoc, take?_bytes]

namespace Reassembler

/-! ## One byte at a time -/

/-- A byte that begins no sync pair is dropped, whatever follows. -/
theorem scan_cons_of_not_sync {b c : UInt8} {rest : Bytes} (h : ¬ (b = sync1 ∧ c = sync2)) :
    scan (b :: c :: rest) = scan (c :: rest) := by
  rw [scan, if_neg h]

theorem scan_cons_of_ne {b : UInt8} (hb : b ≠ sync1) (more : Bytes) :
    scan (b :: more) = scan more := by
  cases more with
  | nil => simp only [scan, if_neg hb]
  | cons c rest => exact scan_cons_of_not_sync fun h => hb h.1

/-- A frame with a right checksum is given out. -/
theorem scan_of_intact {rest tail : Bytes} {f : Frame}
    (h : Frame.take? (sync1 :: sync2 :: rest) = some (f, tail)) (hf : f.intact = true) :
    scan (sync1 :: sync2 :: rest) = (f :: (scan tail).1, (scan tail).2) := by
  rw [scan, if_pos ⟨rfl, rfl⟩]
  split
  · next hn => rw [h] at hn; cases hn
  · next g tail' hg =>
    rw [h] at hg
    cases hg
    rw [if_pos hf]

/-- A frame with a wrong checksum is given up after its first byte. -/
theorem scan_of_damaged {rest tail : Bytes} {f : Frame}
    (h : Frame.take? (sync1 :: sync2 :: rest) = some (f, tail)) (hf : ¬ f.intact = true) :
    scan (sync1 :: sync2 :: rest) = scan (sync2 :: rest) := by
  rw [scan, if_pos ⟨rfl, rfl⟩]
  split
  · next hn => rw [h] at hn; cases hn
  · next g tail' hg =>
    rw [h] at hg
    cases hg
    rw [if_neg hf]

/-! ## A cut in the stream -/

/-- **Scanning in two goes.** What is held back at the cut stands for all
that came before it. -/
theorem scan_append (data more : Bytes) :
    scan (data ++ more) =
      ((scan data).1 ++ (scan ((scan data).2 ++ more)).1, (scan ((scan data).2 ++ more)).2) := by
  fun_induction scan data with
  | case1 => rfl
  | case2 b =>
    by_cases hb : b = sync1
    · simp only [if_pos hb, List.nil_append]
    · simp only [if_neg hb, List.nil_append, List.cons_append]
      exact scan_cons_of_ne hb more
  | case3 b c rest hs hnone => rfl
  | case4 b c rest hs f tail htake hf fs pending hscan ih =>
    obtain ⟨rfl, rfl⟩ := hs
    rw [hscan] at ih
    rw [List.cons_append, List.cons_append,
      scan_of_intact (by simpa using Frame.take?_append htake more) hf, ih]
    rfl
  | case5 b c rest hs f tail htake hf ih =>
    obtain ⟨rfl, rfl⟩ := hs
    rw [← ih, List.cons_append, List.cons_append]
    exact scan_of_damaged (by simpa using Frame.take?_append htake more) hf
  | case6 b c rest hs ih =>
    rw [← ih, List.cons_append, List.cons_append]
    exact scan_cons_of_not_sync hs

/-- What is held back holds no frame yet and is held back again. -/
theorem scan_pending (data : Bytes) : scan (scan data).2 = ([], (scan data).2) := by
  have h := scan_append data []
  simp only [List.append_nil] at h
  have h₁ := congrArg Prod.fst h
  have h₂ := congrArg Prod.snd h
  simp only [List.self_eq_append_right] at h₁ h₂
  exact Prod.ext h₁ h₂.symm

/-! ## What is held back -/

/-- The data ends with a frame that is given out, and this frame ends with the first sync
character: nothing is left over, not even the last byte, and yet that is one. -/
def EndsInSync (data : Bytes) : Prop := (scan data).2 = [] ∧ data.getLast? = some sync1

theorem held_of_endsInSync {data : Bytes} (h : EndsInSync data) :
    held data (scan data).2 = [sync1] := if_pos h

theorem held_of_not_endsInSync {data : Bytes} (h : ¬ EndsInSync data) :
    held data (scan data).2 = (scan data).2 := if_neg h

theorem scan_nil : scan [] = ([], []) := by rw [scan]

theorem not_endsInSync_nil : ¬ EndsInSync [] := fun h => by cases h.2

theorem scan_held (data : Bytes) :
    scan (held data (scan data).2) = ([], held data (scan data).2) := by
  by_cases h : EndsInSync data
  · rw [held_of_endsInSync h, scan, if_pos rfl]
  · rw [held_of_not_endsInSync h, scan_pending]

/-- What is held back is scanned with the next bytes like what is left over, as long as
these do not turn the end of a frame into a sync pair. -/
theorem scan_held_append {data more : Bytes} (hmore : more ≠ [])
    (h : EndsInSync data → more.head? ≠ some sync2) :
    scan (held data (scan data).2 ++ more) = scan ((scan data).2 ++ more) := by
  by_cases hdata : EndsInSync data
  · obtain ⟨c, rest, rfl⟩ := List.exists_cons_of_ne_nil hmore
    have hc : c ≠ sync2 := fun heq => h hdata (congrArg some heq)
    rw [held_of_endsInSync hdata, hdata.1]
    exact scan_cons_of_not_sync fun hs => hc hs.2
  · rw [held_of_not_endsInSync hdata]

/-- More bytes end the buffer as they end what was held back of it. -/
theorem held_append {data more : Bytes} (hmore : more ≠ []) (front rest : Bytes) :
    held (front ++ more) rest = held (data ++ more) rest := by
  simp only [held, List.getLast?_append_of_ne_nil _ hmore]

/-! ## Pushes -/

/-- The reassembler is at rest: it holds back nothing it could give out. -/
def AtRest (r : Reassembler) : Prop := scan r.pending = ([], r.pending)

theorem AtRest.empty : AtRest empty := scan_nil

theorem AtRest.push (r : Reassembler) (data : Bytes) : AtRest (r.push data).2 :=
  scan_held (r.pending ++ data)

/-- A reassembler at rest holds back no end of a frame that it could take for one itself. -/
theorem AtRest.not_endsInSync {r : Reassembler} (h : r.AtRest) : ¬ EndsInSync r.pending := by
  intro hsync
  have hnil : r.pending = [] := by rw [← hsync.1, h]
  rw [hnil] at hsync
  exact not_endsInSync_nil hsync

theorem push_nil {r : Reassembler} (h : r.AtRest) : r.push [] = ([], r) := by
  have hheld := held_of_not_endsInSync h.not_endsInSync
  have hscan : scan r.pending = ([], r.pending) := h
  rw [hscan] at hheld
  simp only [push, List.append_nil, hscan, hheld]

/-- Two pushes are one push of both pieces, unless the cut makes the end of a frame the first
half of a sync pair. -/
theorem push_append {r : Reassembler} {data more : Bytes}
    (h : EndsInSync (r.pending ++ data) → more.head? ≠ some sync2) :
    r.push (data ++ more) =
      ((r.push data).1 ++ ((r.push data).2.push more).1, ((r.push data).2.push more).2) := by
  by_cases hmore : more = []
  · rw [hmore, push_nil (AtRest.push r data), List.append_nil, List.append_nil]
  · have hscan := scan_append (r.pending ++ data) more
    rw [← scan_held_append hmore h, List.append_assoc] at hscan
    simp only [push, hscan]
    rw [← List.append_assoc, held_append hmore]

/-- An end of a frame that is seen behind held back bytes is seen behind the whole of them. -/
theorem EndsInSync.of_held_append {data more : Bytes}
    (h : EndsInSync data → more.head? ≠ some sync2)
    (hsync : EndsInSync (held data (scan data).2 ++ more)) : EndsInSync (data ++ more) := by
  by_cases hmore : more = []
  · rw [hmore, List.append_nil] at hsync
    exact absurd hsync (AtRest.not_endsInSync (r := ⟨_⟩) (scan_held data))
  · obtain ⟨hleft, hlast⟩ := hsync
    rw [scan_held_append hmore h] at hleft
    rw [List.getLast?_append_of_ne_nil _ hmore] at hlast
    exact ⟨by rw [scan_append, hleft], by rw [List.getLast?_append_of_ne_nil _ hmore, hlast]⟩

theorem after_concat (r : Reassembler) (chunks : List Bytes) (data : Bytes) :
    r.after (chunks ++ [data]) = ((r.after chunks).push data).2 := by
  simp only [after, List.foldl_append, List.foldl_cons, List.foldl_nil]

/-- No piece begins with the second sync character behind an end of a frame that is the
first one. Here `front` stands in front of the pieces. -/
def CutsApart (front : Bytes) (chunks : List Bytes) : Prop :=
  ∀ i, EndsInSync (front ++ (chunks.take i).flatten) → (chunks.drop i).flatten.head? ≠ some sync2

namespace CutsApart

variable {front chunk : Bytes} {chunks : List Bytes}

theorem head (h : CutsApart front (chunk :: chunks)) :
    EndsInSync (front ++ chunk) → chunks.flatten.head? ≠ some sync2 := by
  have := h 1
  simpa using this

/-- Behind the first piece the cuts stay apart, whether its end is held back or not. -/
theorem tail (h : CutsApart front (chunk :: chunks)) :
    CutsApart (held (front ++ chunk) (scan (front ++ chunk)).2) chunks := by
  intro i hsync
  by_cases hmore : (chunks.take i).flatten = []
  · rw [hmore, List.append_nil] at hsync
    exact absurd hsync (AtRest.not_endsInSync (r := ⟨_⟩) (scan_held _))
  · have hhead : (chunks.take i).flatten.head? = chunks.flatten.head? := by
      rw [← List.take_append_drop i chunks, List.flatten_append,
        List.head?_append_of_ne_nil _ hmore, List.take_append_drop]
    have hwhole := hsync.of_held_append (by rw [hhead]; exact h.head)
    refine h (i + 1) ?_
    rwa [List.take_succ_cons, List.flatten_cons, ← List.append_assoc]

/-- One more piece may follow where the others do not end in such a frame. -/
theorem concat (h : CutsApart front chunks) (hend : ¬ EndsInSync (front ++ chunks.flatten))
    (more : Bytes) : CutsApart front (chunks ++ [more]) := by
  intro i hsync
  rcases Nat.lt_or_ge chunks.length i with hi | hi
  · rw [List.drop_eq_nil_of_le (by rw [List.length_append]; exact hi)]
    exact fun hnone => by cases hnone
  · rw [List.take_append_of_le_length hi] at hsync
    rw [List.drop_append_of_le_length hi, List.flatten_append]
    by_cases hrest : (chunks.drop i).flatten = []
    · have hall : (chunks.take i).flatten = chunks.flatten := by
        conv => rhs; rw [← List.take_append_drop i chunks, List.flatten_append, hrest,
          List.append_nil]
      rw [hall] at hsync
      exact absurd hsync hend
    · rw [List.head?_append_of_ne_nil _ hrest]
      exact h i hsync

end CutsApart

/-- Where the cuts are apart, any number of pushes are one push of all pieces. -/
theorem AtRest.pushAll {r : Reassembler} (h : r.AtRest) {chunks : List Bytes}
    (hcuts : CutsApart r.pending chunks) :
    (r.pushAll chunks).flatMap (·.1) = (r.push chunks.flatten).1 ∧
      r.after chunks = (r.push chunks.flatten).2 := by
  induction chunks generalizing r with
  | nil => simp [Reassembler.pushAll, after, push_nil h]
  | cons chunk chunks ih =>
    obtain ⟨hframes, hafter⟩ := ih (AtRest.push r chunk) hcuts.tail
    simp only [Reassembler.pushAll, List.flatMap_cons, List.flatten_cons, push_append hcuts.head]
    exact ⟨by rw [hframes], hafter⟩

/-- Pushing the pieces of a stream one after another into an empty reassembler gives, in
all, the frames that one push of the whole stream gives, and leaves as many bytes held back. -/
def Unseen (chunks : List Bytes) : Prop :=
  (empty.pushAll chunks).flatMap (·.1) = (empty.push chunks.flatten).1 ∧
    (empty.after chunks).pending.length = (empty.push chunks.flatten).2.pending.length

theorem unseen_of_cutsApart {chunks : List Bytes} (h : CutsApart [] chunks) : Unseen chunks := by
  obtain ⟨hframes, hafter⟩ := AtRest.empty.pushAll h
  exact ⟨hframes, by rw [hafter]⟩

/-! ## Frames among other text -/

/-- Text without the first sync character is dropped, whatever follows. -/
theorem scan_quiet_append {gap : Bytes} (h : sync1 ∉ gap) (more : Bytes) :
    scan (gap ++ more) = scan more := by
  induction gap with
  | nil => rfl
  | cons b gap ih =>
    have hb : b ≠ sync1 := fun heq => h (heq ▸ List.mem_cons_self)
    have hgap : sync1 ∉ gap := fun hmem => h (List.mem_cons_of_mem b hmem)
    rw [List.cons_append, scan_cons_of_ne hb, ih hgap]

theorem scan_quiet {gap : Bytes} (h : sync1 ∉ gap) : scan gap = ([], []) := by
  rw [← List.append_nil gap, scan_quiet_append h, scan_nil]

/-- An intact frame is given out as a whole: what its payload and its checksum look
like is not looked at. -/
theorem scan_bytes_append {f : Frame} (h : f.intact = true) (more : Bytes) :
    scan (f.bytes ++ more) = (f :: (scan more).1, (scan more).2) :=
  scan_of_intact (f.take?_bytes more) h

/-- A sync pair that begins no complete frame keeps all that follows. -/
theorem scan_of_incomplete {rest : Bytes} (h : Frame.take? (sync1 :: sync2 :: rest) = none) :
    scan (sync1 :: sync2 :: rest) = ([], sync1 :: sync2 :: rest) := by
  rw [scan, if_pos ⟨rfl, rfl⟩]
  split
  · rfl
  · next f tail hf =>
    rw [h] at hf
    cases hf

/-! ## One cut -/

/-- An acknowledgement. -/
def acknowledgement : Frame := .sealed MessageClass.ack AckId.ack [0x06, 0x23] (by decide)

/-- The receiver has taken a message about a BeiDou satellite; its last byte is a first sync
character. -/
def taken : Frame :=
  .sealed MessageClass.mga MgaId.ack [0x01, 0x00, 0x00, 0x03, 0x01, 0x00, 0x23, 0x00] (by decide)

theorem scan_taken : scan taken.bytes = ([taken], []) := by
  have h : scan (taken.bytes ++ []) = (taken :: (scan []).1, (scan []).2) :=
    scan_bytes_append (by decide) []
  rwa [List.append_nil, scan_nil] at h

theorem endsInSync_taken : EndsInSync taken.bytes := ⟨by rw [scan_taken], by decide⟩

/-- A second sync character behind the end of a frame that is the first one is held back with
it, where in the stream it is dropped. -/
theorem not_unseen_of_endsInSync {chunks : List Bytes} (h : CutsApart [] chunks)
    (hsync : EndsInSync chunks.flatten) : ¬ Unseen (chunks ++ [[sync2]]) := by
  rintro ⟨-, hpending⟩
  have htwo : (empty.after (chunks ++ [[sync2]])).pending = [sync1, sync2] := by
    have hafter : (empty.after chunks).pending = [sync1] := by
      rw [(AtRest.empty.pushAll h).2]
      exact held_of_endsInSync hsync
    have hpair : scan [sync1, sync2] = ([], [sync1, sync2]) := scan_of_incomplete rfl
    simp only [after_concat, push, hafter, List.cons_append, List.nil_append, hpair]
    rfl
  have hnone : (empty.push (chunks.flatten ++ [sync2])).2.pending = [] := by
    have hquiet : scan [sync2] = ([], []) := scan_quiet (by decide)
    have hlast : (chunks.flatten ++ [sync2]).getLast? = some sync2 := List.getLast?_concat
    simp only [push, Reassembler.empty, List.nil_append, scan_append, hsync.1, hquiet, held, hlast]
    rfl
  rw [List.flatten_append, List.flatten_singleton, hnone, htwo] at hpending
  cases hpending

/-- **Reassembly sees a cut behind the end of a frame that is the first sync character, and no
other.** Cut a stream into pieces none of which begins with the second sync character
behind a frame that is given out and ends with the first one. Pushing the pieces one after
another gives the frames of the whole stream then, and leaves as many bytes held back. One
more cut goes unseen as well, whatever comes behind it, if and only if the pieces do not end
in such a frame. -/
theorem cuts_unseen_iff {chunks : List Bytes}
    (h : ∀ i, EndsInSync (chunks.take i).flatten → (chunks.drop i).flatten.head? ≠ some sync2) :
    Unseen chunks ∧
      ((∀ more, Unseen (chunks ++ [more])) ↔ ¬ EndsInSync chunks.flatten) := by
  have hcuts : CutsApart [] chunks := h
  refine ⟨unseen_of_cutsApart hcuts, fun hunseen hsync => ?_, fun hend more => ?_⟩
  · exact not_unseen_of_endsInSync hcuts hsync (hunseen [sync2])
  · exact unseen_of_cutsApart (hcuts.concat hend more)

/-- The frame behind the one that ends with the first sync character is cut between its
own sync characters. -/
theorem cuts_unseen_iff_taken :
    let chunks := [taken.bytes, acknowledgement.bytes.take 1, acknowledgement.bytes.drop 1]
    EndsInSync taken.bytes ∧
      (∀ i, EndsInSync (chunks.take i).flatten →
        (chunks.drop i).flatten.head? ≠ some sync2) ∧ Unseen chunks ∧
      ∀ more, Unseen (chunks ++ [more]) := by
  intro chunks
  have hbegun : scan (taken.bytes ++ [sync1]) = ([taken], [sync1]) := by
    rw [scan_bytes_append (by decide), scan, if_pos rfl]
  have hcuts : ∀ i, EndsInSync (chunks.take i).flatten →
      (chunks.drop i).flatten.head? ≠ some sync2 := by
    intro i hsync
    rcases i with _ | _ | _ | i
    · exact absurd hsync not_endsInSync_nil
    · decide
    · have hleft : (scan (taken.bytes ++ [sync1])).2 = [] := hsync.1
      rw [hbegun] at hleft
      cases hleft
    · simp [chunks]
  have hlast : chunks.flatten.getLast? ≠ some sync1 := by decide
  have hend : ¬ EndsInSync chunks.flatten := fun hsync => hlast hsync.2
  obtain ⟨hunseen, hmore⟩ := cuts_unseen_iff hcuts
  exact ⟨endsInSync_taken, hcuts, hunseen, hmore.2 hend⟩

/-- Text that begins with the second sync character. -/
def byteText : Bytes := [0x62, 0x79, 0x74, 0x65, 0x73, 0x0D, 0x0A]

/-- Behind the frame that ends with the first sync character comes text that begins with
the second one, and in it the next frame, which a cut in front of the text loses from sight. -/
theorem cut_is_seen :
    let chunks := [taken.bytes, byteText ++ acknowledgement.bytes]
    (empty.pushAll chunks).flatMap (·.1) = [taken] ∧
      (empty.push chunks.flatten).1 = [taken, acknowledgement] ∧ ¬ Unseen chunks := by
  intro chunks
  have hcut : (empty.pushAll chunks).flatMap (·.1) = [taken] := by
    have hfalse : scan (sync1 :: (byteText ++ acknowledgement.bytes)) =
        ([], sync1 :: (byteText ++ acknowledgement.bytes)) := scan_of_incomplete (by decide)
    have hheld : held taken.bytes [] = [sync1] := by decide
    simp only [chunks, pushAll, push, Reassembler.empty, List.nil_append, scan_taken, hheld,
      List.cons_append, hfalse]
    rfl
  have hwhole : (empty.push chunks.flatten).1 = [taken, acknowledgement] := by
    have hflat : chunks.flatten = taken.bytes ++ (byteText ++ (acknowledgement.bytes ++ [])) := rfl
    simp only [push, Reassembler.empty, List.nil_append, hflat]
    rw [scan_bytes_append (by decide), scan_quiet_append (by decide),
      scan_bytes_append (by decide), scan_nil]
  refine ⟨hcut, hwhole, fun hunseen => ?_⟩
  have hframes := hunseen.1
  rw [hcut, hwhole] at hframes
  cases hframes

/-! ## Frames that are recovered -/

/-- Text between frames neither holds the first sync character nor begins with the second. -/
def Plain (gap : Bytes) : Prop := sync1 ∉ gap ∧ gap.head? ≠ some sync2

/-- The stream carries intact frames with plain text before, between and behind them. -/
inductive Carries : List Frame → Bytes → Prop
  | nil {gap : Bytes} (h : Plain gap) : Carries [] gap
  | cons {gap rest : Bytes} {f : Frame} {fs : List Frame} (h : Plain gap)
    (hf : f.intact = true) (hrest : Carries fs rest) :
    Carries (f :: fs) (gap ++ f.bytes ++ rest)

namespace Carries

variable {fs : List Frame} {data : Bytes}

/-- What is found is what the stream carries, and nothing is left over. -/
theorem scan_eq (h : Carries fs data) : scan data = (fs, []) := by
  induction h with
  | nil h => exact scan_quiet h.1
  | cons h hf _ ih =>
    rw [List.append_assoc, scan_quiet_append h.1, scan_bytes_append hf, ih]

theorem head?_ne (h : Carries fs data) : data.head? ≠ some sync2 := by
  cases h with
  | nil h => exact h.2
  | @cons gap rest f fs h =>
    cases gap with
    | nil => exact fun heq => absurd (Option.some.inj heq) (by decide : sync1 ≠ sync2)
    | cons b gap => exact h.2

end Carries

/-- A frame that has only begun is held back. -/
theorem scan_of_begun {f : Frame} {front behind : Bytes} (h : f.bytes = front ++ behind)
    (hfront : front ≠ []) (hbehind : behind ≠ []) : (scan front).2 = front := by
  match front, hfront with
  | [b], _ =>
    obtain ⟨rfl, -⟩ := List.cons.inj h
    rw [scan, if_pos rfl]
  | b :: c :: rest, _ =>
    obtain ⟨rfl, h'⟩ := List.cons.inj h
    obtain ⟨rfl, -⟩ := List.cons.inj h'
    have hnone : Frame.take? (sync1 :: sync2 :: rest) = none := by
      rw [Option.eq_none_iff_forall_ne_some]
      rintro ⟨g, tail⟩ hg
      have hwhole := Frame.take?_append hg behind
      rw [← h, ← List.append_nil f.bytes, Frame.take?_bytes] at hwhole
      exact hbehind (List.append_eq_nil_iff.1 (congrArg Prod.snd (Option.some.inj hwhole)).symm).2
    rw [scan_of_incomplete hnone]

theorem not_endsInSync_of_quiet {gap : Bytes} (h : sync1 ∉ gap) : ¬ EndsInSync gap :=
  fun hsync => h (List.mem_of_getLast? hsync.2)

/-- A cut inside a frame behind text is none behind a frame given out. -/
theorem not_endsInSync_of_begun {gap front behind : Bytes} {f : Frame} (hgap : sync1 ∉ gap)
    (h : f.bytes = front ++ behind) (hbehind : behind ≠ []) : ¬ EndsInSync (gap ++ front) := by
  intro hsync
  by_cases hfront : front = []
  · rw [hfront, List.append_nil] at hsync
    exact not_endsInSync_of_quiet hgap hsync
  · have hnone := hsync.1
    rw [scan_quiet_append hgap, scan_of_begun h hfront hbehind] at hnone
    exact hfront hnone

/-- Text and an intact frame in front change nothing about the end of what follows. -/
theorem endsInSync_behind {gap next : Bytes} {f : Frame} (hgap : sync1 ∉ gap)
    (hf : f.intact = true) (hnext : next ≠ []) (h : EndsInSync (gap ++ (f.bytes ++ next))) :
    EndsInSync next := by
  obtain ⟨hleft, hlast⟩ := h
  rw [scan_quiet_append hgap, scan_bytes_append hf] at hleft
  rw [← List.append_assoc, List.getLast?_append_of_ne_nil _ hnext] at hlast
  exact ⟨hleft, hlast⟩

/-- Behind a frame given out that ends with the first sync character, the second one never
follows in such a stream: what has begun to be a frame goes on to its end, and no text
begins with it. -/
theorem Carries.head?_behind {fs : List Frame} {data front behind : Bytes}
    (h : Carries fs data) (hdata : data = front ++ behind) (hsync : EndsInSync front) :
    behind.head? ≠ some sync2 := by
  induction h generalizing front with
  | @nil gap h =>
    have hquiet : sync1 ∉ front := fun hmem => h.1 (hdata ▸ List.mem_append_left _ hmem)
    exact absurd hsync (not_endsInSync_of_quiet hquiet)
  | @cons gap rest f fs h hf hrest ih =>
    -- The cut falls inside the text, inside the frame, or behind it.
    rw [List.append_assoc] at hdata
    rcases List.append_eq_append_iff.1 hdata with ⟨more, rfl, hmore⟩ | ⟨left, hgap, -⟩
    · rcases List.append_eq_append_iff.1 hmore with ⟨next, rfl, hnext⟩ | ⟨left, hbegun, hleft⟩
      · by_cases hnil : next = []
        · rw [hnil, List.nil_append] at hnext
          exact hnext ▸ hrest.head?_ne
        · exact ih hnext (endsInSync_behind h.1 hf hnil hsync)
      · by_cases hnil : left = []
        · rw [hnil, List.nil_append] at hleft
          exact hleft ▸ hrest.head?_ne
        · exact absurd hsync (not_endsInSync_of_begun h.1 hbegun hnil)
    · have hquiet : sync1 ∉ front := fun hmem => h.1 (hgap ▸ List.mem_append_left _ hmem)
      exact absurd hsync (not_endsInSync_of_quiet hquiet)

/-- **Reassembly recovers the frames that were sent.** However a stream is cut that carries
intact frames among plain text, pushing the pieces into an empty reassembler gives these
frames in order and no other. -/
theorem pushAll_of_carries {fs : List Frame} {chunks : List Bytes}
    (h : Carries fs chunks.flatten) : (empty.pushAll chunks).flatMap (·.1) = fs := by
  have hcuts : CutsApart [] chunks := fun i hsync =>
    h.head?_behind (by rw [List.nil_append, ← List.flatten_append, List.take_append_drop]) hsync
  have hpush : (empty.push chunks.flatten).1 = fs := by
    simp only [push, Reassembler.empty, List.nil_append, h.scan_eq]
  exact (AtRest.empty.pushAll hcuts).1.trans hpush

/-- A frame with the whole of another one for a payload. -/
def envelope : Frame := .sealed 0x01 0x07 acknowledgement.bytes (by decide)

/-- The payload of the first frame is a frame, the second one ends with the first sync
character, and the cuts fall between two sync characters, behind the second frame and
into a checksum. -/
theorem pushAll_of_carries_envelope :
    let chunks := [[0x24, 0x0D] ++ envelope.bytes.take 1, envelope.bytes.drop 1 ++ taken.bytes,
      [0x0A, 0x62] ++ acknowledgement.bytes.take 9, acknowledgement.bytes.drop 9]
    Carries [envelope, taken, acknowledgement] chunks.flatten ∧
      (empty.pushAll chunks).flatMap (·.1) = [envelope, taken, acknowledgement] := by
  intro chunks
  have hcut : chunks.flatten = [0x24, 0x0D] ++ envelope.bytes ++ ([] ++ taken.bytes ++
      ([0x0A, 0x62] ++ acknowledgement.bytes ++ [])) := by decide
  have hcarries : Carries [envelope, taken, acknowledgement] chunks.flatten := by
    rw [hcut]
    exact .cons ⟨by decide, by decide⟩ (by decide) (.cons ⟨by decide, by decide⟩ (by decide)
      (.cons ⟨by decide, by decide⟩ (by decide) (.nil ⟨by decide, by decide⟩)))
  exact ⟨hcarries, pushAll_of_carries hcarries⟩

end Reassembler

end GnssAiding
