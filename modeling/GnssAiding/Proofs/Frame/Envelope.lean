/-
The header alone tells whether a string begins with a complete frame: it does when it is as
long as its header announces (`take?_eq_none_iff`), and then these bytes are the frame, with
this header (`take?_of_peek?`). No header announces more than 65543 bytes, so a string that is
as long and begins with the sync characters begins with a frame.
-/
import GnssAiding.Proofs.Frame.Codec

namespace GnssAiding

/-- The length of the longest frame. -/
def Frame.maxLength : Nat := 65543

theorem Header.frameLength_le (h : Header) : h.frameLength ≤ Frame.maxLength := by
  have := h.payloadLength.toNat_lt
  simp only [frameLength, Frame.maxLength]
  omega

namespace Frame

theorem frameLength_header (f : Frame) : f.header.frameLength = f.length := by
  rw [Header.frameLength, toNat_payloadLength, length]

theorem peek?_bytes (f : Frame) (rest : Bytes) :
    Header.peek? (f.bytes ++ rest) = some f.header := by
  have hlen : Bytes.read16 (UInt8.ofNat (UInt16.ofNat f.payload.length).toNat)
      (UInt8.ofNat ((UInt16.ofNat f.payload.length).toNat / 256)) =
        UInt16.ofNat f.payload.length := Bytes.read16_le16 _
  simp only [bytes, body, Bytes.le16, List.cons_append, Header.peek?, and_self, if_true, hlen,
    header]

theorem peek?_whole (f : Frame) : Header.peek? f.bytes = some f.header := by
  simpa using peek?_bytes f []

/-- A string that is as long as its header announces begins with a frame. -/
theorem exists_take?_of_peek? {data : Bytes} {h : Header} (hpeek : Header.peek? data = some h)
    (hlong : h.frameLength ≤ data.length) : ∃ f rest, take? data = some (f, rest) := by
  unfold Header.peek? at hpeek
  split at hpeek
  · next s t cls id l0 l1 tail =>
    split at hpeek
    · next hs =>
      obtain rfl := Option.some.inj hpeek
      have hroom : 2 ≤ (tail.drop (Bytes.read16 l0 l1).toNat).length := by
        simp only [Header.frameLength, List.length_cons] at hlong
        rw [List.length_drop]
        omega
      simp only [take?, if_pos hs]
      split
      · exact ⟨_, _, rfl⟩
      · next hshort =>
        rcases htail : tail.drop (Bytes.read16 l0 l1).toNat with _ | ⟨a, _ | ⟨b, rest⟩⟩
        · rw [htail] at hroom
          cases hroom
        · rw [htail] at hroom
          exact absurd hroom (Nat.not_succ_le_self 1)
        · exact absurd htail (hshort a b rest)
    · cases hpeek
  · cases hpeek

/-- These bytes are the frame. -/
theorem take?_of_peek? {data : Bytes} {h : Header} (hpeek : Header.peek? data = some h)
    (hlong : h.frameLength ≤ data.length) :
    ∃ f, take? data = some (f, data.drop h.frameLength) ∧ f.header = h ∧
      f.bytes = data.take h.frameLength := by
  obtain ⟨f, rest, htake⟩ := exists_take?_of_peek? hpeek hlong
  have hdata := eq_of_take? htake
  rw [hdata, peek?_bytes] at hpeek
  obtain rfl := Option.some.inj hpeek
  have hlen : f.bytes.length = f.header.frameLength := by
    rw [length_bytes, frameLength_header]
  refine ⟨f, ?_, rfl, ?_⟩
  · rw [hdata, List.drop_left' hlen, ← hdata, htake]
  · rw [hdata, List.take_left' hlen]

theorem take?_eq_none_iff {data : Bytes} :
    take? data = none ↔ ∀ h, Header.peek? data = some h → data.length < h.frameLength := by
  constructor
  · intro hnone h hpeek
    refine Nat.lt_of_not_le fun hlong => ?_
    obtain ⟨f, rest, htake⟩ := exists_take?_of_peek? hpeek hlong
    rw [hnone] at htake
    cases htake
  · intro hshort
    rw [Option.eq_none_iff_forall_ne_some]
    rintro ⟨f, rest⟩ htake
    have hdata := eq_of_take? htake
    have hlt := hshort f.header (by rw [hdata, peek?_bytes])
    rw [hdata, List.length_append, length_bytes, frameLength_header] at hlt
    omega

/-- Nothing that begins with a frame is left where none can be taken. -/
theorem take?_eq_none_iff_not_prefix {data : Bytes} :
    take? data = none ↔ ∀ f : Frame, ¬ f.bytes <+: data := by
  rw [Option.eq_none_iff_forall_ne_some]
  constructor
  · rintro hnone f ⟨rest, rfl⟩
    exact hnone (f, rest) (take?_bytes f rest)
  · rintro hprefix ⟨f, rest⟩ htake
    exact hprefix f ⟨rest, (eq_of_take? htake).symm⟩

/-- Behind sync characters, all of the longest frame is a frame. -/
theorem length_lt_of_take?_eq_none {rest : Bytes} (h : take? (sync1 :: sync2 :: rest) = none) :
    (sync1 :: sync2 :: rest).length < maxLength := by
  refine Nat.lt_of_not_le fun hlong => ?_
  have hroom : 4 ≤ rest.length := by
    simp only [maxLength, List.length_cons] at hlong
    omega
  match rest, hroom with
  | cls :: id :: l0 :: l1 :: tail, _ =>
    have hpeek : Header.peek? (sync1 :: sync2 :: cls :: id :: l0 :: l1 :: tail) =
        some ⟨cls, id, Bytes.read16 l0 l1⟩ := by rw [Header.peek?, if_pos ⟨rfl, rfl⟩]
    have hlt := take?_eq_none_iff.1 h _ hpeek
    exact absurd (Nat.le_trans (Header.frameLength_le _) hlong) (Nat.not_le.2 hlt)

end Frame

end GnssAiding
