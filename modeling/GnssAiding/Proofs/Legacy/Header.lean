/-
The header of a legacy file is read and written at the same places.

`Header.layout` puts the fields one behind the other. What is written over zeros, each field at
its place, is that (`encode_eq_layout`), and so are the first bytes of any data that is
long enough, with the fields that are read there (`take_eq_layout`). Fields one behind the other
tell each one (`layout_injective`), so what is read in written bytes is what was written.
-/
import GnssAiding.Legacy.Header

namespace GnssAiding

namespace Bytes

theorem le16_injective {v w : UInt16} (h : le16 v = le16 w) : v = w := by
  simp only [le16, List.cons.injEq, and_true] at h
  rw [← read16_le16 v, ← read16_le16 w, h.1, h.2]

theorem le32_injective {v w : UInt32} (h : le32 v = le32 w) : v = w := by
  simp only [le32, List.cons.injEq, and_true] at h
  obtain ⟨h0, h1, h2, h3⟩ := h
  rw [← read32_le32 v, ← read32_le32 w, h0, h1, h2, h3]

theorem length_flatMap_le16 (ws : List UInt16) : (ws.flatMap le16).length = 2 * ws.length := by
  induction ws with
  | nil => rfl
  | cons w ws ih =>
    rw [List.flatMap_cons, List.length_append, length_le16, ih, List.length_cons]
    omega

theorem flatMap_le16_injective {vs ws : List UInt16} (h : vs.flatMap le16 = ws.flatMap le16) :
    vs = ws := by
  induction vs generalizing ws with
  | nil =>
    cases ws with
    | nil => rfl
    | cons w ws => cases h
  | cons v vs ih =>
    cases ws with
    | nil => cases h
    | cons w ws =>
      obtain ⟨hfirst, hrest⟩ := List.append_inj h rfl
      rw [le16_injective hfirst, ih hrest]

/-- Words that are read one behind the other are the bytes that hold them. -/
theorem flatMap_le16_ofFn {n start : Nat} {data : Bytes}
    (h : ∀ i : Fin n, start + 2 * i + 2 ≤ data.length) :
    (List.ofFn fun i : Fin n => data.word16 (start + 2 * i) (h i)).flatMap le16 =
      extract start (2 * n) data := by
  induction n generalizing start with
  | zero => simp [extract]
  | succ n ih =>
    have hnext : ∀ i : Fin n, start + 2 + 2 * i + 2 ≤ data.length := by
      intro i
      have := h i.succ
      simp only [Fin.val_succ] at this
      omega
    have hshift : (fun i : Fin n => data.word16 (start + 2 * i.succ) (h i.succ)) =
        fun i : Fin n => data.word16 (start + 2 + 2 * i) (hnext i) := by
      funext i
      congr 1
      simp only [Fin.val_succ]
      omega
    rw [List.ofFn_succ, List.flatMap_cons, le16_word16, hshift, ih hnext]
    have hlen : 2 * (n + 1) = 2 + 2 * n := by omega
    rw [hlen, ← extract_append_extract]
    rfl

/-- What is written behind bytes that are there takes the place of as many zeros. -/
theorem overwrite_blank {front fresh : Bytes} {start : Nat} (h : front.length = start) (n : Nat) :
    overwrite start fresh (front ++ List.replicate n 0) =
      front ++ fresh ++ List.replicate (n - fresh.length) 0 := by
  rw [← h, overwrite, List.take_left, List.drop_length_add_append, List.drop_replicate]

end Bytes

namespace Legacy.Header

/-- The fields of a header one behind the other. -/
def layout (h : Header) : Bytes :=
  Bytes.le32 h.magic ++ h.offsets.flatMap Bytes.le16 ++ Bytes.le32 h.size ++
    Bytes.le32 h.completed ++ Bytes.le32 h.tow ++ Bytes.le16 h.wno ++ Bytes.le16 h.duration

theorem length_layout (h : Header) : h.layout.length = headerLength := by
  simp only [layout, List.length_append, Bytes.length_le32, Bytes.length_le16,
    Bytes.length_flatMap_le16, h.length_offsets, headerLength]

theorem layout_injective {h g : Header} (heq : h.layout = g.layout) : h = g := by
  obtain ⟨heq, hduration⟩ := List.append_inj' heq rfl
  obtain ⟨heq, hwno⟩ := List.append_inj' heq rfl
  obtain ⟨heq, htow⟩ := List.append_inj' heq rfl
  obtain ⟨heq, hcompleted⟩ := List.append_inj' heq rfl
  obtain ⟨heq, hsize⟩ := List.append_inj' heq rfl
  obtain ⟨hmagic, hoffsets⟩ := List.append_inj heq rfl
  obtain ⟨magic, offsets, size, completed, tow, wno, duration, hlen⟩ := h
  obtain ⟨magic', offsets', size', completed', tow', wno', duration', hlen'⟩ := g
  simp only [Header.mk.injEq]
  exact ⟨Bytes.le32_injective hmagic, Bytes.flatMap_le16_injective hoffsets,
    Bytes.le32_injective hsize, Bytes.le32_injective hcompleted, Bytes.le32_injective htow,
    Bytes.le16_injective hwno, Bytes.le16_injective hduration⟩

/-! ## Writing -/

/-- Offsets are written one behind the other. -/
theorem foldl_overwrite_blank (ws : List UInt16) {k : Nat} {front : Bytes}
    (h : front.length = offsetPlace k) (n : Nat) :
    (ws.zipIdx k).foldl (fun out p => Bytes.overwrite (offsetPlace p.2) (Bytes.le16 p.1) out)
        (front ++ List.replicate n 0) =
      front ++ ws.flatMap Bytes.le16 ++ List.replicate (n - 2 * ws.length) 0 := by
  induction ws generalizing k front n with
  | nil => simp
  | cons w ws ih =>
    have hnext : (front ++ Bytes.le16 w).length = offsetPlace (k + 1) := by
      rw [List.length_append, h, Bytes.length_le16, offsetPlace, offsetPlace]
      omega
    have hleft : n - 2 - 2 * ws.length = n - 2 * (w :: ws).length := by
      rw [List.length_cons]
      omega
    rw [List.zipIdx_cons, List.foldl_cons, Bytes.overwrite_blank h, ih hnext,
      List.flatMap_cons, List.append_assoc front, Bytes.length_le16, hleft]

/-- The fields are written one behind the other. -/
theorem encode_eq_layout (h : Header) : h.encode = h.layout := by
  have hmagic : Bytes.overwrite magicPlace (Bytes.le32 h.magic) (List.replicate headerLength 0) =
      Bytes.le32 h.magic ++ List.replicate 80 0 :=
    Bytes.overwrite_blank List.length_nil headerLength
  have hwords : (Bytes.le32 h.magic ++ h.offsets.flatMap Bytes.le16).length = sizePlace := by
    rw [List.length_append, Bytes.length_flatMap_le16, h.length_offsets, Bytes.length_le32]
    rfl
  simp only [encode, layout]
  rw [hmagic, foldl_overwrite_blank h.offsets rfl, h.length_offsets, Bytes.overwrite_blank hwords,
    Bytes.overwrite_blank, Bytes.overwrite_blank, Bytes.overwrite_blank, Bytes.overwrite_blank]
  · exact List.append_nil _
  all_goals
    simp only [List.length_append, hwords, Bytes.length_le32, Bytes.length_le16]
    rfl

/-! ## Reading -/

/-- The first bytes of long enough data are the fields that are read there. -/
theorem take_eq_layout {data : Bytes} (h : headerLength ≤ data.length) :
    data.take headerLength = (read data h).layout := by
  have hoffsets : (read data h).offsets.flatMap Bytes.le16 = Bytes.extract 4 64 data :=
    Bytes.flatMap_le16_ofFn _
  have hjoin := fun start m n => Bytes.extract_append_extract start m n data
  calc data.take headerLength
    _ = Bytes.extract 0 84 data := rfl
    _ = Bytes.extract 0 4 data ++ Bytes.extract 4 64 data ++ Bytes.extract 68 4 data ++
          Bytes.extract 72 4 data ++ Bytes.extract 76 4 data ++ Bytes.extract 80 2 data ++
          Bytes.extract 82 2 data := by
        rw [hjoin 0 4 64, hjoin 0 68 4, hjoin 0 72 4, hjoin 0 76 4, hjoin 0 80 2, hjoin 0 82 2]
    _ = (read data h).layout := by
        rw [layout, hoffsets]
        simp only [read, Bytes.le32_word32, Bytes.le16_word16]
        rfl

/-! ## Both -/

theorem length_encode (h : Header) : h.encode.length = headerLength := by
  rw [encode_eq_layout, length_layout]

/-- What is read in written bytes is what was written, whatever follows. -/
theorem read_encode (h : Header) (rest : Bytes)
    (hlong : headerLength ≤ (h.encode ++ rest).length) : read (h.encode ++ rest) hlong = h := by
  apply layout_injective
  rw [← take_eq_layout hlong, List.take_left' h.length_encode, encode_eq_layout]

theorem parse_encode (h : Header) (rest : Bytes) :
    parse (h.encode ++ rest) =
      if h.magic = Legacy.magic then .ok h else .error .badData := by
  have hlong : headerLength ≤ (h.encode ++ rest).length := by
    rw [List.length_append, length_encode]
    omega
  rw [parse_of_long hlong, read_encode]

theorem encode_read {data : Bytes} (h : headerLength ≤ data.length) :
    (read data h).encode = data.take headerLength := by
  rw [encode_eq_layout, take_eq_layout h]

/-- **Reading and writing a header are inverse to each other.** A header that is read in a
file is written as the first 84 bytes of the file. What is written is read as the same header
whatever follows it, if its magic word is the right one, and refused if it is not.
Shorter files are refused. -/
theorem codec_inverse :
    (∀ (data : Bytes) (h : Header), parse data = .ok h → h.encode = data.take headerLength) ∧
      (∀ (h : Header) (rest : Bytes), parse (h.encode ++ rest) =
        if h.magic = Legacy.magic then .ok h else .error .badData) ∧
      ∀ data : Bytes, data.length < headerLength → parse data = .error .badData := by
  refine ⟨fun data h hparse => ?_, parse_encode, fun data => parse_of_short⟩
  by_cases hlong : headerLength ≤ data.length
  · rw [parse_of_long hlong] at hparse
    split at hparse
    · cases hparse
      exact encode_read hlong
    · cases hparse
  · rw [parse_of_short (Nat.not_le.1 hlong)] at hparse
    cases hparse

/-- A header with sections of different lengths. -/
def sevenDays : Header where
  magic := Legacy.magic
  offsets := (List.range 32).map fun i => UInt16.ofNat (42 + i * i * 7)
  size := 70000
  completed := 0
  tow := 345600
  wno := 1234
  duration := 7
  length_offsets := by simp

/-- A file with this header, one with another magic word, and one that is a byte short. -/
theorem codec_inverse_sevenDays :
    let file := sevenDays.encode ++ [0xB5, 0x62]
    parse file = .ok sevenDays ∧ sevenDays.encode = file.take headerLength ∧
      parse ({ sevenDays with magic := 0x015208EE } : Header).encode = .error .badData ∧
      (file.take 83).length < headerLength ∧ parse (file.take 83) = .error .badData := by
  intro file
  obtain ⟨hencode, hparse, hshort⟩ := codec_inverse
  have hfile : parse file = .ok sevenDays := hparse sevenDays [0xB5, 0x62]
  have hother : parse (({ sevenDays with magic := 0x015208EE } : Header).encode ++ []) =
      .error .badData := hparse _ []
  rw [List.append_nil] at hother
  have hlen : (file.take 83).length < headerLength :=
    Nat.lt_of_le_of_lt (List.length_take_le ..) (by decide)
  exact ⟨hfile, hencode file sevenDays hfile, hother, hlen, hshort _ hlen⟩

end Legacy.Header

end GnssAiding
