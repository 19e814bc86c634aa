/-
Strings of bytes as lists, and the little-endian words in them. A word and
its bytes determine each other (`le16_read16`, `read16_le16` and the same
for 32 bits), which is all that the readers and writers of messages use.
-/
namespace GnssAiding

/-- A string of bytes. -/
abbrev Bytes := List UInt8

namespace Bytes

/-- The two bytes of a word, the low one first. -/
def le16 (w : UInt16) : Bytes :=
  [UInt8.ofNat w.toNat, UInt8.ofNat (w.toNat / 256)]

/-- The four bytes of a word, the lowest first. -/
def le32 (w : UInt32) : Bytes :=
  [UInt8.ofNat w.toNat, UInt8.ofNat (w.toNat / 256), UInt8.ofNat (w.toNat / 65536),
    UInt8.ofNat (w.toNat / 16777216)]

/-- The four bytes of a signed word in two's complement, the lowest first. -/
def le32Signed (w : Int32) : Bytes := le32 w.toUInt32

/-- The word whose bytes are `b0`, `b1`, the low one first. -/
def read16 (b0 b1 : UInt8) : UInt16 := UInt16.ofNat (b0.toNat + 256 * b1.toNat)

/-- The word whose bytes are `b0` to `b3`, the lowest first. -/
def read32 (b0 b1 b2 b3 : UInt8) : UInt32 :=
  UInt32.ofNat (b0.toNat + 256 * b1.toNat + 65536 * b2.toNat + 16777216 * b3.toNat)

/-- The word at byte `i`, which is there in full. -/
def word16 (data : Bytes) (i : Nat) (h : i + 2 ≤ data.length) : UInt16 :=
  read16 data[i] data[i + 1]

/-- The word of four bytes at byte `i`, which is there in full. -/
def word32 (data : Bytes) (i : Nat) (h : i + 4 ≤ data.length) : UInt32 :=
  read32 data[i] data[i + 1] data[i + 2] data[i + 3]

/-- `data` with the bytes from `start` on overwritten by `fresh`. -/
def overwrite (start : Nat) (fresh data : Bytes) : Bytes :=
  data.take start ++ fresh ++ data.drop (start + fresh.length)

/-- The `len` bytes from `start` on, or fewer where the data ends. -/
def extract (start len : Nat) (data : Bytes) : Bytes := (data.drop start).take len

/-- Consecutive pieces of `size` bytes, the last one possibly shorter. -/
def pieces (size : Nat) (h : 0 < size) (data : Bytes) : List Bytes :=
  if data = [] then [] else data.take size :: pieces size h (data.drop size)
termination_by data.length
decreasing_by
  rename_i hd
  have := List.length_pos_iff.2 hd
  simp only [List.length_drop]
  omega

@[simp] theorem length_le16 (w : UInt16) : (le16 w).length = 2 := rfl

@[simp] theorem length_le32 (w : UInt32) : (le32 w).length = 4 := rfl

@[simp] theorem length_le32Signed (w : Int32) : (le32Signed w).length = 4 := rfl

theorem toNat_read16 (b0 b1 : UInt8) : (read16 b0 b1).toNat = b0.toNat + 256 * b1.toNat := by
  have h0 := b0.toNat_lt
  have h1 := b1.toNat_lt
  simp only [read16, UInt16.toNat_ofNat']
  omega

theorem toNat_read32 (b0 b1 b2 b3 : UInt8) :
    (read32 b0 b1 b2 b3).toNat =
      b0.toNat + 256 * b1.toNat + 65536 * b2.toNat + 16777216 * b3.toNat := by
  have h0 := b0.toNat_lt
  have h1 := b1.toNat_lt
  have h2 := b2.toNat_lt
  have h3 := b3.toNat_lt
  simp only [read32, UInt32.toNat_ofNat']
  omega

theorem le16_read16 (b0 b1 : UInt8) : le16 (read16 b0 b1) = [b0, b1] := by
  have h0 := b0.toNat_lt
  have h1 := b1.toNat_lt
  simp only [le16, toNat_read16, List.cons.injEq, and_true]
  constructor <;> apply UInt8.toNat_inj.1 <;> simp only [UInt8.toNat_ofNat'] <;> omega

theorem read16_le16 (w : UInt16) :
    read16 (UInt8.ofNat w.toNat) (UInt8.ofNat (w.toNat / 256)) = w := by
  have h := w.toNat_lt
  apply UInt16.toNat_inj.1
  simp only [toNat_read16, UInt8.toNat_ofNat']
  omega

theorem le32_read32 (b0 b1 b2 b3 : UInt8) : le32 (read32 b0 b1 b2 b3) = [b0, b1, b2, b3] := by
  have h0 := b0.toNat_lt
  have h1 := b1.toNat_lt
  have h2 := b2.toNat_lt
  have h3 := b3.toNat_lt
  simp only [le32, toNat_read32, List.cons.injEq, and_true]
  refine ⟨?_, ?_, ?_, ?_⟩ <;> apply UInt8.toNat_inj.1 <;> simp only [UInt8.toNat_ofNat'] <;> omega

theorem read32_le32 (w : UInt32) :
    read32 (UInt8.ofNat w.toNat) (UInt8.ofNat (w.toNat / 256)) (UInt8.ofNat (w.toNat / 65536))
      (UInt8.ofNat (w.toNat / 16777216)) = w := by
  have h := w.toNat_lt
  apply UInt32.toNat_inj.1
  simp only [toNat_read32, UInt8.toNat_ofNat']
  omega

theorem le16_word16 (data : Bytes) (i : Nat) (h : i + 2 ≤ data.length) :
    le16 (word16 data i h) = extract i 2 data := by
  rw [word16, le16_read16, extract, List.drop_eq_getElem_cons (by omega),
    List.drop_eq_getElem_cons (by omega)]
  rfl

theorem le32_word32 (data : Bytes) (i : Nat) (h : i + 4 ≤ data.length) :
    le32 (word32 data i h) = extract i 4 data := by
  rw [word32, le32_read32, extract, List.drop_eq_getElem_cons (by omega),
    List.drop_eq_getElem_cons (by omega), List.drop_eq_getElem_cons (by omega),
    List.drop_eq_getElem_cons (by omega)]
  rfl

theorem extract_append_extract (start m n : Nat) (data : Bytes) :
    extract start m data ++ extract (start + m) n data = extract start (m + n) data := by
  rw [extract, extract, extract, List.take_add, List.drop_drop]

/-- The pieces are the data, cut. -/
theorem flatten_pieces (size : Nat) (h : 0 < size) (data : Bytes) :
    (pieces size h data).flatten = data := by
  fun_induction pieces size h data with
  | case1 => rfl
  | case2 data _ ih => rw [List.flatten_cons, ih, List.take_append_drop]

end Bytes

end GnssAiding
