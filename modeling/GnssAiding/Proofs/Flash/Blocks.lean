/-
The blocks of a transfer into flash and the records they go out as.

What of a block never changes is its `Block.item`, the content with the
sequence number. The items of a transfer are those of the chunks its data is
cut into, and the stop (`items`). For data that a session takes, the chunks are
small enough for a record and too few for a number to come twice or to be
taken for the stop's (`Chunks`).
-/
import GnssAiding.Proofs.Checked
import GnssAiding.Proofs.Flash.Out
import GnssAiding.Proofs.Frame.Codec
import GnssAiding.Proofs.Offline.Select
import GnssAiding.Session.Job

namespace GnssAiding

/-! ## Pieces -/

namespace Bytes

variable {size : Nat} (h : 0 < size)

theorem length_le_of_mem_pieces {data piece : Bytes} (hp : piece ∈ pieces size h data) :
    piece.length ≤ size := by
  fun_induction pieces size h data with
  | case1 => cases hp
  | case2 data _ ih =>
    rcases List.mem_cons.1 hp with rfl | hp
    · exact List.length_take_le size data
    · exact ih hp

theorem ne_nil_of_mem_pieces {data piece : Bytes} (hp : piece ∈ pieces size h data) :
    piece ≠ [] := by
  fun_induction pieces size h data with
  | case1 => cases hp
  | case2 data hd ih =>
    rcases List.mem_cons.1 hp with rfl | hp
    · intro hnil
      rcases List.take_eq_nil_iff.1 hnil with hsize | hnil
      · omega
      · exact hd hnil
    · exact ih hp

theorem pieces_eq_nil_iff {data : Bytes} : pieces size h data = [] ↔ data = [] := by
  rw [pieces]
  split
  · next hd => simp [hd]
  · next hd => simp [hd]

/-- Every piece but the last is full. -/
theorem length_of_mem_dropLast_pieces {data piece : Bytes}
    (hp : piece ∈ (pieces size h data).dropLast) : piece.length = size := by
  fun_induction pieces size h data with
  | case1 => cases hp
  | case2 data _ ih =>
    by_cases hrest : data.drop size = []
    · rw [(pieces_eq_nil_iff h).2 hrest] at hp
      cases hp
    · rw [List.dropLast_cons_of_ne_nil (mt (pieces_eq_nil_iff h).1 hrest)] at hp
      rcases List.mem_cons.1 hp with rfl | hp
      · have hlen := List.length_pos_iff.2 hrest
        rw [List.length_drop] at hlen
        exact List.length_take_of_le (by omega)
      · exact ih hp

theorem length_pieces_mul_lt (data : Bytes) :
    (pieces size h data).length * size < data.length + size := by
  fun_induction pieces size h data with
  | case1 => simpa using h
  | case2 data hd ih =>
    have hlen := List.length_pos_iff.2 hd
    rw [List.length_cons, Nat.add_mul, Nat.one_mul]
    by_cases hrest : data.drop size = []
    · rw [(pieces_eq_nil_iff h).2 hrest]
      simpa using hlen
    · have hmore := List.length_pos_iff.2 hrest
      rw [List.length_drop] at ih hmore
      omega

/-- Every piece is where its index says. -/
theorem slice_pieces {data piece : Bytes} {i : Nat} (hp : (pieces size h data)[i]? = some piece) :
    Checked.slice data (i * size) (i * size + piece.length) = .ok piece := by
  fun_induction pieces size h data generalizing i with
  | case1 => cases hp
  | case2 data hd ih =>
    cases i with
    | zero =>
      cases hp
      rw [Nat.zero_mul, Nat.zero_add, Checked.slice,
        if_pos ⟨Nat.zero_le _, by rw [List.length_take]; exact Nat.min_le_right _ _⟩]
      simp
    | succ i =>
      have hmore : data.drop size ≠ [] := by
        intro hnil
        rw [(pieces_eq_nil_iff h).2 hnil] at hp
        cases hp
      have hlen := List.length_pos_iff.2 hmore
      have hrest := ih hp
      unfold Checked.slice at hrest ⊢
      split at hrest
      · next hin =>
        rw [List.length_drop] at hlen hin
        rw [if_pos (by rw [Nat.succ_mul]; omega), ← hrest, List.drop_drop, Nat.succ_mul,
          Nat.add_comm size, Nat.add_sub_cancel_left, Nat.add_sub_cancel_left]
      · cases hrest

end Bytes

namespace Flash

/-! ## Records -/

/-- The sequence number and the data section of what is a record of data. -/
def section? (data : Bytes) : Option (UInt16 × Bytes) :=
  (Frame.parse? data).bind fun f =>
    if f.kind? = some .mgaFlash then
      match f.payload with
      | type :: _ :: s0 :: s1 :: _ :: _ :: chunk =>
        if type = dataType then some (Bytes.read16 s0 s1, chunk) else none
      | _ => none
    else none

/-- The sequence numbers and data sections of the records that are written. -/
def sections (acts : List Action) : List (UInt16 × Bytes) :=
  acts.filterMap fun a =>
    match a with
    | .write data => section? data
    | _ => none

theorem sections_append (acts more : List Action) :
    sections (acts ++ more) = sections acts ++ sections more := List.filterMap_append

/-- Every byte of an answer is read behind the check of its length. -/
theorem Reply.read_eq (f : Frame) : read f = .ok (parse? f) := by
  obtain ⟨cls, id, payload, checksum, fits⟩ := f
  unfold read parse?
  by_cases hk : Kind.classify cls id = some .mgaFlash
  · simp only [Frame.kind?, hk, true_and, if_true]
    match payload with
    | [] | [_] | [_, _] | [_, _, _] | [_, _, _, _] | [_, _, _, _, _] => rfl
    | type :: _ :: code :: _ :: s0 :: s1 :: _ =>
      rw [if_pos (by simp)]
      simp only [Checked.get, List.getElem?_cons_zero, List.getElem?_cons_succ, bind, Except.bind]
      split <;> rfl
  · simp only [Frame.kind?, hk, false_and, if_false]
    rfl

theorem section?_stopFrame : section? stopFrame.bytes = none := by decide

theorem section?_nudge : section? nudge = none := by decide

theorem dataFrame_eq {chunk : Bytes} (h : chunk.length ≤ blockSize) (sequence : UInt16) :
    ∃ f, dataFrame sequence chunk = .ok f ∧ section? f.bytes = some (sequence, chunk) := by
  have hfits : ([dataType, 0] ++ Bytes.le16 sequence ++ Bytes.le16 (UInt16.ofNat chunk.length) ++
      chunk).length < 65536 := by
    simp only [blockSize] at h
    simp only [List.length_append, List.length_cons, List.length_nil, Bytes.length_le16]
    omega
  have hshort : chunk.length < 65536 := Nat.lt_of_le_of_lt h (by decide)
  refine ⟨.sealed MessageClass.mga MgaId.flash _ hfits, ?_, ?_⟩
  · simp only [dataFrame, if_pos hshort, Frame.build, dif_pos hfits]
  · have hparse := Frame.parse?_bytes (Frame.intact_sealed MessageClass.mga MgaId.flash _ hfits)
    have hkind : Kind.classify MessageClass.mga MgaId.flash = some .mgaFlash := by decide
    rw [section?, hparse, Option.bind_some, Frame.kind?]
    simp only [Frame.sealed, hkind, if_true, Bytes.le16, List.cons_append, List.nil_append,
      Bytes.read16_le16]

/-! ## Blocks -/

/-- The bytes are what stands at their offset in the data. -/
def Content.StandsIn (content : Content) (data : Bytes) : Prop :=
  match content with
  | .data offset bytes => Checked.slice data offset (offset + bytes.length) = .ok bytes
  | .stop => True

namespace Block

theorem bytes_of_content {b : Block} {offset : Nat} {chunk : Bytes}
    (h : b.content = .data offset chunk) : b.bytes = chunk := by
  rw [bytes, h]

theorem bytesIn_eq {b : Block} {data : Bytes} (h : b.content.StandsIn data) :
    b.bytesIn data = .ok b.bytes := by
  unfold bytesIn bytes
  unfold Content.StandsIn at h
  split <;> simp_all

theorem bytesIn_of_content {b : Block} {data chunk : Bytes} {offset : Nat}
    (h : b.content.StandsIn data) (hcontent : b.content = .data offset chunk) :
    b.bytesIn data = .ok chunk := by
  rw [bytesIn_eq h, bytes_of_content hcontent]

/-- The record of the block, made from the bytes that it remembers. -/
def record (b : Block) : Except Error Frame :=
  match b.content with
  | .data _ bytes => dataFrame b.sequence bytes
  | .stop => .ok stopFrame

/-- A block that stands in the data goes out as its record. -/
theorem frame_eq {b : Block} {data : Bytes} (h : b.content.StandsIn data) :
    b.frame data = b.record.mapError .refused := by
  have hbytes := bytesIn_eq h
  unfold frame record
  cases hc : b.content with
  | stop => rfl
  | data offset chunk =>
    rw [hbytes, bytes, hc]
    rfl

/-- What of a block stays the same. -/
def item (b : Block) : Content × UInt16 := (b.content, b.sequence)

@[simp] theorem item_outAt (c : Context) (b : Block) : (b.outAt c).item = b.item := rfl
@[simp] theorem item_nudgedAt (c : Context) (b : Block) : (b.nudgedAt c).item = b.item := rfl
@[simp] theorem item_again (b : Block) : b.again.item = b.item := rfl
@[simp] theorem item_ended (state : Progress) (b : Block) : (b.ended state).item = b.item := rfl

/-- What stands among the items of some blocks where one of them stands. -/
theorem getElem?_items {blocks : List Block} {items : List (Content × UInt16)} {i : Nat}
    {b : Block} (h : blocks.map item = items) (hb : blocks[i]? = some b) :
    items[i]? = some b.item := by
  rw [← h, List.getElem?_map, hb, Option.map_some]

/-- Blocks keep their items when one is replaced by another of the same item. -/
theorem map_item_set {blocks : List Block} {i : Nat} {b b' : Block} (hb : blocks[i]? = some b)
    (hitem : b'.item = b.item) : (blocks.set i b').map Block.item = blocks.map Block.item := by
  refine List.ext_getElem? fun j => ?_
  rw [List.getElem?_map, List.getElem?_map]
  by_cases hj : i = j
  · subst hj
    rw [hb, List.getElem?_set_self (List.getElem?_eq_some_iff.1 hb).1]
    exact congrArg some hitem
  · rw [List.getElem?_set_ne hj]

/-- What sending the block does to the host. -/
def transmission (b : Block) : List Action :=
  (match b.record with
    | .ok f => [.write f.bytes]
    | .error _ => []) ++
  match b.content with
  | .data .. => [.report (.flashBlockSent b.report)]
  | .stop => []

theorem sections_transmission_stop {b : Block} (h : b.content = .stop) :
    sections b.transmission = [] := by
  simp only [transmission, record, h, sections, List.append_nil, List.filterMap_cons,
    List.filterMap_nil, section?_stopFrame]

theorem sections_transmission_data {b : Block} {offset : Nat} {chunk : Bytes}
    (h : b.content = .data offset chunk) (hlen : chunk.length ≤ blockSize) :
    sections b.transmission = [(b.sequence, chunk)] := by
  obtain ⟨f, hf, hs⟩ := dataFrame_eq hlen b.sequence
  simp only [transmission, record, h, hf, sections, List.cons_append, List.nil_append,
    List.filterMap_cons, List.filterMap_nil, hs]

/-- Only a stop goes out as a stop message. -/
theorem stop_of_mem_transmission {b : Block} (hlen : b.bytes.length ≤ blockSize)
    (h : .write stopFrame.bytes ∈ b.transmission) : b.content = .stop := by
  cases hc : b.content with
  | stop => rfl
  | data offset chunk =>
    have hchunk : chunk.length ≤ blockSize := by
      rwa [bytes, hc] at hlen
    obtain ⟨f, hf, hs⟩ := dataFrame_eq hchunk b.sequence
    simp only [transmission, record, hc, hf, List.cons_append, List.nil_append, List.mem_cons,
      Action.write.injEq, reduceCtorEq, List.not_mem_nil, or_false] at h
    rw [← h, section?_stopFrame] at hs
    cases hs

end Block

/-! ## The items of a transfer -/

/-- The items of chunks that are numbered from zero, and of the stop. -/
def items (chunks : List Bytes) : List (Content × UInt16) :=
  (chunks.mapIdx fun i chunk => (.data (i * blockSize) chunk, UInt16.ofNat i)) ++
    [(.stop, stopSequence)]

theorem items_getElem?_eq_some_iff {chunks : List Bytes} {i : Nat} {x : Content × UInt16} :
    (items chunks)[i]? = some x ↔
      (∃ chunk, chunks[i]? = some chunk ∧ x = (.data (i * blockSize) chunk, UInt16.ofNat i)) ∨
        i = chunks.length ∧ x = (.stop, stopSequence) := by
  rw [items, List.getElem?_append, List.length_mapIdx]
  split
  · next hi =>
    rw [List.getElem?_mapIdx, Option.map_eq_some_iff]
    constructor
    · rintro ⟨chunk, hchunk, rfl⟩
      exact .inl ⟨chunk, hchunk, rfl⟩
    · rintro (⟨chunk, hchunk, rfl⟩ | ⟨rfl, -⟩)
      · exact ⟨chunk, hchunk, rfl⟩
      · omega
  · next hi =>
    rw [List.getElem?_singleton]
    constructor
    · intro h
      split at h
      · cases h
        exact .inr ⟨by omega, rfl⟩
      · cases h
    · rintro (⟨chunk, hchunk, rfl⟩ | ⟨rfl, rfl⟩)
      · exact absurd (List.getElem?_eq_some_iff.1 hchunk).1 hi
      · simp

/-- The chunks put together have each of them where its index says. -/
def InPlace (chunks : List Bytes) : Prop := ∀ x ∈ items chunks, x.1.StandsIn chunks.flatten

/-- Chunks that a transfer can tell apart. -/
structure Chunks (chunks : List Bytes) : Prop where
  small : ∀ chunk ∈ chunks, chunk.length ≤ blockSize
  few : chunks.length < 65535
  placed : InPlace chunks

namespace Chunks

variable {chunks : List Bytes} (h : Chunks chunks)

include h

theorem sequence_ne_stop {i : Nat} (hi : i < chunks.length) : UInt16.ofNat i ≠ stopSequence := by
  have := h.few
  intro he
  have := congrArg UInt16.toNat he
  simp only [UInt16.toNat_ofNat', stopSequence] at this
  have hstop : UInt16.toNat 0xFFFF = 65535 := rfl
  omega

theorem sequence_inj {i j : Nat} (hi : i < chunks.length) (hj : j < chunks.length)
    (he : UInt16.ofNat i = UInt16.ofNat j) : i = j := by
  have := h.few
  have := congrArg UInt16.toNat he
  simp only [UInt16.toNat_ofNat'] at this
  omega

end Chunks

theorem blockSize_pos : 0 < blockSize := by decide

/-- The chunks of data that a record can carry. -/
def chunksOf (records : Bytes) : List Bytes := Bytes.pieces blockSize blockSize_pos records

theorem inPlace_chunksOf (records : Bytes) : InPlace (chunksOf records) := by
  intro x hx
  rw [chunksOf, Bytes.flatten_pieces]
  obtain ⟨i, hi⟩ := List.getElem?_of_mem hx
  rcases items_getElem?_eq_some_iff.1 hi with ⟨chunk, hchunk, rfl⟩ | ⟨-, rfl⟩
  · exact Bytes.slice_pieces blockSize_pos hchunk
  · exact trivial

/-- Data that a session takes is cut into chunks that can be told apart. -/
theorem Chunks.of_length_le {records : Bytes} (h : records.length ≤ Job.maxBlob) :
    Chunks (chunksOf records) where
  small := fun _ hchunk => Bytes.length_le_of_mem_pieces _ hchunk
  few := by
    have hcount : (chunksOf records).length * blockSize < records.length + blockSize :=
      Bytes.length_pieces_mul_lt blockSize_pos records
    simp only [chunksOf, blockSize, Job.maxBlob] at *
    omega
  placed := inPlace_chunksOf records

namespace Transfer

/-- The blocks of some chunks, not sent. -/
def dataBlocks (chunks : List Bytes) : List Block :=
  chunks.mapIdx fun i chunk => .fresh (.data (i * blockSize) chunk) (UInt16.ofNat i)

/-- The transfer of some chunks, not begun. -/
def ofChunks (chunks : List Bytes) : Transfer :=
  ⟨chunks.flatten, dataBlocks chunks ++ [.fresh .stop stopSequence], 0⟩

theorem items_ofChunks (chunks : List Bytes) :
    (ofChunks chunks).blocks.map Block.item = items chunks := by
  have hmap : (dataBlocks chunks).map Block.item =
      chunks.mapIdx fun i chunk => (.data (i * blockSize) chunk, UInt16.ofNat i) := by
    refine List.ext_getElem? fun i => ?_
    simp [dataBlocks, List.getElem?_mapIdx, Block.item, Block.fresh, Function.comp_def]
  rw [ofChunks, List.map_append, hmap]
  rfl

theorem map_sequence_dataBlocks (chunks : List Bytes) :
    (dataBlocks chunks).map (·.sequence) = (List.range chunks.length).map UInt16.ofNat := by
  refine List.ext_getElem? fun i => ?_
  rw [dataBlocks, List.getElem?_map, List.getElem?_mapIdx, List.getElem?_map, Option.map_map]
  by_cases hi : i < chunks.length
  · rw [List.getElem?_range hi, List.getElem?_eq_getElem hi]
    rfl
  · rw [List.getElem?_eq_none (Nat.le_of_not_lt hi),
      List.getElem?_eq_none (by rw [List.length_range]; exact Nat.le_of_not_lt hi)]
    rfl

theorem retries_dataBlocks {chunks : List Bytes} {b : Block} (h : b ∈ dataBlocks chunks) :
    b.retries = 0 := by
  obtain ⟨i, hi, rfl⟩ := List.mem_mapIdx.1 h
  rfl

theorem retries_ofChunks {chunks : List Bytes} {b : Block} (h : b ∈ (ofChunks chunks).blocks) :
    b.retries = 0 := by
  rcases List.mem_append.1 h with h | h
  · exact retries_dataBlocks h
  · rw [List.mem_singleton.1 h]
    rfl

theorem ofData_eq_ok {data : Bytes} {t : Transfer} (h : ofData data = .ok t) :
    ∃ records, Offline.records data = .ok records ∧ t = ofChunks (chunksOf records) := by
  unfold ofData at h
  cases hr : Offline.records data with
  | error e =>
    rw [hr] at h
    cases h
  | ok records =>
    rw [hr] at h
    cases h
    refine ⟨records, rfl, ?_⟩
    rw [ofChunks, chunksOf, Bytes.flatten_pieces]
    rfl

/-- What a session stores in flash are the chunks of the orbit records. -/
theorem toFlash_eq_ok {data : Bytes} {job : Job} (h : Job.toFlash data = .ok job) :
    ∃ records, Offline.records data = .ok records ∧ records.length ≤ Job.maxBlob ∧
      job = .flash (ofChunks (chunksOf records)) := by
  unfold Job.toFlash Job.checkSize at h
  split at h
  · cases h
  next hsize =>
  cases ht : ofData data with
  | error e =>
    rw [ht] at h
    cases h
  | ok t =>
    rw [ht] at h
    cases h
    obtain ⟨records, hr, rfl⟩ := ofData_eq_ok ht
    exact ⟨records, hr, Nat.le_trans (Offline.length_select_le hr) (Nat.le_of_not_lt hsize), rfl⟩

end Transfer

end Flash

end GnssAiding
