/-
Decompression. Compressed data is a stream of bits in blocks; a block holds
bytes as they are, or symbols of a prefix code that stand for bytes and for
copies of what has been put out before. Every step of the decoder takes at
least one bit, so the number of bits bounds the work.
-/
import GnssAiding.Bytes

namespace GnssAiding.Store

namespace Inflate

/-- Why data cannot be decompressed. -/
inductive Problem
  /-- It ends too early. -/
  | truncated
  | corrupt
deriving DecidableEq, Repr

/-! ## Bits -/

/-- What is left to read: bytes, and how many bits of the first are taken. -/
structure Bits where
  bytes : Bytes
  taken : Nat

abbrev Read (α : Type) := Bits → Except Problem (α × Bits)

/-- The next bit. -/
def bit : Read Nat := fun s =>
  match s.bytes with
  | [] => .error .truncated
  | b :: rest =>
    let v := (b.toNat.testBit s.taken).toNat
    if s.taken = 7 then .ok (v, ⟨rest, 0⟩) else .ok (v, ⟨b :: rest, s.taken + 1⟩)

/-- The number in the next `n` bits, the lowest first. -/
def bits : (n : Nat) → Read Nat
  | 0, s => .ok (0, s)
  | n + 1, s => do
    let (v, s) ← bit s
    let (rest, s) ← bits n s
    .ok (v + 2 * rest, s)

/-- What is left behind the byte that is being read. -/
def Bits.align (s : Bits) : Bytes := if s.taken = 0 then s.bytes else s.bytes.drop 1

/-! ## Prefix codes -/

/-- A canonical code: how many symbols have codes of each length from one bit
on, and the symbols in the order of their codes. -/
structure Code where
  counts : List Nat
  symbols : Array Nat

/-- The longest code. -/
def maxLength : Nat := 15

/-- How many codes of the greatest length the lengths leave unused, or less
than zero if they use too many. -/
def unused (counts : List Nat) : Int :=
  counts.foldl (fun (left : Int) (n : Nat) => 2 * left - n) 1

/-- The code of symbols with these lengths, where zero means that a symbol has
none. The lengths must use up all codes, unless at most one symbol has any. -/
def Code.ofLengths (lengths : List Nat) : Except Problem Code :=
  let indexed := lengths.zipIdx
  let counts := (List.range maxLength).map fun i => lengths.countP (· = i + 1)
  let symbols := (List.range maxLength).flatMap fun i =>
    indexed.filterMap fun (l, s) => if l = i + 1 then some s else none
  if unused counts ≠ 0 ∧ 1 < symbols.length then .error .corrupt
  else .ok ⟨counts, symbols.toArray⟩

/-- Reads a symbol. `first` is the first code of the length that is tried,
`index` the place of its symbol, `code` the bits read before. -/
def Code.symbolFrom (c : Code) : List Nat → (code first index : Nat) → Read Nat
  | [], _, _, _, _ => .error .corrupt
  | count :: counts, code, first, index, s => do
    let (v, s) ← bit s
    let code := code + v
    if code < first + count then
      match c.symbols[index + (code - first)]? with
      | some symbol => .ok (symbol, s)
      | none => .error .corrupt
    else symbolFrom c counts (2 * code) (2 * (first + count)) (index + count) s

def Code.symbol (c : Code) : Read Nat := c.symbolFrom c.counts 0 0 0

/-! ## Lengths and distances -/

/-- Least length and number of further bits, from symbol 257 on. -/
def lengthTable : List (Nat × Nat) :=
  [(3, 0), (4, 0), (5, 0), (6, 0), (7, 0), (8, 0), (9, 0), (10, 0), (11, 1), (13, 1), (15, 1),
    (17, 1), (19, 2), (23, 2), (27, 2), (31, 2), (35, 3), (43, 3), (51, 3), (59, 3), (67, 4),
    (83, 4), (99, 4), (115, 4), (131, 5), (163, 5), (195, 5), (227, 5), (258, 0)]

/-- Least distance and number of further bits, by symbol. -/
def distanceTable : List (Nat × Nat) :=
  [(1, 0), (2, 0), (3, 0), (4, 0), (5, 1), (7, 1), (9, 2), (13, 2), (17, 3), (25, 3), (33, 4),
    (49, 4), (65, 5), (97, 5), (129, 6), (193, 6), (257, 7), (385, 7), (513, 8), (769, 8),
    (1025, 9), (1537, 9), (2049, 10), (3073, 10), (4097, 11), (6145, 11), (8193, 12), (12289, 12),
    (16385, 13), (24577, 13)]

/-- A value from one of the tables. -/
def tabled (table : List (Nat × Nat)) (i : Nat) : Read Nat := fun s =>
  match table[i]? with
  | none => .error .corrupt
  | some (least, extra) => do
    let (more, s) ← bits extra s
    .ok (least + more, s)

/-! ## Blocks -/

/-- Copies `n` bytes from `distance` bytes back. What would come from before
the start is zero. -/
def copy (distance : Nat) : (n : Nat) → Array UInt8 → Array UInt8
  | 0, out => out
  | n + 1, out =>
    let b := if distance ≤ out.size then out.getD (out.size - distance) 0 else 0
    copy distance n (out.push b)

/-- The symbols of a block up to its end. -/
def symbols (literals distances : Code) : (fuel : Nat) → Array UInt8 → Read (Array UInt8)
  | 0, _, _ => .error .truncated
  | fuel + 1, out, s => do
    let (symbol, s) ← literals.symbol s
    if symbol < 256 then symbols literals distances fuel (out.push (UInt8.ofNat symbol)) s
    else if symbol = 256 then .ok (out, s)
    else
      let (length, s) ← tabled lengthTable (symbol - 257) s
      let (d, s) ← distances.symbol s
      let (distance, s) ← tabled distanceTable d s
      symbols literals distances fuel (copy distance length out) s

/-- The codes of blocks that bring none. -/
def fixedLengths : List Nat :=
  List.replicate 144 8 ++ List.replicate 112 9 ++ List.replicate 24 7 ++ List.replicate 8 8

/-- The order in which a block gives the lengths of the codes for lengths. -/
def lengthOrder : List Nat := [16, 17, 18, 0, 8, 7, 9, 6, 10, 5, 11, 4, 12, 3, 13, 2, 14, 1, 15]

/-- Lengths of three bits each, for the symbols given. -/
def shortLengths : List Nat → Read (List (Nat × Nat))
  | [], s => .ok ([], s)
  | symbol :: rest, s => do
    let (l, s) ← bits 3 s
    let (ls, s) ← shortLengths rest s
    .ok ((symbol, l) :: ls, s)

/-- The lengths of `want` codes, kept from the last to the first. Symbols from
16 on repeat a length. -/
def codeLengths (code : Code) (want : Nat) : (fuel : Nat) → List Nat → Read (List Nat)
  | 0, _, _ => .error .truncated
  | fuel + 1, done, s =>
    if want ≤ done.length then
      if done.length = want then .ok (done.reverse, s) else .error .corrupt
    else do
      let (symbol, s) ← code.symbol s
      if symbol < 16 then codeLengths code want fuel (symbol :: done) s
      else
        let (value, least, extra) ←
          if symbol = 16 then
            match done with
            | l :: _ => pure (l, 3, 2)
            | [] => throw Problem.corrupt
          else if symbol = 17 then pure (0, 3, 3)
          else pure (0, 11, 7)
        let (more, s) ← bits extra s
        codeLengths code want fuel (List.replicate (least + more) value ++ done) s

/-- The codes that a block brings with it. -/
def codes : Read (Code × Code) := fun s => do
  let (hlit, s) ← bits 5 s
  let (hdist, s) ← bits 5 s
  let (hclen, s) ← bits 4 s
  let literals := hlit + 257
  let distances := hdist + 1
  if 286 < literals ∨ 30 < distances then throw .corrupt
  let (short, s) ← shortLengths (lengthOrder.take (hclen + 4)) s
  let code ← Code.ofLengths ((List.range 19).map fun i => (short.lookup i).getD 0)
  let (lengths, s) ← codeLengths code (literals + distances) (literals + distances + 1) [] s
  let first ← Code.ofLengths (lengths.take literals)
  let second ← Code.ofLengths (lengths.drop literals)
  .ok ((first, second), s)

/-- Bytes as they are, behind their number and its complement. -/
def stored (out : Array UInt8) : Read (Array UInt8) := fun s =>
  match s.align with
  | l0 :: l1 :: c0 :: c1 :: rest =>
    let n := (Bytes.read16 l0 l1).toNat
    if n + (Bytes.read16 c0 c1).toNat ≠ 65535 then .error .corrupt
    else if rest.length < n then .error .truncated
    else .ok ((rest.take n).foldl Array.push out, ⟨rest.drop n, 0⟩)
  | _ => .error .truncated

/-- The blocks up to the last one. -/
def blocks : (fuel : Nat) → Array UInt8 → Read (Array UInt8)
  | 0, _, _ => .error .truncated
  | fuel + 1, out, s => do
    let (last, s) ← bit s
    let (kind, s) ← bits 2 s
    let work := 8 * s.bytes.length + 1
    let (out, s) ←
      if kind = 0 then stored out s
      else if kind = 1 then do
        let literals ← Code.ofLengths fixedLengths
        let distances ← Code.ofLengths (List.replicate 32 5)
        symbols literals distances work out s
      else if kind = 2 then do
        let ((literals, distances), s) ← codes s
        symbols literals distances work out s
      else .error .corrupt
    if last = 1 then .ok (out, s) else blocks fuel out s

end Inflate

/-- Decompresses data; what follows it is handed back. -/
def inflate (data : Bytes) : Except Inflate.Problem (Bytes × Bytes) := do
  let (out, s) ← Inflate.blocks (8 * data.length + 1) #[] ⟨data, 0⟩
  .ok (out.toList, s.align)

end GnssAiding.Store
