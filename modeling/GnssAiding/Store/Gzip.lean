/-
Compressed files: a header, compressed data, and a check of what it stands
for. Files are written in blocks that hold the bytes as they are; anything
in the format is read, up to the end of the first member.
-/
import GnssAiding.Store.Crc
import GnssAiding.Store.Inflate
import GnssAiding.Store.Tree

namespace GnssAiding.Store.Gzip

/-! ## Writing -/

/-- The most bytes in a block that holds them as they are. -/
def blockSize : Nat := 65535

/-- One block. -/
def block (last : Bool) (data : Bytes) : Bytes :=
  let n := UInt16.ofNat data.length
  (if last then 1 else 0) :: (Bytes.le16 n ++ Bytes.le16 (~~~n) ++ data)

/-- Blocks, the last of them marked; there is at least one. -/
def blocks : List Bytes → Bytes
  | [] => block true []
  | [piece] => block true piece
  | piece :: rest => block false piece ++ blocks rest

/-- No optional fields, no time, from an unknown system. -/
def plainHeader : Bytes := [0x1f, 0x8b, 8, 0, 0, 0, 0, 0, 0, 0xff]

/-- What stands behind the compressed data. -/
def trailer (data : Bytes) : Bytes :=
  Bytes.le32 (Crc.of data) ++ Bytes.le32 (UInt32.ofNat data.length)

def compress (data : Bytes) : Bytes :=
  plainHeader ++ blocks (Bytes.pieces blockSize (by decide) data) ++ trailer data

/-! ## Reading -/

/-- The longest name or comment. -/
def maxField : Nat := 65535

/-- What follows a field that ends with a zero. -/
def skipField (data : Bytes) : Except FileError Bytes :=
  let field := data.takeWhile (· ≠ 0)
  if maxField < field.length then .error .invalidInput
  else
    match data.dropWhile (· ≠ 0) with
    | [] => .error .unexpectedEnd
    | _ :: rest => .ok rest

/-- What follows a field behind its length. -/
def skipExtra (data : Bytes) : Except FileError Bytes :=
  match data with
  | l0 :: l1 :: rest =>
    let n := (Bytes.read16 l0 l1).toNat
    if rest.length < n then .error .unexpectedEnd else .ok (rest.drop n)
  | _ => .error .unexpectedEnd

/-- What follows the check of the header, when the header is right. -/
def skipCheck (whole data : Bytes) : Except FileError Bytes :=
  match data with
  | c0 :: c1 :: rest =>
    let header := whole.take (whole.length - data.length)
    if (Bytes.read16 c0 c1).toNat = (Crc.of header).toNat % 65536 then .ok rest
    else .error .invalidInput
  | _ => .error .unexpectedEnd

/-- What follows the header. -/
def skipHeader (whole : Bytes) : Except FileError Bytes :=
  match whole with
  | m0 :: m1 :: method :: flags :: _ :: _ :: _ :: _ :: _ :: _ :: rest => do
    let has (n : Nat) : Bool := flags.toNat.testBit n
    if m0 ≠ 0x1f ∨ m1 ≠ 0x8b ∨ method ≠ 8 ∨ 32 ≤ flags.toNat then throw .invalidInput
    let rest ← if has 2 then skipExtra rest else pure rest
    let rest ← if has 3 then skipField rest else pure rest
    let rest ← if has 4 then skipField rest else pure rest
    if has 1 then skipCheck whole rest else pure rest
  | _ => .error .unexpectedEnd

/-- The contents of the first member. -/
def decompress (whole : Bytes) : Except FileError Bytes := do
  let rest ← skipHeader whole
  match inflate rest with
  | .error .truncated => .error .unexpectedEnd
  | .error .corrupt => .error .invalidInput
  | .ok (data, rest) =>
    if rest.length < 8 then .error .unexpectedEnd
    else if rest.take 8 = trailer data then .ok data
    else .error .invalidInput

end GnssAiding.Store.Gzip
