/-
Numbers of the relaxed notation. A literal is kept as it is written; what it
is taken for depends on who looks at it. An integer is read through binary
floating point: the literal is rounded to 53 significant bits, half to even,
then cut toward zero and moved into the range wanted.
-/
import GnssAiding.Text.Digits

namespace GnssAiding.Json5

open Text

/-- A literal. -/
inductive Numeral
  /-- Digits and, unless it is written as an integer, a power of ten. -/
  | decimal (sign : Option Bool) (mantissa : Nat) (exponent : Option Int)
  | hex (sign : Option Bool) (n : Nat)
  | infinity (sign : Option Bool)
  | nan (sign : Option Bool)
deriving DecidableEq, Repr

namespace Numeral

/-! ## Reading a literal -/

/-- The number that hexadecimal digits stand for, at least one of them. -/
def ofHex? (cs : List Char) : Option Nat :=
  if cs.isEmpty then none
  else cs.foldlM (fun n c => (hexDigit? c).map fun d => 16 * n + d) 0

/-- Nothing, or the mark of an exponent with a sign and digits. -/
def exponent? (cs : List Char) : Option (Option Int) :=
  match cs with
  | [] => some none
  | c :: cs =>
    if c == 'e' || c == 'E' then
      let (negative, ds) := match cs with
        | '-' :: ds => (true, ds)
        | '+' :: ds => (false, ds)
        | ds => (false, ds)
      if !ds.isEmpty && ds.all isDigit then
        some (some (if negative then -(ofDigits ds : Int) else ofDigits ds))
      else none
    else none

/-- A decimal literal without its sign. -/
def decimal? (sign : Option Bool) (cs : List Char) : Option Numeral :=
  let whole := cs.takeWhile isDigit
  let leadingZero := match whole with
    | '0' :: _ :: _ => true
    | _ => false
  if leadingZero then none
  else
    match cs.dropWhile isDigit with
    | '.' :: cs =>
      let fraction := cs.takeWhile isDigit
      if whole.isEmpty && fraction.isEmpty then none
      else do
        let e ← exponent? (cs.dropWhile isDigit)
        some (.decimal sign (ofDigits (whole ++ fraction)) (some (e.getD 0 - fraction.length)))
    | rest =>
      if whole.isEmpty then none
      else do
        let e ← exponent? rest
        some (.decimal sign (ofDigits whole) e)

/-- The literal that characters spell, if they spell one. -/
def ofChars? (cs : List Char) : Option Numeral :=
  let (sign, cs) := match cs with
    | '-' :: cs => (some true, cs)
    | '+' :: cs => (some false, cs)
    | cs => (none, cs)
  match cs with
  | '0' :: 'x' :: ds | '0' :: 'X' :: ds => (ofHex? ds).map (.hex sign)
  | cs =>
    if cs = "Infinity".toList then some (.infinity sign)
    else if cs = "NaN".toList then some (.nan sign)
    else decimal? sign cs

/-! ## What a literal is taken for -/

/-- The quotient of two numbers, rounded to the nearest whole one, half to
even. -/
def roundDiv (num den : Nat) : Nat :=
  let q := num / den
  let r := num % den
  if den < 2 * r ∨ (2 * r = den ∧ q % 2 = 1) then q + 1 else q

/-- The power of two in whose multiples a positive quotient has 53 bits. -/
def scale (num den : Nat) : Int :=
  let e : Int := (num.log2 : Int) - den.log2 - 52
  -- the quotient has 53 or 52 bits at this scale
  let (n, d) := if 0 ≤ e then (num, den * Nat.pow 2 e.toNat) else (num * Nat.pow 2 (-e).toNat, den)
  if n / d < Nat.pow 2 52 then e - 1 else e

/-- A quotient rounded to 53 bits, as a multiple of a power of two. -/
def rounded (num den : Nat) : Nat × Int :=
  if num = 0 then (0, 0)
  else
    let e := scale num den
    if 0 ≤ e then (roundDiv num (den * Nat.pow 2 e.toNat), e)
    else (roundDiv (num * Nat.pow 2 (-e).toNat) den, e)

/-- The whole part of a decimal number rounded to binary floating point, or
nothing if it is too large for that. -/
def wholePart? (mantissa : Nat) (exponent : Int) : Option Nat :=
  let size : Int := (Nat.toDigits 10 mantissa).length + exponent
  if mantissa = 0 ∨ size < -400 then some 0
  else if 400 < size then none
  else
    let (m, e) :=
      if 0 ≤ exponent then rounded (mantissa * Nat.pow 10 exponent.toNat) 1
      else rounded mantissa (Nat.pow 10 (-exponent).toNat)
    let n := if 0 ≤ e then m * Nat.pow 2 e.toNat else m / Nat.pow 2 (-e).toNat
    if n < Nat.pow 2 1024 then some n else none

/-- The largest hexadecimal literal. -/
def maxHex : Nat := 0xFFFFFFFF

/-- `n` moved into a range. -/
def saturate (lo hi n : Int) : Int := max lo (min n hi)

/-- The integer in a range that a literal is taken for. -/
def integer? (lo hi : Int) : Numeral → Option Int
  | decimal sign m e =>
    (wholePart? m (e.getD 0)).map fun n =>
      saturate lo hi (if sign = some true then -(n : Int) else n)
  | hex none n => if n ≤ maxHex then some (saturate lo hi n) else none
  | hex (some _) _ => none
  | infinity none => some hi
  | infinity (some true) => some lo
  | infinity (some false) => none
  | nan (some false) => none
  | nan _ => some (saturate lo hi 0)

/-- Whether a literal may stand where nobody looks: written as an integer it
must fit 64 bits with a sign. -/
def skippable : Numeral → Bool
  | decimal sign m none =>
    let n : Int := if sign = some true then -(m : Int) else m
    decide (-Nat.pow 2 63 ≤ n) && decide (n < Nat.pow 2 63)
  | decimal _ m (some e) => (wholePart? m e).isSome
  | hex none n => decide (n ≤ maxHex)
  | hex (some _) _ => false
  | infinity (some false) => false
  | nan (some false) => false
  | _ => true

end Numeral

end GnssAiding.Json5
