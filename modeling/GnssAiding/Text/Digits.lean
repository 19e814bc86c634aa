/-
Numbers in decimal and hexadecimal digits, and the code units that stand
for a character in pairs.
-/
namespace GnssAiding.Text

/-- One of the ten decimal digits. -/
def isDigit (c : Char) : Bool := decide ('0' ≤ c) && decide (c ≤ '9')

/-- The number that decimal digits stand for. -/
def ofDigits (cs : List Char) : Nat := cs.foldl (fun n c => 10 * n + (c.toNat - 48)) 0

/-- The value of a hexadecimal digit. -/
def hexDigit? (c : Char) : Option Nat :=
  if '0' ≤ c ∧ c ≤ '9' then some (c.toNat - 48)
  else if 'A' ≤ c ∧ c ≤ 'F' then some (c.toNat - 55)
  else if 'a' ≤ c ∧ c ≤ 'f' then some (c.toNat - 87)
  else none

/-- The hexadecimal digit of a value below sixteen, in small letters. -/
def hexChar (n : Nat) : Char := if n < 10 then Char.ofNat (48 + n) else Char.ofNat (87 + n)

/-- Digits filled up with zeros on the left. -/
def padded (width : Nat) (digits : List Char) : List Char :=
  List.replicate (width - digits.length) '0' ++ digits

/-- An unsigned number of so many bits; a plus sign may stand before it. -/
def unsigned? (bits : Nat) (s : String) : Option Nat :=
  let cs := match s.toList with
    | '+' :: cs => cs
    | cs => cs
  if !cs.isEmpty && cs.all isDigit && decide (ofDigits cs < Nat.pow 2 bits) then
    some (ofDigits cs)
  else none

/-! ## Surrogate pairs -/

def isHighSurrogate (n : Nat) : Bool := decide (0xD800 ≤ n) && decide (n < 0xDC00)

def isLowSurrogate (n : Nat) : Bool := decide (0xDC00 ≤ n) && decide (n < 0xE000)

/-- The character that two code units stand for together. -/
def ofSurrogates (high low : Nat) : Char :=
  Char.ofNat (0x10000 + (high - 0xD800) * 1024 + (low - 0xDC00))

end GnssAiding.Text
