/-
Whole numbers read as decimal fractions: so many of the last digits stand
behind the point.
-/
import GnssAiding.Error
import GnssAiding.Text.Digits

namespace GnssAiding.FixedPoint

/-- `value` divided by ten to the `decimals`, in decimal. Without decimals a
zero stands behind the point. -/
def chars (value : Int) (decimals : Nat) : List Char :=
  let scale := Nat.pow 10 decimals
  let n := value.natAbs
  (if value < 0 then ['-'] else []) ++ Nat.toDigits 10 (n / scale) ++ '.' ::
    Text.padded decimals (Nat.toDigits 10 (n % scale))

def text (value : Int) (decimals : Nat) : String := String.ofList (chars value decimals)

/-- A number of at most 128 bits as a signed one; the unsigned ones beyond
count as zero. -/
def signed (value : Int) : Int :=
  if -Nat.pow 2 127 ≤ value ∧ value < Nat.pow 2 127 then value else 0

/-- The most decimals for which the scale has at most 128 bits. -/
def maxDecimals : Nat := 38

/-- The text of a number of at most 128 bits, when the scale has no more
either. -/
def render (value : Int) (decimals : Nat) : Except Fault String :=
  if decimals ≤ maxDecimals then .ok (text (signed value) decimals) else .error .overflow

end GnssAiding.FixedPoint
