/-
Dates as text: year, month and day with hyphens between them. Written, the
year has four digits, or a sign and four digits or more; read, digits may be
left out and blanks may stand before each number and each hyphen.
-/
import GnssAiding.Calendar
import GnssAiding.Text.Digits

namespace GnssAiding

namespace Text

/-- Blanks and line ends. -/
def isWhite (c : Char) : Bool :=
  let n := c.toNat
  (decide (9 ≤ n) && decide (n ≤ 13)) || n == 0x20 || n == 0x85 || n == 0xA0 || n == 0x1680 ||
    (decide (0x2000 ≤ n) && decide (n ≤ 0x200A)) || n == 0x2028 || n == 0x2029 || n == 0x202F ||
    n == 0x205F || n == 0x3000

end Text

namespace Date

open Text

/-- A number of at most `width` digits behind blanks, and what follows it. -/
def number? (width : Option Nat) (cs : List Char) : Option (Nat × List Char) :=
  let run := cs.takeWhile isDigit
  let run := match width with
    | some w => run.take w
    | none => run
  if run.isEmpty then none else some (ofDigits run, cs.drop run.length)

/-- A year; with a sign it may have any number of digits. -/
def year? (cs : List Char) : Option (Int × List Char) :=
  match cs with
  | '-' :: cs => (number? none cs).map fun (n, rest) => (-(n : Int), rest)
  | '+' :: cs => (number? none cs).map fun (n, rest) => ((n : Int), rest)
  | cs => (number? (some 4) cs).map fun (n, rest) => ((n : Int), rest)

def hyphen? (cs : List Char) : Option (List Char) :=
  match cs.dropWhile isWhite with
  | '-' :: rest => some (rest.dropWhile isWhite)
  | _ => none

/-- The date that a text names. -/
def parse? (s : String) : Option Date := do
  let (year, cs) ← year? (s.toList.dropWhile isWhite)
  let (month, cs) ← number? (some 2) (← hyphen? cs)
  let (day, cs) ← number? (some 2) (← hyphen? cs)
  if (cs.dropWhile isWhite).isEmpty then make? year month day else none

/-- The text of a date. -/
def text (d : Date) : String :=
  let year :=
    if 0 ≤ d.year ∧ d.year ≤ 9999 then padded 4 (Nat.toDigits 10 d.year.toNat)
    else (if d.year < 0 then '-' else '+') :: padded 4 (Nat.toDigits 10 d.year.natAbs)
  String.ofList (year ++ '-' :: padded 2 (Nat.toDigits 10 d.month) ++
    '-' :: padded 2 (Nat.toDigits 10 d.day))

end Date

end GnssAiding
