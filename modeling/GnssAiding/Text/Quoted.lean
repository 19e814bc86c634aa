/-
Texts in quotes, as they stand in messages for people: what cannot be
printed by itself is escaped.
-/
import GnssAiding.Text.Category

namespace GnssAiding.Text

/-- Extends the character before it. -/
def isExtender (c : Char) : Bool :=
  nonspacingMarks.contains c || enclosingMarks.contains c || otherExtenders.contains c

/-- Stands for itself between quotes. -/
def isPrintable (c : Char) : Bool := !unprintable.contains c && !isExtender c

/-- How a character stands between quotes. -/
def escape (c : Char) : List Char :=
  match c with
  | '\x00' => ['\\', '0']
  | '\t' => ['\\', 't']
  | '\n' => ['\\', 'n']
  | '\r' => ['\\', 'r']
  | '"' => ['\\', '"']
  | '\\' => ['\\', '\\']
  | c =>
    if isPrintable c then [c]
    else ['\\', 'u', '\x7b'] ++ Nat.toDigits 16 c.toNat ++ ['\x7d']

/-- A text in double quotes. -/
def quote (s : String) : String :=
  String.ofList ('"' :: (s.toList.flatMap escape ++ ['"']))

end GnssAiding.Text
