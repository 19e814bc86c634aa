/-
The strict notation, written without blanks.
-/
import GnssAiding.Json.Value
import GnssAiding.Text.Digits

namespace GnssAiding.Json

/-- How a character stands in a text: quotes, backslashes and controls are
escaped, all else stands for itself. -/
def escaped (c : Char) : List Char :=
  match c with
  | '"' => ['\\', '"']
  | '\\' => ['\\', '\\']
  | '\n' => ['\\', 'n']
  | '\t' => ['\\', 't']
  | '\r' => ['\\', 'r']
  | '\x08' => ['\\', 'b']
  | '\x0c' => ['\\', 'f']
  | c =>
    if c.toNat < 32 then
      ['\\', 'u', '0', '0', Text.hexChar (c.toNat / 16), Text.hexChar (c.toNat % 16)]
    else [c]

def quoted (s : String) : List Char := '"' :: (s.toList.flatMap escaped ++ ['"'])

/-- Lists of characters with commas between them. -/
def separated : List (List Char) → List Char
  | [] => []
  | [x] => x
  | x :: xs => x ++ ',' :: separated xs

mutual

/-- The characters of a tree. Numbers that are not whole and texts that are
none do not occur in trees that are written; they become nulls. -/
def chars : Json Whole → List Char
  | null => "null".toList
  | bool b => (if b then "true" else "false").toList
  | number (some n) => (toString n).toList
  | number none => "null".toList
  | text (some s) => quoted s
  | text none => "null".toList
  | array items => '[' :: (separated (itemChars items) ++ [']'])
  | object members => '\x7b' :: (separated (memberChars members) ++ ['\x7d'])

/-- The characters of each item. -/
def itemChars : List (Json Whole) → List (List Char)
  | [] => []
  | j :: js => chars j :: itemChars js

/-- The characters of each member. -/
def memberChars : List (Option String × Json Whole) → List (List Char)
  | [] => []
  | (k, v) :: ms => (quoted (k.getD "") ++ ':' :: chars v) :: memberChars ms

end

def write (j : Json Whole) : String := String.ofList j.chars

end GnssAiding.Json
