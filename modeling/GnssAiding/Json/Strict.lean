/-
The strict notation, read from bytes one at a time. Texts are checked only
for their shape here; whether one is a text at all is noted in the token.
-/
import GnssAiding.Bytes
import GnssAiding.Json.Token
import GnssAiding.Text.Digits

namespace GnssAiding.Json.Strict

open Text

/-! ## Numbers -/

/-- A whole part without needless zeros. -/
def wholePart (cs : List Char) : Bool :=
  match cs with
  | [] => false
  | ['0'] => true
  | c :: cs => c != '0' && (c :: cs).all isDigit

/-- What may follow the mark of an exponent. -/
def exponentPart (cs : List Char) : Bool :=
  match cs with
  | '+' :: ds | '-' :: ds => !ds.isEmpty && ds.all isDigit
  | ds => !ds.isEmpty && ds.all isDigit

/-- What may follow the whole part. -/
def fractionPart (cs : List Char) : Bool :=
  let exponent (cs : List Char) : Bool :=
    match cs with
    | [] => true
    | c :: ds => (c == 'e' || c == 'E') && exponentPart ds
  match cs with
  | '.' :: ds => !(ds.takeWhile isDigit).isEmpty && exponent (ds.dropWhile isDigit)
  | cs => exponent cs

/-- The number that a literal stands for, if it is one. An integer must be
written as one, and a negative zero is none. -/
def number? (cs : List Char) : Option Whole :=
  let (negative, cs) := match cs with
    | '-' :: cs => (true, cs)
    | cs => (false, cs)
  let whole := cs.takeWhile isDigit
  let rest := cs.dropWhile isDigit
  if wholePart whole && fractionPart rest then
    if rest.isEmpty && !(negative && ofDigits whole == 0) then
      some (some (if negative then -(ofDigits whole : Int) else ofDigits whole))
    else some none
  else none

/-! ## Texts -/

/-- A piece of a text: a byte as it stands, or a code unit that is escaped. -/
inductive Piece
  | byte (b : UInt8)
  | unit (n : Nat)
deriving DecidableEq, Repr

/-- The byte that a short escape stands for. -/
def shortEscape? (b : UInt8) : Option UInt8 :=
  match b.toNat with
  | 34 => some 34
  | 92 => some 92
  | 47 => some 47
  | 98 => some 8
  | 102 => some 12
  | 110 => some 10
  | 114 => some 13
  | 116 => some 9
  | _ => none

def utf8 (c : Char) : Bytes := (String.singleton c).toUTF8.data.toList

/-- The bytes of a text, unless it has half of a surrogate pair. -/
def bytes? : List Piece → Option Bytes
  | [] => some []
  | .byte b :: ps => (bytes? ps).map (b :: ·)
  | .unit high :: .unit low :: ps =>
    if isHighSurrogate high then
      if isLowSurrogate low then (bytes? ps).map (utf8 (ofSurrogates high low) ++ ·) else none
    else if isLowSurrogate high then none
    else (bytes? (.unit low :: ps)).map (utf8 (Char.ofNat high) ++ ·)
  | .unit n :: ps =>
    if isHighSurrogate n || isLowSurrogate n then none
    else (bytes? ps).map (utf8 (Char.ofNat n) ++ ·)

/-- The text of the pieces, if they are one. -/
def text? (ps : List Piece) : Option String := do
  let bs ← bytes? ps
  String.fromUTF8? ⟨bs.toArray⟩

/-! ## Tokens -/

/-- What is being read; tokens and pieces are kept from the last to the first. -/
inductive Mode
  | between
  | number (cs : List Char)
  | word (cs : List Char)
  | text (ps : List Piece)
  /-- Behind a backslash. -/
  | escape (ps : List Piece)
  /-- Behind `\u`, with so many digits to come. -/
  | hex (ps : List Piece) (left : Nat) (n : Nat)
deriving DecidableEq, Repr

structure State where
  tokens : List (Token Whole)
  mode : Mode

def isBlank (b : UInt8) : Bool := b == 32 || b == 10 || b == 9 || b == 13

def isLower (b : UInt8) : Bool := decide (97 ≤ b.toNat) && decide (b.toNat ≤ 122)

/-- The characters that numbers are made of. -/
def inNumber (b : UInt8) : Bool :=
  (decide (48 ≤ b.toNat) && decide (b.toNat ≤ 57)) || b == 43 || b == 45 || b == 46 || b == 69 ||
    b == 101

/-- A byte between two tokens. -/
def State.open (tokens : List (Token Whole)) (b : UInt8) : Option State :=
  let c := Char.ofNat b.toNat
  if isBlank b then some ⟨tokens, .between⟩
  else if c = '\x7b' then some ⟨.openObject :: tokens, .between⟩
  else if c = '\x7d' then some ⟨.closeObject :: tokens, .between⟩
  else if c = '[' then some ⟨.openArray :: tokens, .between⟩
  else if c = ']' then some ⟨.closeArray :: tokens, .between⟩
  else if c = ',' then some ⟨.comma :: tokens, .between⟩
  else if c = ':' then some ⟨.colon :: tokens, .between⟩
  else if c = '"' then some ⟨tokens, .text []⟩
  else if isLower b then some ⟨tokens, .word [c]⟩
  else if inNumber b then some ⟨tokens, .number [c]⟩
  else none

def State.step (s : State) (b : UInt8) : Option State :=
  let c := Char.ofNat b.toNat
  match s.mode with
  | .between => State.open s.tokens b
  | .number cs =>
    if inNumber b then some { s with mode := .number (c :: cs) }
    else do
      let n ← number? cs.reverse
      State.open (.number n :: s.tokens) b
  | .word cs =>
    if isLower b then some { s with mode := .word (c :: cs) }
    else State.open (.word (some (String.ofList cs.reverse)) true :: s.tokens) b
  | .text ps =>
    if c = '"' then some ⟨.text (text? ps.reverse) :: s.tokens, .between⟩
    else if c = '\\' then some { s with mode := .escape ps }
    else if b.toNat < 32 then none
    else some { s with mode := .text (.byte b :: ps) }
  | .escape ps =>
    if c = 'u' then some { s with mode := .hex ps 4 0 }
    else do
      let e ← shortEscape? b
      some { s with mode := .text (.byte e :: ps) }
  | .hex ps left n => do
    let d ← hexDigit? c
    let n := 16 * n + d
    some { s with mode := if left ≤ 1 then .text (.unit n :: ps) else .hex ps (left - 1) n }

/-- The tokens of a string of bytes. -/
def tokens? (data : Bytes) : Option (List (Token Whole)) := do
  let s ← data.foldlM State.step ⟨[], .between⟩
  match s.mode with
  | .between => some s.tokens.reverse
  | .number cs => do
    let n ← number? cs.reverse
    some (.number n :: s.tokens).reverse
  | .word cs => some (.word (some (String.ofList cs.reverse)) true :: s.tokens).reverse
  | _ => none

/-- Three words are values; members are named by texts, and commas stand
between items only. -/
def grammar : Grammar Whole where
  constant
    | "null" => some .null
    | "true" => some (.bool true)
    | "false" => some (.bool false)
    | _ => none
  wordKeys := false
  trailingComma := false

/-- The tree that a string of bytes spells. -/
def parse? (data : Bytes) : Option (Json Whole) := do
  ofTokens? grammar (← tokens? data)

end GnssAiding.Json.Strict
