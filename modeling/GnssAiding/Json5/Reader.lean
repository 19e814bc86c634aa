/-
The relaxed notation, read from a text one character at a time: comments,
words for keys, single quotes, more escapes, more numbers.
-/
import GnssAiding.Json.Decode
import GnssAiding.Json.Token
import GnssAiding.Json5.Numeral
import GnssAiding.Text.Category

namespace GnssAiding.Json5

open Json

/-! ## Classes of characters -/

def isLineEnd (c : Char) : Bool :=
  c == '\n' || c == '\r' || c == '\u2028' || c == '\u2029'

def isBlank (c : Char) : Bool :=
  c == '\t' || c == '\x0b' || c == '\x0c' || c == '\ufeff' || Text.blanks.contains c || isLineEnd c

/-- May begin a word. -/
def startsWord (c : Char) : Bool := c == '$' || c == '_' || Text.letters.contains c

/-- May stand in a word. -/
def inWord (c : Char) : Bool :=
  startsWord c || Text.nonspacingMarks.contains c || Text.spacingMarks.contains c ||
    Text.decimalDigits.contains c || Text.connectors.contains c || c == '\u200c' || c == '\u200d'

/-- May begin a number. -/
def startsNumber (c : Char) : Bool :=
  c == '+' || c == '-' || c == '.' || Text.isDigit c

/-- May stand in a number; whether the whole is one is seen at its end. -/
def inNumber (c : Char) : Bool :=
  startsNumber c || (decide ('a' ≤ c) && decide (c ≤ 'z')) || (decide ('A' ≤ c) && decide (c ≤ 'Z'))

/-! ## Texts -/

/-- A piece of a text or a word: a character, or a code unit that is escaped. -/
inductive Piece
  | char (c : Char)
  | unit (n : Nat)
deriving DecidableEq, Repr

/-- The characters of the pieces, unless one is half of a surrogate pair. -/
def chars? : List Piece → Option (List Char)
  | [] => some []
  | .char c :: ps => (chars? ps).map (c :: ·)
  | .unit high :: .unit low :: ps =>
    if Text.isHighSurrogate high then
      if Text.isLowSurrogate low then (chars? ps).map (Text.ofSurrogates high low :: ·) else none
    else if Text.isLowSurrogate high then none
    else (chars? (.unit low :: ps)).map (Char.ofNat high :: ·)
  | .unit n :: ps =>
    if Text.isHighSurrogate n || Text.isLowSurrogate n then none
    else (chars? ps).map (Char.ofNat n :: ·)

def text? (ps : List Piece) : Option String := (chars? ps).map String.ofList

/-- What a character behind a backslash stands for, where it needs no more
characters. -/
def shortEscape? (c : Char) : Option Char :=
  match c with
  | 'b' => some '\x08'
  | 'f' => some '\x0c'
  | 'n' => some '\n'
  | 'r' => some '\r'
  | 't' => some '\t'
  | 'v' => some '\x0b'
  | '0' => some '\x00'
  | c => if Text.isDigit c then none else some c

/-! ## Tokens -/

/-- What an escape belongs to. -/
inductive Holder
  | text (quote : Char)
  | word
deriving DecidableEq, Repr

/-- What is being read; tokens, pieces and characters are kept from the last
to the first. -/
inductive Mode
  | between
  /-- Behind a slash. -/
  | slash
  | lineComment
  | blockComment
  /-- Behind a star in a comment. -/
  | blockStar
  | number (cs : List Char)
  | word (ps : List Piece)
  | text (quote : Char) (ps : List Piece)
  /-- Behind a backslash. -/
  | escape (holder : Holder) (ps : List Piece)
  /-- Behind a backslash and a carriage return. -/
  | continued (quote : Char) (ps : List Piece)
  /-- In an escape with so many digits to come; two digits name a character,
  four a code unit. -/
  | hex (holder : Holder) (ps : List Piece) (asUnit : Bool) (left : Nat) (n : Nat)
deriving DecidableEq, Repr

structure State where
  tokens : List (Token Numeral)
  mode : Mode

/-- A character between two tokens. -/
def State.open (tokens : List (Token Numeral)) (c : Char) : Option State :=
  if isBlank c then some ⟨tokens, .between⟩
  else if c = '/' then some ⟨tokens, .slash⟩
  else if c = '\x7b' then some ⟨.openObject :: tokens, .between⟩
  else if c = '\x7d' then some ⟨.closeObject :: tokens, .between⟩
  else if c = '[' then some ⟨.openArray :: tokens, .between⟩
  else if c = ']' then some ⟨.closeArray :: tokens, .between⟩
  else if c = ',' then some ⟨.comma :: tokens, .between⟩
  else if c = ':' then some ⟨.colon :: tokens, .between⟩
  else if c = '"' ∨ c = '\'' then some ⟨tokens, .text c []⟩
  else if startsNumber c then some ⟨tokens, .number [c]⟩
  else if startsWord c then some ⟨tokens, .word [.char c]⟩
  else if c = '\\' then some ⟨tokens, .escape .word []⟩
  else none

/-- The token of a word. A word with an escape in it is never a value. -/
def wordToken (ps : List Piece) : Token Numeral :=
  .word (text? ps.reverse) (ps.all fun p =>
    match p with
    | .char _ => true
    | .unit _ => false)

/-- Goes on with the text or the word behind an escape. -/
def Holder.resume (h : Holder) (ps : List Piece) : Mode :=
  match h with
  | .text quote => .text quote ps
  | .word => .word ps

def State.step (s : State) (c : Char) : Option State :=
  match s.mode with
  | .between => State.open s.tokens c
  | .slash =>
    if c = '/' then some { s with mode := .lineComment }
    else if c = '*' then some { s with mode := .blockComment }
    else none
  | .lineComment => some { s with mode := if isLineEnd c then .between else .lineComment }
  | .blockComment => some { s with mode := if c = '*' then .blockStar else .blockComment }
  | .blockStar =>
    some { s with
      mode := if c = '/' then .between else if c = '*' then .blockStar else .blockComment }
  | .number cs =>
    if inNumber c then some { s with mode := .number (c :: cs) }
    else do
      let n ← Numeral.ofChars? cs.reverse
      State.open (.number n :: s.tokens) c
  | .word ps =>
    if inWord c then some { s with mode := .word (.char c :: ps) }
    else if c = '\\' then some { s with mode := .escape .word ps }
    else State.open (wordToken ps :: s.tokens) c
  | .text quote ps =>
    if c = quote then some ⟨.text (text? ps.reverse) :: s.tokens, .between⟩
    else if c = '\\' then some { s with mode := .escape (.text quote) ps }
    else if isLineEnd c then none
    else some { s with mode := .text quote (.char c :: ps) }
  | .escape holder ps =>
    if c = 'u' then some { s with mode := .hex holder ps true 4 0 }
    else
      match holder with
      | .word => none
      | .text quote =>
        if c = 'x' then some { s with mode := .hex holder ps false 2 0 }
        else if c = '\r' then some { s with mode := .continued quote ps }
        else if isLineEnd c then some { s with mode := .text quote ps }
        else do
          let e ← shortEscape? c
          some { s with mode := .text quote (.char e :: ps) }
  | .continued quote ps =>
    if c = '\n' then some { s with mode := .text quote ps }
    else if c = quote then some ⟨.text (text? ps.reverse) :: s.tokens, .between⟩
    else if c = '\\' then some { s with mode := .escape (.text quote) ps }
    else if isLineEnd c then none
    else some { s with mode := .text quote (.char c :: ps) }
  | .hex holder ps asUnit left n => do
    let d ← Text.hexDigit? c
    let n := 16 * n + d
    if left ≤ 1 then
      some { s with
        mode := holder.resume ((if asUnit then .unit n else .char (Char.ofNat n)) :: ps) }
    else some { s with mode := .hex holder ps asUnit (left - 1) n }

/-- The tokens of a text. -/
def tokens? (cs : List Char) : Option (List (Token Numeral)) := do
  let s ← cs.foldlM State.step ⟨[], .between⟩
  match s.mode with
  | .between | .lineComment => some s.tokens.reverse
  | .number cs => do
    let n ← Numeral.ofChars? cs.reverse
    some (.number n :: s.tokens).reverse
  | .word ps => some (wordToken ps :: s.tokens).reverse
  | _ => none

/-- Five words are values; words may name members, and a comma may follow
the last item. -/
def grammar : Grammar Numeral where
  constant
    | "null" => some .null
    | "true" => some (.bool true)
    | "false" => some (.bool false)
    | "Infinity" => some (.number (.infinity none))
    | "NaN" => some (.number (.nan none))
    | _ => none
  wordKeys := true
  trailingComma := true

/-- The tree that a text spells. -/
def parse? (s : String) : Option (Json Numeral) := do
  ofTokens? grammar (← tokens? s.toList)

/-! ## Trees taken for values -/

mutual

/-- What is skipped must still be sound: texts must be texts, and numbers
must not be too large. -/
def skippable : Json Numeral → Bool
  | .number n => n.skippable
  | .text s => s.isSome
  | .array js => skippableItems js
  | .object ms => skippableMembers ms
  | _ => true

def skippableItems : List (Json Numeral) → Bool
  | [] => true
  | j :: js => skippable j && skippableItems js

def skippableMembers : List (Option String × Json Numeral) → Bool
  | [] => true
  | (k, v) :: ms => k.isSome && skippable v && skippableMembers ms

end

/-- Relaxed trees: every number stands for an integer, and what is left over
in an array, or behind the name of a variant, does not matter. -/
def relaxed : Dialect Numeral where
  integer := Numeral.integer?
  skippable := skippable
  closed := false

end GnssAiding.Json5
