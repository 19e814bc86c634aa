/-
Trees from tokens. The notations differ in their tokens and in three habits
(`Grammar`); how objects and arrays nest is the same, and is read by a
machine that keeps the containers still open.
-/
import GnssAiding.Json.Value

namespace GnssAiding.Json

/-- The tokens of a notation. -/
inductive Token (ν : Type)
  | openObject
  | closeObject
  | openArray
  | closeArray
  | comma
  | colon
  | text (s : Option String)
  | number (n : ν)
  /-- A word, and whether it is written without escapes. -/
  | word (s : Option String) (plain : Bool)
deriving Repr

/-- The habits of a notation. -/
structure Grammar (ν : Type) where
  /-- The words that are values. -/
  constant : String → Option (Json ν)
  /-- Words may name members. -/
  wordKeys : Bool
  /-- A comma may follow the last item. -/
  trailingComma : Bool

namespace Token

variable {ν : Type}

/-- A container that is still open, with its items from the last to the first. -/
inductive Level (ν : Type)
  | array (done : List (Json ν))
  | object (done : List (Option String × Json ν))
  /-- An object that waits for the value of a member. -/
  | member (done : List (Option String × Json ν)) (key : Option String)

/-- What must come next. -/
inductive Want
  | value
  | valueOrClose
  | key
  | keyOrClose
  | colon
  | separator
deriving DecidableEq, Repr

/-- The open containers, the innermost first, and the tree once it is read. -/
structure State (ν : Type) where
  levels : List (Level ν)
  want : Want
  root : Option (Json ν)

def State.initial : State ν := ⟨[], .value, none⟩

/-- A value is complete. -/
def State.put (s : State ν) (v : Json ν) : Option (State ν) :=
  match s.levels with
  | [] => some ⟨[], .separator, some v⟩
  | .array done :: rest => some ⟨.array (v :: done) :: rest, .separator, none⟩
  | .member done key :: rest => some ⟨.object ((key, v) :: done) :: rest, .separator, none⟩
  | .object _ :: _ => none

/-- A key is complete. -/
def State.putKey (s : State ν) (key : Option String) : Option (State ν) :=
  match s.levels with
  | .object done :: rest => some ⟨.member done key :: rest, .colon, none⟩
  | _ => none

/-- The innermost container is complete. -/
def State.close (s : State ν) (isArray : Bool) : Option (State ν) :=
  match s.levels, isArray with
  | .array done :: rest, true => { s with levels := rest }.put (.array done.reverse)
  | .object done :: rest, false => { s with levels := rest }.put (.object done.reverse)
  | _, _ => none

/-- A comma separates two items. -/
def State.comma (g : Grammar ν) (s : State ν) : Option (State ν) :=
  match s.levels with
  | .array _ :: _ => some { s with want := if g.trailingComma then .valueOrClose else .value }
  | .object _ :: _ => some { s with want := if g.trailingComma then .keyOrClose else .key }
  | _ => none

def State.step (g : Grammar ν) (s : State ν) (t : Token ν) : Option (State ν) :=
  match s.want, t with
  | .value, .openObject | .valueOrClose, .openObject =>
    some ⟨.object [] :: s.levels, .keyOrClose, none⟩
  | .value, .openArray | .valueOrClose, .openArray =>
    some ⟨.array [] :: s.levels, .valueOrClose, none⟩
  | .value, .text x | .valueOrClose, .text x => s.put (.text x)
  | .value, .number n | .valueOrClose, .number n => s.put (.number n)
  | .value, .word (some x) true | .valueOrClose, .word (some x) true => do s.put (← g.constant x)
  | .valueOrClose, .closeArray => s.close true
  | .key, .text k | .keyOrClose, .text k => s.putKey k
  | .key, .word k _ | .keyOrClose, .word k _ => if g.wordKeys then s.putKey k else none
  | .keyOrClose, .closeObject => s.close false
  | .colon, .colon => some { s with want := .value }
  | .separator, .comma => s.comma g
  | .separator, .closeArray => s.close true
  | .separator, .closeObject => s.close false
  | _, _ => none

end Token

/-- The tree that the tokens spell, all of them. -/
def ofTokens? {ν : Type} (g : Grammar ν) (tokens : List (Token ν)) : Option (Json ν) := do
  let s ← tokens.foldlM (Token.State.step g) .initial
  s.root

end GnssAiding.Json
