/-
Reading values out of trees. There is one way to fail, so a reader answers
`none`. Records are objects with named members, or arrays of the members in
their order; members that nobody knows are skipped.
-/
import GnssAiding.Json.Value

namespace GnssAiding.Json

/-- How a notation's trees are taken for values. -/
structure Dialect (ν : Type) where
  /-- The integer from the first to the second bound that a number stands for. -/
  integer : Int → Int → ν → Option Int
  /-- What may stand where nobody looks. -/
  skippable : Json ν → Bool
  /-- Arrays and objects may not hold more than is looked at. -/
  closed : Bool

namespace Decode

variable {ν : Type}

/-! ## Simple values -/

/-- An unsigned number of so many bits. -/
def natural? (d : Dialect ν) (bits : Nat) : Json ν → Option Nat
  | .number n => (d.integer 0 (Nat.pow 2 bits - 1) n).map Int.toNat
  | _ => none

/-- A signed number of so many bits. -/
def integer? (d : Dialect ν) (bits : Nat) : Json ν → Option Int
  | .number n => d.integer (-Nat.pow 2 (bits - 1)) (Nat.pow 2 (bits - 1) - 1) n
  | _ => none

def bool? : Json ν → Option Bool
  | .bool b => some b
  | _ => none

def text? : Json ν → Option String
  | .text s => s
  | _ => none

def optional? {α} (read : Json ν → Option α) : Json ν → Option (Option α)
  | .null => some none
  | j => (read j).map some

/-- Items of an array of `n`. -/
def items? {α} (n : Nat) (read : Json ν → Option α) : Json ν → Option (List α)
  | .array js => if js.length = n then js.mapM read else none
  | _ => none

/-! ## Records -/

/-- The members found so far, by name; a member that is known must not come
twice. -/
def collect (d : Dialect ν) (names : List String) :
    List (Option String × Json ν) → Option (List (String × Json ν))
  | [] => some []
  | (none, _) :: _ => none
  | (some k, v) :: ms => do
    let found ← collect d names ms
    if names.contains k then
      if (found.lookup k).isSome then none else some ((k, v) :: found)
    else if d.skippable v then some found
    else none

/-- The members of a record in the order of `names`. In an array all must be
there, unless they have values to fall back on. -/
def members? (d : Dialect ν) (names : List String) (fallBack : Bool) :
    Json ν → Option (List (Option (Json ν)))
  | .object ms => do
    let found ← collect d names ms
    some (names.map fun k => found.lookup k)
  | .array js =>
    if d.closed && decide (names.length < js.length) then none
    else if !fallBack && decide (js.length < names.length) then none
    else some ((List.range names.length).map fun i => js[i]?)
  | _ => none

/-- A member that must be there. -/
def required? {α} (read : Json ν → Option α) (m : Option (Json ν)) : Option α := m.bind read

/-- A member that is null when it is not there. -/
def nullable? {α} (read : Json ν → Option α) : Option (Json ν) → Option (Option α)
  | none => some none
  | some j => optional? read j

/-- A member that has a value to fall back on. -/
def orElse? {α} (value : α) (read : Json ν → Option α) : Option (Json ν) → Option α
  | none => some value
  | some j => read j

/-! ## Variants -/

/-- A variant by name, with its contents if it has any. -/
def variant? (d : Dialect ν) : Json ν → Option (String × Option (Json ν))
  | .text (some s) => some (s, none)
  | .object [(some k, v)] => some (k, some v)
  | .object ((some k, v) :: _) => if d.closed then none else some (k, some v)
  | _ => none

/-- Nothing, or a null. -/
def isBare : Option (Json ν) → Bool
  | none | some .null => true
  | _ => false

/-- One of these names, without contents. -/
def oneOf? {α} (d : Dialect ν) (names : List (String × α)) (j : Json ν) : Option α := do
  let (name, contents) ← variant? d j
  if isBare contents then names.lookup name else none

end Decode

/-- Strict trees: integers are written as such, anything may be skipped, and
nothing may be left over. -/
def strict : Dialect Whole where
  integer lo hi n := n.bind fun n => if lo ≤ n ∧ n ≤ hi then some n else none
  skippable _ := true
  closed := true

end GnssAiding.Json
