/-
Data as trees of objects, arrays, texts and numbers. What counts as a number
differs between the notations, so a tree is over the type `ν` of its
numbers. A text that was written down wrongly (half of a surrogate pair, or
bytes that are no text) is kept as `none`: it matters only to a reader that
looks at it.
-/
namespace GnssAiding

/-- A tree of data with numbers in `ν`. -/
inductive Json (ν : Type)
  | null
  | bool (b : Bool)
  | number (n : ν)
  | text (s : Option String)
  | array (items : List (Json ν))
  /-- The members in the order in which they are written. -/
  | object (members : List (Option String × Json ν))
deriving Repr

/-- The number of a tree in strict notation: an integer, or any other number. -/
abbrev Whole := Option Int

namespace Json

instance {ν : Type} : Inhabited (Json ν) := ⟨null⟩

variable {ν : Type}

def ofText (s : String) : Json ν := text (some s)

/-- An object with these members. -/
def ofMembers (members : List (String × Json ν)) : Json ν :=
  object (members.map fun (k, v) => (some k, v))

def ofInt (n : Int) : Json Whole := number (some n)

def ofNat (n : Nat) : Json Whole := number (some n)

/-- The value, or null. -/
def ofOption {α} (f : α → Json ν) : Option α → Json ν
  | none => null
  | some a => f a

end Json

end GnssAiding
