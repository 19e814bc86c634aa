/-
Paths, and the kind of file that a path names.
-/
namespace GnssAiding.Store

/-- How the contents of a file are stored. -/
inductive FileKind
  /-- As they are. -/
  | raw
  /-- Compressed. -/
  | gzip
deriving DecidableEq, Repr

/-- What a kind is called. -/
def FileKind.name : FileKind → String
  | raw => "ubx"
  | gzip => "gz"

namespace Path

/-- The names in a path. Empty ones and those for the same directory do not
count. -/
def names (path : String) : List String :=
  ((path.toList.splitOn '/').map String.ofList).filter fun n => n ≠ "" ∧ n ≠ "."

/-- What stands behind the last dot of a name. A dot at the start does not
count, and the name of the directory above has none. -/
def extension? (name : List Char) : Option (List Char) :=
  if name = ['.', '.'] then none
  else
    let tail := (name.reverse.takeWhile (· ≠ '.')).reverse
    let stem := name.length - tail.length
    if 2 ≤ stem then some tail else none

/-- The kind of file that a path names. -/
def kind (path : String) : FileKind :=
  match (names path).getLast? with
  | some name => if extension? name.toList = some ['g', 'z'] then .gzip else .raw
  | none => .raw

end Path

end GnssAiding.Store
