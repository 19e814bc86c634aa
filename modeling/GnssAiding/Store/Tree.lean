/-
Files in directories, as a value: what the loader keeps on disk, and how an
access to it fails.
-/
import GnssAiding.Bytes

namespace GnssAiding.Store

/-- How an access to a file fails. -/
inductive FileError
  | notFound
  | alreadyExists
  /-- A file stands where a directory is needed. -/
  | notADirectory
  /-- A directory stands where a file is needed. -/
  | isADirectory
  /-- The contents end too early. -/
  | unexpectedEnd
  /-- The contents are damaged. -/
  | invalidInput
  /-- The contents are not what they should be. -/
  | invalidData
  | other
deriving DecidableEq, Repr

def FileError.message : FileError → String
  | notFound => "No such file"
  | alreadyExists => "A file of that name exists"
  | notADirectory => "Not a directory"
  | isADirectory => "Is a directory"
  | unexpectedEnd => "The file ends too early"
  | invalidInput => "The file is damaged"
  | invalidData => "The file is not understood"
  | other => "The file cannot be used"

/-- A file or a directory. -/
inductive Node
  | file (data : Bytes)
  /-- Each entry once. -/
  | dir (entries : List (String × Node))

namespace Node

def empty : Node := dir []

/-- Entries with one of them replaced or added. -/
def setEntry (name : String) (node : Node) : List (String × Node) → List (String × Node)
  | [] => [(name, node)]
  | (n, x) :: es => if n = name then (n, node) :: es else (n, x) :: setEntry name node es

/-- What stands at a path. -/
def find : List String → Node → Except FileError Node
  | [], node => .ok node
  | _ :: _, file _ => .error .notADirectory
  | name :: path, dir entries =>
    match entries.lookup name with
    | some node => find path node
    | none => .error .notFound

/-- The contents of the file at a path. -/
def read (path : List String) (root : Node) : Except FileError Bytes :=
  match find path root with
  | .ok (file data) => .ok data
  | .ok (dir _) => .error .isADirectory
  | .error e => .error e

/-- Makes a directory and those above it, where they are missing. -/
def makeDirs : List String → Node → Except FileError Node
  | [], dir entries => .ok (dir entries)
  | [], file _ => .error .alreadyExists
  | _ :: _, file _ => .error .notADirectory
  | name :: path, dir entries => do
    let node ← makeDirs path ((entries.lookup name).getD empty)
    .ok (dir (setEntry name node entries))

/-- Makes a file in a directory that exists, or replaces one. -/
def write (data : Bytes) : List String → Node → Except FileError Node
  | [], _ => .error .isADirectory
  | _ :: _, file _ => .error .notADirectory
  | [name], dir entries =>
    match entries.lookup name with
    | some (dir _) => .error .isADirectory
    | _ => .ok (dir (setEntry name (file data) entries))
  | name :: path, dir entries => do
    match entries.lookup name with
    | none => .error .notFound
    | some node =>
      let node ← write data path node
      .ok (dir (setEntry name node entries))

mutual

/-- The paths of everything below a node, with a slash behind directories. -/
def paths (above : String) : Node → List String
  | file _ => []
  | dir entries => entryPaths above entries

def entryPaths (above : String) : List (String × Node) → List String
  | [] => []
  | (name, file _) :: es => (above ++ name) :: entryPaths above es
  | (name, dir entries) :: es =>
    (above ++ name ++ "/") :: (entryPaths (above ++ name ++ "/") entries ++ entryPaths above es)

end

/-- Everything in a directory, in order. -/
def listing (root : Node) : List String :=
  (paths "" root).mergeSort fun a b => decide (a ≤ b)

end Node

end GnssAiding.Store
