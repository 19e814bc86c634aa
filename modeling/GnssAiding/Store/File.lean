/-
Files of assistance data, compressed when their name says so.
-/
import GnssAiding.Store.Gzip
import GnssAiding.Store.Path

namespace GnssAiding.Store

/-- The contents of a file as they are stored. -/
def FileKind.encode : FileKind → Bytes → Bytes
  | raw, data => data
  | gzip, data => Gzip.compress data

/-- What the stored contents of a file stand for. -/
def FileKind.decode : FileKind → Bytes → Except FileError Bytes
  | raw, data => .ok data
  | gzip, data => Gzip.decompress data

/-- The contents of the file at a path. -/
def load (path : String) (root : Node) : Except FileError Bytes := do
  (Path.kind path).decode (← root.read (Path.names path))

/-- Stores a file at a path; directories are made where they are missing. -/
def store (path : String) (data : Bytes) (root : Node) : Except FileError Node := do
  let names := Path.names path
  let root ← root.makeDirs names.dropLast
  root.write ((Path.kind path).encode data) names

end GnssAiding.Store
