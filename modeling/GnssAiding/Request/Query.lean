/-
Query strings of the download services: parameters joined by semicolons,
the token first. Nothing in a query is escaped, so a token that could be
taken for something else is refused.
-/
import GnssAiding.Bytes
import GnssAiding.Error

namespace GnssAiding

/-- Constellations to ask for. -/
structure GnssSelection where
  gps : Bool
  glonass : Bool
  qzss : Bool
  galileo : Bool
  beidou : Bool
deriving DecidableEq, Repr

namespace GnssSelection

def none : GnssSelection := ⟨false, false, false, false, false⟩

/-- What the selected constellations are called. -/
def names (s : GnssSelection) : List String :=
  [(s.gps, "gps"), (s.glonass, "glo"), (s.qzss, "qzss"), (s.galileo, "gal"),
    (s.beidou, "bds")].filterMap fun (on, name) => if on then some name else .none

end GnssSelection

namespace Query

/-- A token that cannot be told from the rest of a query. -/
def ambiguous (token : String) : Bool :=
  token.isEmpty || token.toList.any fun c => c == ';' || c == '&' || c == ' '

/-- A list as one parameter; an empty list is none. -/
def listParameter (key : String) (names : List String) : List String :=
  if names.isEmpty then [] else [key ++ "=" ++ ",".intercalate names]

/-- A query of a token and parameters. -/
def compose (token : String) (parameters : List String) : Except Error String :=
  if ambiguous token then .error (.invalidArgument .token)
  else .ok (";".intercalate (("token=" ++ token) :: parameters))

/-- The bytes of a text. -/
def utf8 (s : String) : Bytes := s.toUTF8.data.toList

/-- Writes a query and a closing zero to the front of a buffer, and answers
the length of the query. Without a buffer only the length is answered; a
buffer that is too small is left alone. -/
def write (query : String) (buffer : Option Bytes) : Except Error Nat × Option Bytes :=
  let text := utf8 query
  match buffer with
  | none => (.ok text.length, none)
  | some b =>
    if b.length < text.length + 1 then (.error (.bufferTooSmall (text.length + 1)), some b)
    else (.ok text.length, some (Bytes.overwrite 0 (text ++ [0]) b))

/-- The same for a query that may have been refused. -/
def writeResult (query : Except Error String) (buffer : Option Bytes) :
    Except Error Nat × Option Bytes :=
  match query with
  | .ok q => write q buffer
  | .error e => (.error e, buffer)

end Query

end GnssAiding
