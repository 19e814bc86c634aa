/-
What the loader does with the receiver.
-/
import GnssAiding.Text.Quoted

namespace GnssAiding.Loader

inductive Mode
  /-- Send online data. -/
  | online
  /-- Send today's part of offline data. -/
  | offline
  /-- Store offline data in flash. -/
  | flash
  /-- Store a legacy file in flash. -/
  | legacyFlash
  /-- Serve a legacy file until interrupted. -/
  | legacyServer
  /-- Erase the offline data in flash. -/
  | erase
  /-- Save the navigation data base to a file. -/
  | database
  /-- Restore the navigation data base from a file. -/
  | restore
deriving DecidableEq, Repr

namespace Mode

/-- What a mode is called on the command line. -/
def name : Mode → String
  | online => "online"
  | offline => "offline"
  | flash => "flash"
  | legacyFlash => "legacy-flash"
  | legacyServer => "legacy-server"
  | erase => "erase"
  | database => "database"
  | restore => "restore"

def all : List Mode :=
  [online, offline, flash, legacyFlash, legacyServer, erase, database, restore]

/-- The mode that is called so. -/
def ofName? (s : String) : Option Mode := all.find? fun m => m.name == s

/-- What is said of a name that no mode has. -/
def unknown (s : String) : String := "unknown mode " ++ Text.quote s

def parse (s : String) : Except String Mode :=
  match ofName? s with
  | some m => .ok m
  | none => .error (unknown s)

end Mode

end GnssAiding.Loader
