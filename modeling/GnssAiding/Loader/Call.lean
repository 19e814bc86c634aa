/-
What the loader asks of a session, by mode.
-/
import GnssAiding.Loader.Options
import GnssAiding.Session.Basic

namespace GnssAiding.Loader

/-- The whole seconds of accuracy that the time of the host is given with. -/
def hostAccuracy : UInt16 := 10

/-- The call that hands the data of the file to a session. Offline data is
cut down to a day and goes behind the time of the host, `now`. The two modes
that need no file have no call. -/
def Mode.call? (m : Mode) (day : Date) (now : Moment) (fileId : UInt16) (data : Bytes) :
    Except Error (Option Session.Call) :=
  match m with
  | online => .ok (some (.sendOnline data none))
  | offline => do
    let today ← Offline.day day data
    pure (some (.sendOffline today (.absolute now hostAccuracy 0) none))
  | flash => .ok (some (.sendToFlash data))
  | legacyFlash => .ok (some (.sendLegacyToFlash data))
  | legacyServer => .ok (some (.startServer data fileId))
  | restore => .ok (some (.sendSnapshot data))
  | erase | database => .ok none

/-- The day to pick offline data for. -/
def Options.day (o : Options) (now : Moment) : Date := o.date.getD now.date

/-- What a server has now, if the receiver has changed it since it was `saved`. -/
def changedFile? (saved : Bytes) (s : Session) : Option Bytes :=
  match s.job with
  | .server server => if server.file = saved then none else some server.file
  | _ => none

end GnssAiding.Loader
