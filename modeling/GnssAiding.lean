import GnssAiding.Frame.Cursor
import GnssAiding.Json.Form.Request
import GnssAiding.Main
import GnssAiding.Proofs.Flash.Completion
import GnssAiding.Proofs.Flash.Cursor
import GnssAiding.Proofs.Flash.Tries
import GnssAiding.Proofs.Frame.Codec
import GnssAiding.Proofs.Frame.Cursor
import GnssAiding.Proofs.Frame.Damage
import GnssAiding.Proofs.Frame.Envelope
import GnssAiding.Proofs.Frame.Holding
import GnssAiding.Proofs.Frame.Reassembly
import GnssAiding.Proofs.Initial.Accuracy
import GnssAiding.Proofs.Initial.Footprint
import GnssAiding.Proofs.Initial.Resealing
import GnssAiding.Proofs.Initial.Seconds
import GnssAiding.Proofs.Legacy.Course
import GnssAiding.Proofs.Legacy.Ending
import GnssAiding.Proofs.Legacy.Header
import GnssAiding.Proofs.Legacy.Link
import GnssAiding.Proofs.Legacy.Server
import GnssAiding.Proofs.Message.List
import GnssAiding.Proofs.Offline.Closest
import GnssAiding.Proofs.Offline.Day
import GnssAiding.Proofs.Offline.Filter
import GnssAiding.Proofs.Request.Offline
import GnssAiding.Proofs.Request.Online
import GnssAiding.Proofs.Request.Writing
import GnssAiding.Proofs.Session.Answering
import GnssAiding.Proofs.Session.Contents
import GnssAiding.Proofs.Session.Harmless
import GnssAiding.Proofs.Session.Inert
import GnssAiding.Proofs.Session.Lifecycle
import GnssAiding.Proofs.Session.Line
import GnssAiding.Proofs.Session.Offline
import GnssAiding.Proofs.Session.Origin
import GnssAiding.Proofs.Session.Rearming
import GnssAiding.Proofs.Session.Refusal
import GnssAiding.Proofs.Session.Restoring
import GnssAiding.Proofs.Session.Sending
import GnssAiding.Proofs.Session.Serving
import GnssAiding.Proofs.Session.Silence
import GnssAiding.Proofs.Snapshot.Closing
import GnssAiding.Proofs.Snapshot.Collection
import GnssAiding.Proofs.Transfer.Arrival
import GnssAiding.Proofs.Transfer.Cargo
import GnssAiding.Proofs.Transfer.Consistent
import GnssAiding.Proofs.Transfer.Course
import GnssAiding.Proofs.Transfer.History
import GnssAiding.Proofs.Transfer.Move
import GnssAiding.Proofs.Transfer.Narrow
import GnssAiding.Proofs.Transfer.Order
import GnssAiding.Proofs.Transfer.Queue
import GnssAiding.Proofs.Transfer.StopAndWait
import GnssAiding.Proofs.Transfer.Turn
import GnssAiding.Proofs.Transfer.Window
import GnssAiding.Version
