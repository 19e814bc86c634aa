/-
Messages, reports and events as trees.
-/
import GnssAiding.Event
import GnssAiding.Json.Decode

namespace GnssAiding

open Json Json.Decode

namespace Kind

/-- What a kind is called outside. -/
def name : Kind → String
  | mgaGps => "MgaGps"
  | mgaGal => "MgaGal"
  | mgaBds => "MgaBds"
  | mgaQzss => "MgaQzss"
  | mgaGlo => "MgaGlo"
  | mgaAno => "MgaAno"
  | mgaIni => "MgaIni"
  | mgaAck => "MgaAck"
  | mgaFlash => "MgaFlash"
  | mgaDbd => "MgaDbd"
  | aidIni => "AidIni"
  | aidHui => "AidHui"
  | aidAlm => "AidAlm"
  | aidEph => "AidEph"
  | aidAlp => "AidAlp"
  | aidAlpsrv => "AidAlpsrv"
  | ack => "Ack"
  | nak => "Nak"

end Kind

namespace Progress

def names : List (String × Progress) :=
  [("WaitingToSend", waitingToSend), ("WaitingForAck", waitingForAck),
    ("WaitingForResend", waitingForResend), ("Received", received), ("Failed", failed),
    ("WaitingForAckSecondChance", waitingForSecondChance)]

def name : Progress → String
  | waitingToSend => "WaitingToSend"
  | waitingForAck => "WaitingForAck"
  | waitingForResend => "WaitingForResend"
  | received => "Received"
  | failed => "Failed"
  | waitingForSecondChance => "WaitingForAckSecondChance"

def toJson (p : Progress) : Json Whole := .ofText p.name

def ofJson? (j : Json Whole) : Option Progress := oneOf? strict names j

end Progress

namespace FailureReason

def names : List (String × FailureReason) :=
  [("NotSet", notSet), ("NoTime", noTime), ("VersionNotSupported", versionNotSupported),
    ("SizeVersionMismatch", sizeVersionMismatch), ("CouldNotStore", couldNotStore),
    ("ReceiverNotReady", receiverNotReady), ("MessageUnknown", messageUnknown),
    ("Rejected", rejected), ("TooManyRetries", tooManyRetries)]

def name : FailureReason → String
  | notSet => "NotSet"
  | noTime => "NoTime"
  | versionNotSupported => "VersionNotSupported"
  | sizeVersionMismatch => "SizeVersionMismatch"
  | couldNotStore => "CouldNotStore"
  | receiverNotReady => "ReceiverNotReady"
  | messageUnknown => "MessageUnknown"
  | rejected => "Rejected"
  | tooManyRetries => "TooManyRetries"

def toJson (r : FailureReason) : Json Whole := .ofText r.name

def ofJson? (j : Json Whole) : Option FailureReason := oneOf? strict names j

end FailureReason

namespace TerminateReason

def names : List (String × TerminateReason) :=
  [("HostCancel", hostCancel), ("ReceiverNak", receiverNak),
    ("ReceiverNotResponding", receiverNotResponding), ("ProtocolError", protocolError)]

def name : TerminateReason → String
  | hostCancel => "HostCancel"
  | receiverNak => "ReceiverNak"
  | receiverNotResponding => "ReceiverNotResponding"
  | protocolError => "ProtocolError"

def toJson (r : TerminateReason) : Json Whole := .ofText r.name

def ofJson? (j : Json Whole) : Option TerminateReason := oneOf? strict names j

end TerminateReason

namespace ServiceProblem

def names : List (String × ServiceProblem) :=
  [("CannotConnect", cannotConnect), ("CannotGetData", cannotGetData)]

def name : ServiceProblem → String
  | cannotConnect => "CannotConnect"
  | cannotGetData => "CannotGetData"

def toJson (p : ServiceProblem) : Json Whole := .ofText p.name

def ofJson? (j : Json Whole) : Option ServiceProblem := oneOf? strict names j

end ServiceProblem

/-! ## Reports -/

def byteJson (b : UInt8) : Json Whole := .ofNat b.toNat

def byte? (j : Json Whole) : Option UInt8 := (natural? strict 8 j).map UInt8.ofNat

def word? (j : Json Whole) : Option UInt16 := (natural? strict 16 j).map UInt16.ofNat

def long? (j : Json Whole) : Option UInt32 := (natural? strict 32 j).map UInt32.ofNat

def signedLong? (j : Json Whole) : Option Int32 := (integer? strict 32 j).map Int32.ofInt

namespace Head

def toJson (h : Head) : Json Whole := .array (h.bytes.map byteJson)

def ofJson? (j : Json Whole) : Option Head := do
  match ← items? 4 byte? j with
  | [b0, b1, b2, b3] => some ⟨b0, b1, b2, b3⟩
  | _ => none

end Head

namespace MessageReport

def memberNames : List String := ["sequence", "class", "id", "payload_head", "retries", "failure"]

def toJson (r : MessageReport) : Json Whole :=
  .ofMembers [("sequence", .ofNat r.sequence), ("class", byteJson r.cls), ("id", byteJson r.id),
    ("payload_head", r.head.toJson), ("retries", .ofNat r.retries),
    ("failure", .ofOption FailureReason.toJson r.failure)]

def ofJson? (j : Json Whole) : Option MessageReport := do
  match ← members? strict memberNames false j with
  | [sequence, cls, id, head, retries, failure] =>
    some ⟨← required? (natural? strict 64) sequence, ← required? byte? cls, ← required? byte? id,
      ← required? Head.ofJson? head, ← required? (natural? strict 32) retries,
      ← nullable? FailureReason.ofJson? failure⟩
  | _ => none

end MessageReport

namespace BlockReport

def memberNames : List String := ["sequence", "len", "retries"]

def toJson (r : BlockReport) : Json Whole :=
  .ofMembers [("sequence", .ofNat r.sequence.toNat), ("len", .ofNat r.length),
    ("retries", .ofNat r.retries)]

def ofJson? (j : Json Whole) : Option BlockReport := do
  match ← members? strict memberNames false j with
  | [sequence, length, retries] =>
    some ⟨← required? word? sequence, ← required? (natural? strict 64) length,
      ← required? (natural? strict 32) retries⟩
  | _ => none

end BlockReport

namespace Legacy.Header

def memberNames : List String :=
  ["magic", "offsets", "size", "completed", "tow", "wno", "duration"]

def toJson (h : Header) : Json Whole :=
  .ofMembers [("magic", .ofNat h.magic.toNat),
    ("offsets", .array (h.offsets.map fun w => .ofNat w.toNat)), ("size", .ofNat h.size.toNat),
    ("completed", .ofNat h.completed.toNat), ("tow", .ofNat h.tow.toNat),
    ("wno", .ofNat h.wno.toNat), ("duration", .ofNat h.duration.toNat)]

def ofJson? (j : Json Whole) : Option Header := do
  match ← members? strict memberNames false j with
  | [magic, offsets, size, completed, tow, wno, duration] =>
    let offsets ← required? (items? 32 word?) offsets
    let magic ← required? long? magic
    let size ← required? long? size
    let completed ← required? long? completed
    let tow ← required? long? tow
    let wno ← required? word? wno
    let duration ← required? word? duration
    if h : offsets.length = 32 then some ⟨magic, offsets, size, completed, tow, wno, duration, h⟩
    else none
  | _ => none

end Legacy.Header

/-! ## Events -/

/-- A variant with contents. -/
def tagged (name : String) (contents : Json Whole) : Json Whole := .ofMembers [(name, contents)]

/-- Contents that are one number. -/
def numbered (name : String) (n : Nat) : Json Whole := .ofMembers [(name, .ofNat n)]

/-- Contents that are a place and a length. -/
def span (offset size : Nat) : Json Whole :=
  .ofMembers [("offset", .ofNat offset), ("size", .ofNat size)]

def span? (j : Json Whole) : Option (Nat × Nat) := do
  match ← members? strict ["offset", "size"] false j with
  | [offset, size] =>
    some (← required? (natural? strict 64) offset, ← required? (natural? strict 64) size)
  | _ => none

/-- The one member of contents that have no other. -/
def sole? {α} (name : String) (read : Json Whole → Option α) (j : Json Whole) : Option α := do
  match ← members? strict [name] false j with
  | [m] => required? read m
  | _ => none

namespace LegacyEvent

/-- The events without contents. -/
def bare : List (String × LegacyEvent) :=
  [("StartupStarted", startupStarted), ("StartupFailed", startupFailed),
    ("StartupCompleted", startupCompleted), ("FinalizeStarted", finalizeStarted),
    ("FinalizeFailed", finalizeFailed), ("ServerStopped", serverStopped)]

def toJson : LegacyEvent → Json Whole
  | startupStarted => .ofText "StartupStarted"
  | startupFailed => .ofText "StartupFailed"
  | startupCompleted => .ofText "StartupCompleted"
  | flashBlockSent b => tagged "FlashBlockSent" b.toJson
  | flashBlockFailed b => tagged "FlashBlockFailed" b.toJson
  | flashBlockComplete b => tagged "FlashBlockComplete" b.toJson
  | finalizeStarted => .ofText "FinalizeStarted"
  | finalizeFailed => .ofText "FinalizeFailed"
  | finalizeCompleted h => tagged "FinalizeCompleted" h.toJson
  | serverStarted id => tagged "ServerStarted" (numbered "file_id" id.toNat)
  | serverStopped => .ofText "ServerStopped"
  | requestReceived offset size => tagged "RequestReceived" (span offset size)
  | requestCompleted offset size => tagged "RequestCompleted" (span offset size)
  | requestFailedIdMismatch id => tagged "RequestFailedIdMismatch" (numbered "file_id" id.toNat)
  | updateReceived offset size => tagged "UpdateReceived" (span offset size)
  | updateCompleted offset size => tagged "UpdateCompleted" (span offset size)

/-- An event with contents. -/
def ofContents? (name : String) (j : Json Whole) : Option LegacyEvent :=
  match name with
  | "FlashBlockSent" => (BlockReport.ofJson? j).map flashBlockSent
  | "FlashBlockFailed" => (BlockReport.ofJson? j).map flashBlockFailed
  | "FlashBlockComplete" => (BlockReport.ofJson? j).map flashBlockComplete
  | "FinalizeCompleted" => (Legacy.Header.ofJson? j).map finalizeCompleted
  | "ServerStarted" => (sole? "file_id" word? j).map serverStarted
  | "RequestReceived" => (span? j).map fun s => requestReceived s.1 s.2
  | "RequestCompleted" => (span? j).map fun s => requestCompleted s.1 s.2
  | "RequestFailedIdMismatch" => (sole? "file_id" word? j).map requestFailedIdMismatch
  | "UpdateReceived" => (span? j).map fun s => updateReceived s.1 s.2
  | "UpdateCompleted" => (span? j).map fun s => updateCompleted s.1 s.2
  | _ => none

def ofJson? (j : Json Whole) : Option LegacyEvent := do
  let (name, contents) ← variant? strict j
  match bare.lookup name, contents with
  | some e, contents => if isBare contents then some e else none
  | none, some contents => ofContents? name contents
  | none, none => none

end LegacyEvent

namespace Event

def toJson : Event → Json Whole
  | start n => tagged "Start" (numbered "messages" n)
  | messageSent m => tagged "MsgSent" m.toJson
  | messageComplete m => tagged "MsgTransferComplete" m.toJson
  | messageFailed m => tagged "MsgTransferFailed" m.toJson
  | flashBlockSent b => tagged "FlashBlockSent" b.toJson
  | flashBlockComplete b => tagged "FlashBlockComplete" b.toJson
  | flashBlockRetry b => tagged "FlashBlockRetry" b.toJson
  | finish => .ofText "Finish"
  | terminated reason => tagged "Terminated" reason.toJson
  | serviceError kind detail =>
    tagged "ServiceError" (.ofMembers [("kind", kind.toJson), ("detail", .ofText detail)])
  | legacy e => tagged "Legacy" e.toJson

/-- An event with contents. -/
def ofContents? (name : String) (j : Json Whole) : Option Event :=
  match name with
  | "Start" => (sole? "messages" (natural? strict 64) j).map start
  | "MsgSent" => (MessageReport.ofJson? j).map messageSent
  | "MsgTransferComplete" => (MessageReport.ofJson? j).map messageComplete
  | "MsgTransferFailed" => (MessageReport.ofJson? j).map messageFailed
  | "FlashBlockSent" => (BlockReport.ofJson? j).map flashBlockSent
  | "FlashBlockComplete" => (BlockReport.ofJson? j).map flashBlockComplete
  | "FlashBlockRetry" => (BlockReport.ofJson? j).map flashBlockRetry
  | "Terminated" => (TerminateReason.ofJson? j).map terminated
  | "ServiceError" => do
    match ← members? strict ["kind", "detail"] false j with
    | [kind, detail] =>
      some (serviceError (← required? ServiceProblem.ofJson? kind) (← required? text? detail))
    | _ => none
  | "Legacy" => (LegacyEvent.ofJson? j).map legacy
  | _ => none

def ofJson? (j : Json Whole) : Option Event := do
  let (name, contents) ← variant? strict j
  match name, contents with
  | "Finish", contents => if isBare contents then some finish else none
  | name, some contents => ofContents? name contents
  | _, none => none

end Event

end GnssAiding
