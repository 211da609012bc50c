import Backlog.Json.Printer
import Backlog.Sync.Event

/-! # Messages

What clients send and what they are sent: JSON objects whose `type` names the kind of message. A client
introduces itself, follows and leaves projects, and answers heartbeats; it is told how that went, and of
the events of the projects it follows. -/

namespace Backlog

open Json (RecordField Read readString readBool readInt readList)

/-- What a client is. -/
inductive ClientType where
  | web | ide | cli
  deriving Repr, DecidableEq, Inhabited

instance : Named ClientType where
  noun := "client type"
  values := [.web, .ide, .cli]
  name
    | .web => "web"
    | .ide => "ide"
    | .cli => "cli"

/-- What a client may send. -/
inductive ClientMessage where
  | authenticate (token : String) (client : ClientType) (project : Option String)
  | subscribe (project : String)
  | unsubscribe (project : String)
  | pong (timestamp : Int)
  deriving Repr, DecidableEq

/-- What a client may be sent. -/
inductive ServerMessage where
  | authSuccess (user connection : String) (subscriptions : List String)
  | event (e : Event)
  | heartbeat (timestamp : Int)
  | error (code message : String) (recoverable : Bool)
  deriving Repr, DecidableEq

namespace Message

/-! ### Fields -/

/-- A field of texts. -/
def textList {σ : Type} (name : String) (get : σ → List String) (set : σ → List String → σ) :
    RecordField σ := .of name .required (readList readString) (Json.ofList .string) get set

/-- Reads a whole number of 64 bits. -/
def readTimestamp : Read Int := readInt (-9223372036854775808) 9223372036854775807

/-- The fields of `authenticate`. -/
def authenticateFields : List (RecordField (String × ClientType × Option String)) := [
  .string "token" (·.1) fun x v => (v, x.2),
  .of "clientType" .required Named.readBuffered Named.write (·.2.1) fun x v => (x.1, v, x.2.2),
  .sparse "projectId" readString .string (·.2.2) fun x v => (x.1, x.2.1, v)]

/-- The fields of `subscribe` and `unsubscribe`. -/
def projectFields : List (RecordField String) := [.string "projectId" id fun _ v => v]

/-- The fields of `pong` and `heartbeat`. -/
def timestampFields : List (RecordField Int) := [
  .of "timestamp" .required readTimestamp Json.ofInt id fun _ v => v]

/-- The fields of `auth_success`. -/
def authSuccessFields : List (RecordField (String × String × List String)) := [
  .string "userId" (·.1) fun x v => (v, x.2),
  .string "connectionId" (·.2.1) fun x v => (x.1, v, x.2.2),
  textList "subscriptions" (·.2.2) fun x v => (x.1, x.2.1, v)]

/-- The fields of `ticket_updated`. -/
def ticketUpdatedFields : List (RecordField (String × String × List String × String)) := [
  .string "projectId" (·.1) fun x v => (v, x.2),
  .string "ticketId" (·.2.1) fun x v => (x.1, v, x.2.2),
  textList "changes" (·.2.2.1) fun x v => (x.1, x.2.1, v, x.2.2.2),
  .string "updatedBy" (·.2.2.2) fun x v => (x.1, x.2.1, x.2.2.1, v)]

/-- The fields of `ticket_status_changed`. -/
def ticketMovedFields : List (RecordField (String × String × TicketStatus × TicketStatus × String)) := [
  .string "projectId" (·.1) fun x v => (v, x.2),
  .string "ticketId" (·.2.1) fun x v => (x.1, v, x.2.2),
  .of "oldStatus" .required Named.readBuffered Named.write (·.2.2.1)
    fun x v => (x.1, x.2.1, v, x.2.2.2),
  .of "newStatus" .required Named.readBuffered Named.write (·.2.2.2.1)
    fun x v => (x.1, x.2.1, x.2.2.1, v, x.2.2.2.2),
  .string "changedBy" (·.2.2.2.2) fun x v => (x.1, x.2.1, x.2.2.1, x.2.2.2.1, v)]

/-- The fields of `project_status_changed`. -/
def projectMovedFields : List (RecordField (String × ProjectStatus × ProjectStatus)) := [
  .string "projectId" (·.1) fun x v => (v, x.2),
  .of "oldStatus" .required Named.readBuffered Named.write (·.2.1) fun x v => (x.1, v, x.2.2),
  .of "newStatus" .required Named.readBuffered Named.write (·.2.2) fun x v => (x.1, x.2.1, v)]

/-- The fields of `error`. -/
def errorFields : List (RecordField (String × String × Bool)) := [
  .string "code" (·.1) fun x v => (v, x.2),
  .string "message" (·.2.1) fun x v => (x.1, v, x.2.2),
  .of "recoverable" .required readBool .bool (·.2.2) fun x v => (x.1, x.2.1, v)]

/-- A message as an object, its kind first. -/
def tagged (kind : String) (members : List (String × Json)) : Json :=
  .object (("type", .string kind) :: members)

end Message

open Message

namespace ClientMessage

/-- The name of a message's kind. -/
def kind : ClientMessage → String
  | authenticate .. => "authenticate"
  | subscribe _ => "subscribe"
  | unsubscribe _ => "unsubscribe"
  | pong _ => "pong"

/-- Writes a message. -/
def write (m : ClientMessage) : Json :=
  tagged m.kind (match m with
    | authenticate t c p => Json.recordMembers authenticateFields (t, c, p)
    | subscribe p | unsubscribe p => Json.recordMembers projectFields p
    | pong t => Json.recordMembers timestampFields t)

/-- How the message of a kind is read. -/
def reader? : String → Option (Read ClientMessage)
  | "authenticate" => some fun v =>
    (Json.readRecord authenticateFields ("", .web, none) v).map fun (t, c, p) => authenticate t c p
  | "subscribe" => some fun v => (Json.readRecord projectFields "" v).map subscribe
  | "unsubscribe" => some fun v => (Json.readRecord projectFields "" v).map unsubscribe
  | "pong" => some fun v => (Json.readRecord timestampFields 0 v).map pong
  | _ => none

/-- Reads a message. -/
def read : Read ClientMessage := Json.readTagged "type" reader?

/-- The message of a text. -/
def ofText (s : String) : Except Json.Fault ClientMessage := Json.ofText read s

end ClientMessage

namespace ServerMessage

/-- The name of a message's kind. -/
def kind : ServerMessage → String
  | authSuccess .. => "auth_success"
  | event e => e.kind
  | heartbeat _ => "heartbeat"
  | error .. => "error"

/-- The project whose followers a message is for. -/
def project? : ServerMessage → Option String
  | event e => some e.project
  | _ => none

/-- The fields of a message. -/
def members : ServerMessage → List (String × Json)
  | authSuccess u c ss => Json.recordMembers authSuccessFields (u, c, ss)
  | event (.ticketUpdated p t cs a) => Json.recordMembers ticketUpdatedFields (p, t, cs, a)
  | event (.ticketMoved p t o n a) => Json.recordMembers ticketMovedFields (p, t, o, n, a)
  | event (.projectMoved p o n) => Json.recordMembers projectMovedFields (p, o, n)
  | heartbeat t => Json.recordMembers timestampFields t
  | error c m r => Json.recordMembers errorFields (c, m, r)

/-- Writes a message. -/
def write (m : ServerMessage) : Json := tagged m.kind m.members

/-- The text of a message. -/
def toText (m : ServerMessage) : String := m.write.render

/-- How the message of a kind is read. -/
def reader? : String → Option (Read ServerMessage)
  | "auth_success" => some fun v =>
    (Json.readRecord authSuccessFields ("", "", []) v).map fun (u, c, ss) => authSuccess u c ss
  | "ticket_updated" => some fun v =>
    (Json.readRecord ticketUpdatedFields ("", "", [], "") v).map fun (p, t, cs, a) =>
      event (.ticketUpdated p t cs a)
  | "ticket_status_changed" => some fun v =>
    (Json.readRecord ticketMovedFields ("", "", .pending, .pending, "") v).map
      fun (p, t, o, n, a) => event (.ticketMoved p t o n a)
  | "project_status_changed" => some fun v =>
    (Json.readRecord projectMovedFields ("", .analyzing, .analyzing) v).map
      fun (p, o, n) => event (.projectMoved p o n)
  | "heartbeat" => some fun v => (Json.readRecord timestampFields 0 v).map heartbeat
  | "error" => some fun v =>
    (Json.readRecord errorFields ("", "", false) v).map fun (c, m, r) => error c m r
  | _ => none

/-- Reads a message. -/
def read : Read ServerMessage := Json.readTagged "type" reader?

end ServerMessage

end Backlog
