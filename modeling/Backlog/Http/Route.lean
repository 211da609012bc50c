import Backlog.Http.Message

/-! # Routes

A path leads to a resource, and each resource takes some methods; what a method does to a resource is
an `Action`. Segments are compared as they are written, only the one that names a single project or
ticket is unescaped. -/

namespace Backlog

open Backlog.Text

/-- What a path can lead to. -/
inductive Resource where
  | health | metrics | socket | config
  | projects | project | generation | backlog | projectStatus
  | ticket | ticketStatus | assignment
  deriving Repr, DecidableEq

/-- What a request can ask for. -/
inductive Action where
  | showHealth | showMetrics | openSocket | showConfig
  | createProject | showProject | generate | listTickets | moveProject
  | showTicket | patchTicket | moveTicket | assignTicket
  deriving Repr, DecidableEq

/-- A resource, and the segment that names a project or ticket; it is empty where none is named. -/
structure Route where
  resource : Resource
  segment : String := ""
  deriving Repr, DecidableEq

namespace Resource

/-- How a resource is shown. -/
def shown? : Resource → Option Action
  | health => some .showHealth
  | metrics => some .showMetrics
  | socket => some .openSocket
  | config => some .showConfig
  | project => some .showProject
  | backlog => some .listTickets
  | ticket => some .showTicket
  | _ => none

/-- What is done to a resource by a method; `HEAD` is `GET` without the body, and opens no socket. -/
def action? : Resource → Method → Option Action
  | socket, .head => none
  | r, .get | r, .head => r.shown?
  | projects, .post => some .createProject
  | generation, .post => some .generate
  | projectStatus, .post => some .moveProject
  | ticketStatus, .post => some .moveTicket
  | assignment, .post => some .assignTicket
  | ticket, .patch => some .patchTicket
  | _, _ => none

/-- Whether a resource is there for everybody. Clients of the socket introduce themselves later. -/
def isOpen : Resource → Bool
  | health | metrics | socket => true
  | _ => false

end Resource

namespace Route

/-- A resource that belongs to what a segment names. -/
def named (r : Resource) (segment : String) : Option Route :=
  if segment.isEmpty then none else some ⟨r, segment⟩

/-- The route of the segments below the interface. -/
def ofInner? : List String → Option Route
  | ["health"] => some ⟨.health, ""⟩
  | ["config"] => some ⟨.config, ""⟩
  | ["projects"] => some ⟨.projects, ""⟩
  | ["projects", id] => named .project id
  | ["projects", id, "generate"] => named .generation id
  | ["projects", id, "tickets"] => named .backlog id
  | ["projects", id, "status"] => named .projectStatus id
  | ["tickets", id] => named .ticket id
  | ["tickets", id, "status"] => named .ticketStatus id
  | ["tickets", id, "assign"] => named .assignment id
  | _ => none

/-- The route of the segments of a path. -/
def ofSegments? : List String → Option Route
  | ["metrics"] => some ⟨.metrics, ""⟩
  | ["ws"] => some ⟨.socket, ""⟩
  | "api" :: "v1" :: rest => ofInner? rest
  | _ => none

/-- The route of a path. -/
def ofPath? (path : String) : Option Route :=
  match (pieces (· == '/') path.toList).map String.ofList with
  | "" :: segments => ofSegments? segments
  | _ => none

end Route

end Backlog
