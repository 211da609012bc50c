import Backlog.Generation.Slots
import Backlog.Http.Listing
import Backlog.Http.Message
import Backlog.Http.Route
import Backlog.Sync.System
import Backlog.Ticket.Patch

/-! # Contents of requests and responses

What the bodies of requests hold beside patches, and how the results of actions are written. Each kind
of failure has its status. -/

namespace Backlog

open Json (RecordField Read readString readList readOption)

/-! ### Requests -/

/-- A project to create. -/
structure ProjectDraft where
  name : String := ""
  description : String := ""
  deriving Repr, DecidableEq

/-- Reads a project to create. -/
def ProjectDraft.read : Read ProjectDraft := Json.readRecord [
  .string "name" (·.name) fun x v => { x with name := v },
  .of "description" .defaulted readString .string (·.description)
    fun x v => { x with description := v }] {}

/-- Reads what a run for a project is asked to do. -/
def Brief.read (project : String) : Read Brief := Json.readRecord [
  .of "files" .required (readList readString) (Json.ofList .string) (·.files)
    fun x v => { x with files := v },
  .of "description" .nullable (readOption readString) (Json.ofOption .string) (·.description)
    fun x v => { x with description := v }] ⟨project, [], none⟩

/-- Reads the one field of a record; `initial` is no more than a place for it. -/
def readOnly {α : Type} (name : String) (r : Read α) (w : α → Json) (initial : α) : Read α :=
  Json.readRecord [.of name .required r w id fun _ v => v] initial

/-- Reads the status that a ticket is to have. -/
def readTicketStatus : Read TicketStatus := readOnly "status" Named.read Named.write .pending

/-- Reads the status that a project is to have. -/
def readProjectStatus : Read ProjectStatus := readOnly "status" Named.read Named.write .analyzing

/-- Reads who is to work on a ticket. -/
def readAssignee : Read String := readOnly "assignee" readString .string ""

/-! ### Responses -/

/-- The status of an error of the service. -/
def ServiceError.status (e : ServiceError) : Nat :=
  match e.kind with
  | .ticketMissing | .projectMissing => 404
  | .validation => 400
  | .transition => 409
  | .store => 500

/-- The response to an operation that was refused. -/
def ServiceError.response (e : ServiceError) : Response := .error e.status e.message

/-- The status for a caller who is not let in. -/
def AuthError.status : AuthError → Nat
  | secretMissing => 500
  | _ => 401

/-- Writes a ticket and what it depends on. -/
def Ticket.writeDetail (t : Ticket) (dependencies : List Dependency) : Json :=
  .object (Json.recordMembers Ticket.fields t ++
    [("dependencies", Json.ofList Dependency.write dependencies)])

/-- Writes a part of a project's tickets. -/
def Listing.write (tickets : List Ticket) (total : Nat) (f : Filter) : Json :=
  .object [("tickets", Json.ofList Ticket.write tickets), ("total", Json.ofNat total),
    ("limit", Json.ofInt f.limit), ("offset", Json.ofInt f.offset)]

/-- Writes how many connections there are. -/
def HubStats.write (s : HubStats) : Json :=
  .object [("live", Json.ofNat s.live), ("unauthenticated", Json.ofNat s.unauthenticated),
    ("subscriptions", Json.ofNat s.subscriptions), ("recovered", Json.ofNat s.recovered)]

/-- Writes whether all is well: the hub must be running. -/
def SyncSystem.writeHealth (s : SyncSystem) : Json :=
  match s.stats with
  | .ok stats => .object [("status", .string "ok"), ("sync", stats.write)]
  | .error _ => .object [("status", .string "degraded")]

namespace GenerationError

/-- The status of a run that failed. -/
def status : GenerationError → Nat
  | noFiles | features _ | graph _ | unranked _ | refused _ => 400
  | projectMissing _ => 404
  | cyclic _ => 422
  | store _ => 500

/-- Writes an error. -/
def write (e : GenerationError) : Json :=
  .object ([("code", .string e.code), ("message", .string e.message)] ++
    match e with
    | cyclic cycles => [("cycles", Json.ofList (Json.ofList .string) cycles)]
    | _ => [])

end GenerationError

namespace Outcome

/-- Writes how a run ended, with its error as it is written. -/
def write (o : Outcome) (error : Option Json) : Json :=
  .object ([("project_id", .string o.project), ("status", Named.write o.status),
    ("fallback", .bool o.fallback), ("critical_path", Json.ofList .string o.criticalPath),
    ("tickets", Json.ofList Ticket.write o.tickets)] ++
    (error.map fun e => ("error", e)).toList)

/-- The response to a run that has ended. -/
def response (o : Outcome) : Response :=
  ⟨(o.error.map GenerationError.status).getD 200, .json (o.write (o.error.map GenerationError.write))⟩

/-- The response to a request for a run while another one is under way. -/
def conflict (project : String) : Response :=
  ⟨409, .json (write ⟨project, .analyzing, [], [], false, none⟩ (some (.object [
    ("code", .string "generation_in_progress"),
    ("message", .string ("a generation run is already in progress for " ++ project))])))⟩

end Outcome

/-- The response to a request for a run that has come to its end. -/
def Turn.response? (t : Turn) : Option Response :=
  match t.progress with
  | .done o => some o.response
  | .refused => some (Outcome.conflict t.brief.project)
  | _ => none

end Backlog
