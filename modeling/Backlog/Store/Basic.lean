import Backlog.Generation.Context
import Backlog.Json.Printer
import Backlog.Project.Basic

/-! # The store

A store holds projects, their tickets, the dependencies between these and the contexts of generation
runs, each list in the order of writing. Project ids and ticket ids are unique, ranks are so within a
project; a dependency is stored once and joins two different tickets; a project has one context of a
kind. A ticket is stored as it will be read back (`Ticket.stored`); a context is stored as it was written, and read
again from its text (`Context.reread`), which may fail. -/

namespace Backlog

/-- What the store does not take. -/
inductive Constraint where
  | projectId | ticketId | rank | hours | selfEdge | edge | contextKind
  deriving Repr, DecidableEq

/-- Which rule is broken. -/
def Constraint.text : Constraint → String
  | projectId => "UNIQUE constraint failed: projects.id"
  | ticketId => "UNIQUE constraint failed: tickets.id"
  | rank => "UNIQUE constraint failed: tickets.project_id, tickets.order_index"
  | hours => "NOT NULL constraint failed: tickets.estimated_hours"
  | selfEdge => "CHECK constraint failed: ticket_id <> depends_on_ticket_id"
  | edge =>
    "UNIQUE constraint failed: ticket_dependencies.ticket_id, ticket_dependencies.depends_on_ticket_id"
  | contextKind => "UNIQUE constraint failed: project_contexts.project_id, project_contexts.context_type"

/-- Why an operation on the store fails. -/
inductive StoreError where
  | ticketMissing (id : String)
  | projectMissing (id : String)
  | ticketStays (id : String) (status target : TicketStatus)
  | ticketClosed (id : String) (status : TicketStatus)
  | projectStays (id : String) (status target : ProjectStatus)
  | namelessProject
  | emptyPatch
  | strayTicket (ticket project : String)
  | constraint (c : Constraint)
  deriving Repr, DecidableEq

namespace StoreError

/-- What is wrong with the input of an operation. -/
def detail : StoreError → String
  | namelessProject => "project name must not be empty"
  | emptyPatch => "patch sets no fields"
  | strayTicket t p => "ticket " ++ t ++ " belongs to project " ++ p
  | constraint c => c.text
  | _ => ""

/-- The message of an error. -/
def message : StoreError → String
  | ticketMissing id => "Ticket not found: " ++ id
  | projectMissing id => "Project not found: " ++ id
  | ticketStays id s t =>
    "Cannot move to " ++ Named.name t ++ " ticket " ++ id ++ ": current state is " ++ Named.name s
  | ticketClosed id s => "Cannot assign ticket " ++ id ++ ": current state is " ++ Named.name s
  | projectStays id s t =>
    "Cannot move to " ++ Named.name t ++ " project " ++ id ++ ": current state is " ++ Named.name s
  | constraint c => "Database error: " ++ c.text
  | e => "Validation error: " ++ e.detail

end StoreError

/-- Everything that is kept. Dependencies and contexts stand beside the id of their project. -/
structure Store where
  projects : List Project := []
  tickets : List Ticket := []
  edges : List (String × Dependency) := []
  contexts : List (String × Context) := []
  deriving Repr, Inhabited

/-! ### What is read back -/

/-- An instant that can be stored: one of a year of four digits, and otherwise the present. -/
def Instant.stored (t now : Instant) : Instant :=
  if 0 ≤ t.year ∧ t.year ≤ 9999 then t else now

/-- Hours as they are read back: zero has no sign. -/
def storedHours (h : Float) : Float := if h == 0 then 0 else h

/-- A ticket as it is read back. -/
def Ticket.stored (now : Instant) (t : Ticket) : Ticket :=
  { t with
    estimatedHours := storedHours t.estimatedHours
    actualHours := (t.actualHours.filter fun h => !h.isNaN).map storedHours
    createdAt := t.createdAt.stored now
    updatedAt := t.updatedAt.stored now }

/-- A context as it is read back from its text. Hours that are no finite number are written as `null`, which is no
number: such a context cannot be read again. -/
def Context.reread (c : Context) : Except Json.Fault Context := Json.ofText read c.write.render

namespace Store

/-! ### Looking up -/

/-- The project with an id. -/
def project? (s : Store) (id : String) : Option Project := s.projects.find? (·.id == id)

/-- The ticket with an id. -/
def ticket? (s : Store) (id : String) : Option Ticket := s.tickets.find? (·.id == id)

/-- The project with an id, which must exist. -/
def project (s : Store) (id : String) : Except StoreError Project :=
  match s.project? id with
  | some p => .ok p
  | none => .error (.projectMissing id)

/-- The ticket with an id, which must exist. -/
def ticket (s : Store) (id : String) : Except StoreError Ticket :=
  match s.ticket? id with
  | some t => .ok t
  | none => .error (.ticketMissing id)

/-- What a ticket depends on, in the order of writing. -/
def dependencies (s : Store) (id : String) : List Dependency :=
  (s.edges.map (·.2)).filter (·.ticket == id)

/-- The dependencies of a project, in the order of writing. -/
def edgesOf (s : Store) (project : String) : List Dependency :=
  (s.edges.filter (·.1 == project)).map (·.2)

/-- The contexts of a project as they were written, in the order of writing. -/
def contextsOf (s : Store) (project : String) : List Context :=
  (s.contexts.filter (·.1 == project)).map (·.2)

/-- The contexts of a project as they are read, if all of them can be. -/
def readContexts (s : Store) (project : String) : Except Json.Fault (List Context) :=
  (s.contextsOf project).mapM Context.reread

end Store

/-! ### Listing tickets -/

/-- Which tickets are wanted, and which part of their list. -/
structure Filter where
  project : Option String := none
  status : Option TicketStatus := none
  type : Option TicketType := none
  /-- How many tickets at most; no limit if negative. -/
  limit : Int := 500
  /-- How many tickets to pass over. -/
  offset : Int := 0
  deriving Repr, DecidableEq

/-- Whether a ticket is wanted. -/
def Filter.accepts (f : Filter) (t : Ticket) : Bool :=
  f.project.all (· == t.project) && f.status.all (· == t.status) && f.type.all (· == t.type)

/-- Part of a list. -/
def page {α : Type} (limit offset : Int) (xs : List α) : List α :=
  let rest := xs.drop offset.toNat
  if limit < 0 then rest else rest.take limit.toNat

/-- Whether a ticket is listed before another: ranked tickets by rank, before those without one; then
the older ticket first. -/
def Ticket.listedBefore (a b : Ticket) : Bool :=
  match a.rank, b.rank with
  | some i, some j => decide (i < j) || (i == j && a.createdAt.atMost b.createdAt)
  | some _, none => true
  | none, some _ => false
  | none, none => a.createdAt.atMost b.createdAt

namespace Store

/-- The tickets that a filter accepts, in the order of listing. -/
def matching (s : Store) (f : Filter) : List Ticket :=
  (s.tickets.filter f.accepts).mergeSort Ticket.listedBefore

/-- The part of the matching tickets that a filter asks for. -/
def list (s : Store) (f : Filter) : List Ticket := page f.limit f.offset (s.matching f)

/-- How many tickets match a filter. -/
def count (s : Store) (f : Filter) : Nat := (s.tickets.filter f.accepts).length

end Store

end Backlog
