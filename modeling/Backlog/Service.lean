import Backlog.Store.Change
import Backlog.Sync.Event

/-! # Working on tickets

The operations that people use once tickets have been generated. Each writes to the store and then gives
the events that tell of the change, so nobody hears of what was not stored; an operation that fails gives
neither. -/

namespace Backlog

/-- Why an operation is refused. -/
inductive ServiceError where
  | emptyAssignee
  | unchanged
  | analyzingByHand
  | store (e : StoreError)
  deriving Repr, DecidableEq

namespace ServiceError

/-- What sort of error an error is. -/
inductive Kind where
  | ticketMissing | projectMissing | validation | transition | store
  deriving Repr, DecidableEq

/-- The kind of an error. -/
def kind : ServiceError → Kind
  | store (.ticketMissing _) => .ticketMissing
  | store (.projectMissing _) => .projectMissing
  | store (.ticketStays ..) | store (.ticketClosed ..) | store (.projectStays ..) => .transition
  | store (.constraint _) => .store
  | _ => .validation

/-- The message of an error. -/
def message : ServiceError → String
  | emptyAssignee => "Validation error: assignee must not be empty"
  | unchanged => "Validation error: patch changes nothing"
  | analyzingByHand => "Validation error: projects enter analyzing only through generation"
  | store (.constraint c) => "Store error: " ++ c.text
  | store e => if (store e).kind = .transition then "Invalid transition: " ++ e.message else e.message

end ServiceError

/-- What an operation leaves: the store, its result, and the events that tell of it. -/
structure Served (α : Type) where
  store : Store
  result : α
  events : List Event

/-- The event of a ticket's change of status. -/
def TicketChange.tell (c : TicketChange) (actor : String) : Event :=
  .ticketMoved c.ticket.project c.ticket.id c.previous c.ticket.status actor

/-- The event of new values for fields of a ticket. -/
def Ticket.tell (t : Ticket) (changes : List String) (actor : String) : Event :=
  .ticketUpdated t.project t.id changes actor

/-- The event of a project's change of status, if it has changed. -/
def ProjectChange.tell (c : ProjectChange) : List Event :=
  if c.previous != c.project.status then [.projectMoved c.project.id c.previous c.project.status]
  else []

namespace Store

/-- What an operation on the store gives, with the error of a service. -/
def served {α : Type} (r : Except StoreError α) : Except ServiceError α := r.mapError .store

/-- Moves a ticket and tells of it. -/
def serveMove (s : Store) (now : Instant) (id : String) (target : TicketStatus) (actor : String) :
    Except ServiceError (Served Ticket) := do
  let (s, c) ← served (s.moveTicket now id target)
  pure ⟨s, c.ticket, [c.tell actor]⟩

/-- Assigns a ticket and tells of it. -/
def serveAssign (s : Store) (now : Instant) (id assignee actor : String) :
    Except ServiceError (Served Ticket) := do
  let assignee := Text.trim assignee
  if assignee.isEmpty then .error .emptyAssignee
  else
    let (s, c) ← served (s.assignTicket now id assignee)
    pure ⟨s, c.ticket,
      c.ticket.tell ["assignee"] actor :: (if c.moved then [c.tell actor] else [])⟩

/-- Patches a ticket and tells of it. -/
def servePatch (s : Store) (now : Instant) (id : String) (p : Patch) (actor : String) :
    Except ServiceError (Served Ticket) := do
  if p.isEmpty then .error .unchanged
  else
    let (s, t) ← served (s.patchTicket now id p)
    pure ⟨s, t, [t.tell p.changed actor]⟩

/-- Moves a project by hand and tells of it. -/
def serveProject (s : Store) (now : Instant) (id : String) (target : ProjectStatus) :
    Except ServiceError (Served Project) := do
  if target = .analyzing then .error .analyzingByHand
  else
    let (s, c) ← served (s.moveProject now id target)
    pure ⟨s, c.project, c.tell⟩

end Store

end Backlog
