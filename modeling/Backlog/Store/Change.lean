import Backlog.Store.Basic
import Backlog.Ticket.Patch

/-! # Changing projects and tickets

Each operation looks a project or ticket up, checks that the change is allowed, and writes it; an
operation that fails writes nothing. Completing a ticket also counts it in its project. -/

namespace Backlog

/-- A ticket after a change, and the status it had before. -/
structure TicketChange where
  previous : TicketStatus
  ticket : Ticket
  deriving Repr, Inhabited

/-- Whether a change moved the ticket to another status. -/
def TicketChange.moved (c : TicketChange) : Bool := c.previous != c.ticket.status

/-- A project after a change, and the status it had before. -/
structure ProjectChange where
  previous : ProjectStatus
  project : Project
  deriving Repr, Inhabited

namespace Store

/-- Replaces the project with the same id. -/
def putProject (s : Store) (p : Project) : Store :=
  { s with projects := s.projects.map fun q => if q.id == p.id then p else q }

/-- Replaces the ticket with the same id. -/
def putTicket (s : Store) (t : Ticket) : Store :=
  { s with tickets := s.tickets.map fun u => if u.id == t.id then t else u }

/-! ### Projects -/

/-- Adds a project, which waits to be analyzed. -/
def createProject (s : Store) (now : Instant) (id name description : String) :
    Except StoreError (Store × Project) :=
  if Text.isBlankText name then .error .namelessProject
  else if s.projects.any (·.id == id) then .error (.constraint .projectId)
  else
    let p : Project := {
      id := id, name := name, description := description, status := .analyzing, totalTickets := 0
      completedTickets := 0, analyzedAt := none, summary := none, failure := none, createdAt := now
      updatedAt := now }
    .ok ({ s with projects := s.projects ++ [p] }, p)

/-- Takes a project into analysis and forgets what went wrong before. -/
def beginAnalysis (s : Store) (now : Instant) (id : String) :
    Except StoreError (Store × ProjectChange) := do
  let p ← s.project id
  let q := { p with status := .analyzing, failure := none, updatedAt := now }
  pure (s.putProject q, ⟨p.status, q⟩)

/-- Records what went wrong in an analysis. -/
def failAnalysis (s : Store) (now : Instant) (id detail : String) :
    Except StoreError (Store × Project) := do
  let p ← s.project id
  let q := { p with status := .analyzing, failure := some detail, updatedAt := now }
  pure (s.putProject q, q)

/-- Moves a project to another status by hand. -/
def moveProject (s : Store) (now : Instant) (id : String) (target : ProjectStatus) :
    Except StoreError (Store × ProjectChange) := do
  let p ← s.project id
  if p.status.canMoveTo target then
    let q := { p with status := target, updatedAt := now }
    pure (s.putProject q, ⟨p.status, q⟩)
  else .error (.projectStays id p.status target)

/-! ### Tickets -/

/-- Counts a completed ticket in its project. -/
def countCompleted (s : Store) (now : Instant) (project : String) : Store :=
  { s with projects := s.projects.map fun p =>
      if p.id == project then
        { p with completedTickets := p.completedTickets + 1, updatedAt := now }
      else p }

/-- Moves a ticket to another status. -/
def moveTicket (s : Store) (now : Instant) (id : String) (target : TicketStatus) :
    Except StoreError (Store × TicketChange) := do
  let t ← s.ticket id
  if t.status.canMoveTo target then
    let u := { t with status := target, updatedAt := now }
    let s := s.putTicket u
    pure (if target = .completed then s.countCompleted now t.project else s, ⟨t.status, u⟩)
  else .error (.ticketStays id t.status target)

/-- The status of a ticket once somebody works on it. -/
def assignedStatus : TicketStatus → TicketStatus
  | .pending | .ready => .assigned
  | s => s

/-- Gives a ticket to somebody. -/
def assignTicket (s : Store) (now : Instant) (id assignee : String) :
    Except StoreError (Store × TicketChange) := do
  let t ← s.ticket id
  if t.status.isTerminal then .error (.ticketClosed id t.status)
  else
    let u := { t with
      assignee := some assignee, status := assignedStatus t.status, updatedAt := now }
    pure (s.putTicket u, ⟨t.status, u⟩)

/-- Applies a patch to a ticket. -/
def patchTicket (s : Store) (now : Instant) (id : String) (p : Patch) :
    Except StoreError (Store × Ticket) := do
  if p.isEmpty then .error .emptyPatch
  else
    let t ← s.ticket id
    let u := { p.apply t with updatedAt := now }
    if u.estimatedHours.isNaN then .error (.constraint .hours)
    else pure (s.putTicket (u.stored now), u)

end Store

end Backlog
