import Backlog.Service
import Backlog.Store.Database

/-! # Working on the tables

Work on a ticket, carried out on the tables that hold a store. The ticket is read from its row and the change is
checked; then some columns of rows that are there are written, each statement with a list of columns of its own.
What is answered and told is made from the ticket that was read, not from the row that was written. A computation
on the tables that fails leaves what it has written before, unless it is a transaction. -/

namespace Backlog

/-- **Work on a ticket** that is asked for. -/
inductive Work where
  | move (target : TicketStatus)
  | assign (assignee : String)
  | patch (p : Patch)
  deriving Repr

/-- What a store serves work with. -/
def Store.work (s : Store) (now : Instant) (id actor : String) : Work → Except ServiceError (Served Ticket)
  | .move target => s.serveMove now id target actor
  | .assign assignee => s.serveAssign now id assignee actor
  | .patch p => s.servePatch now id p actor

/-- Why work on the tables fails. -/
inductive WorkError where
  | refused (e : ServiceError)
  | unreadable (f : RowFault)
  deriving Repr, DecidableEq

/-- A computation on the tables. -/
abbrev TableAction (α : Type) := ExceptT WorkError (StateM Database) α

/-- One more than a number in a column. -/
def Column.succ : Column → Column
  | integer i => integer (i + 1)
  | real x => real (x + 1)
  | c => c

namespace TableAction

variable {α : Type}

/-- The result of a computation, and the tables it leaves. -/
def runOn (a : TableAction α) (d : Database) : Except WorkError α × Database := a.run.run d

/-- Fails with an error of the store. -/
def refuse (e : StoreError) : TableAction α := throw (.refused (.store e))

/-- A transaction: if the computation fails, nothing stays of what it has written. -/
def transaction (a : TableAction α) : TableAction α := do
  let d ← get
  tryCatch a fun e => do
    set d
    throw e

/-! ### Statements -/

/-- Reads the ticket with an id, which must exist. -/
def fetch (now : Instant) (id : String) : TableAction Ticket := do
  match (← get).ticket? now id with
  | .ok (some t) => pure t
  | .ok none => refuse (.ticketMissing id)
  | .error f => throw (.unreadable f)

/-- Writes some columns of the row of a ticket. Where a row would lose its hours, nothing is written. -/
def updateTicket (id : String) (values : List (Nat × Column)) : TableAction Unit := do
  let d ← get
  let rows := d.tickets.map fun r => if r.holds 0 id then r.update values else r
  if rows.all ((Rule.present 9).admits [] ·) then set { d with tickets := rows }
  else refuse (.constraint .hours)

/-- The row of a project with one more completed ticket. -/
def counted (now : Instant) (r : Row) : Row := r.update [(5, (r.getD 5 .null).succ), (10, .ofInstant now)]

/-- Counts a completed ticket in the row of its project. -/
def countCompleted (now : Instant) (project : String) : TableAction Unit :=
  modify fun d =>
    { d with projects := d.projects.map fun r => if r.holds 0 project then counted now r else r }

/-! ### Work -/

/-- Moves a ticket to another status. -/
def moveTicket (now : Instant) (id : String) (target : TicketStatus) : TableAction TicketChange :=
  transaction do
    let t ← fetch now id
    if t.status.canMoveTo target then
      updateTicket id [(6, .ofNamed target), (19, .ofInstant now)]
      if target = .completed then countCompleted now t.project
      pure ⟨t.status, { t with status := target, updatedAt := now }⟩
    else refuse (.ticketStays id t.status target)

/-- Gives a ticket to somebody. -/
def assignTicket (now : Instant) (id assignee : String) : TableAction TicketChange := do
  let t ← fetch now id
  if t.status.isTerminal then refuse (.ticketClosed id t.status)
  else
    let status := Store.assignedStatus t.status
    updateTicket id [(14, .text assignee), (6, .ofNamed status), (19, .ofInstant now)]
    pure ⟨t.status, { t with assignee := some assignee, status := status, updatedAt := now }⟩

/-- What a patched ticket has written. -/
def patched (t : Ticket) : List (Nat × Column) := [
  (2, .text t.title), (3, .text t.description), (5, .ofNamed t.priority), (9, .ofHours t.estimatedHours),
  (10, .ofOption .ofHours t.actualHours), (15, .ofOption .text t.branch), (16, .ofOption .text t.pullRequest),
  (17, .ofNat t.commits), (19, .ofInstant t.updatedAt)]

/-- Applies a patch to a ticket. -/
def patchTicket (now : Instant) (id : String) (p : Patch) : TableAction Ticket := do
  if p.isEmpty then refuse .emptyPatch
  else
    let t ← fetch now id
    let u := { p.apply t with updatedAt := now }
    updateTicket id (patched u)
    pure u

/-- Does the work and tells of it. -/
def serve (now : Instant) (id actor : String) : Work → TableAction (Ticket × List Event)
  | .move target => do
    let c ← moveTicket now id target
    pure (c.ticket, [c.tell actor])
  | .assign assignee => do
    let assignee := Text.trim assignee
    if assignee.isEmpty then throw (.refused .emptyAssignee)
    else
      let c ← assignTicket now id assignee
      pure (c.ticket, c.ticket.tell ["assignee"] actor :: (if c.moved then [c.tell actor] else []))
  | .patch p => do
    if p.isEmpty then throw (.refused .unchanged)
    else
      let t ← patchTicket now id p
      pure (t, [t.tell p.changed actor])

end TableAction

end Backlog
