import Backlog.Store.Change

/-! # Committing a generation run

A commit replaces all tickets, dependencies and contexts of a project at once: what a former run left is
taken out, the new rows are put in one by one, and if one of them is not taken nothing changes. -/

namespace Backlog

/-- What a generation run wants to store. -/
structure Commit where
  project : String
  tickets : List Ticket
  edges : List Dependency
  contexts : List Context
  summary : Summary
  deriving Repr, Inhabited

namespace Store

/-- A store without the tickets, dependencies and contexts of a project. -/
def clear (s : Store) (project : String) : Store :=
  { s with
    tickets := s.tickets.filter (·.project != project)
    edges := s.edges.filter (·.1 != project)
    contexts := s.contexts.filter (·.1 != project) }

/-- Puts a ticket in. Of several broken rules the first is named: what is missing, then the rank, then the id. -/
def insertTicket (now : Instant) (rows : List Ticket) (t : Ticket) : Except StoreError (List Ticket) :=
  if t.estimatedHours.isNaN then .error (.constraint .hours)
  else if t.rank.isSome && rows.any fun r => r.project == t.project && r.rank == t.rank then
    .error (.constraint .rank)
  else if rows.any (·.id == t.id) then .error (.constraint .ticketId)
  else .ok (rows ++ [t.stored now])

/-- Puts a dependency of a project in. -/
def insertEdge (project : String) (rows : List (String × Dependency)) (e : Dependency) :
    Except StoreError (List (String × Dependency)) :=
  if e.ticket == e.dependsOn then .error (.constraint .selfEdge)
  else if rows.any fun (_, r) => r.ticket == e.ticket && r.dependsOn == e.dependsOn then
    .error (.constraint .edge)
  else .ok (rows ++ [(project, e)])

/-- Puts a context of a project in. -/
def insertContext (project : String) (rows : List (String × Context)) (c : Context) :
    Except StoreError (List (String × Context)) :=
  if rows.any fun (p, r) => p == project && r.kind == c.kind then .error (.constraint .contextKind)
  else .ok (rows ++ [(project, c)])

/-- Puts all rows of a commit in. -/
def insertAll (s : Store) (now : Instant) (c : Commit) : Except StoreError Store := do
  let tickets ← c.tickets.foldlM (insertTicket now) s.tickets
  let edges ← c.edges.foldlM (insertEdge c.project) s.edges
  let contexts ← c.contexts.foldlM (insertContext c.project) s.contexts
  pure { s with tickets := tickets, edges := edges, contexts := contexts }

/-- Stores what a run has made; the project is then up for review. Its tickets are counted in full here; in the
row of the project their number has 32 bits. -/
def commit (s : Store) (now : Instant) (c : Commit) : Except StoreError (Store × Project) :=
  match c.tickets.find? (·.project != c.project) with
  | some t => .error (.strayTicket t.id t.project)
  | none => do
    let p ← s.project c.project
    let s' ← (s.clear c.project).insertAll now c
    let q := { p with
      status := .review, totalTickets := c.tickets.length, completedTickets := 0
      analyzedAt := some now, summary := some c.summary, failure := none, updatedAt := now }
    pure (s'.putProject q, q)

end Store

end Backlog
