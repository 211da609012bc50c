import Backlog.Store.Commit
import Backlog.Store.Row

/-! # The tables of a store

A database holds the rows of a store in four tables, each in the order of writing. `Database.commit` does to
the rows what `Store.commit` does to the records; the queries select rows by what stands in a column and read
them. -/

namespace Backlog

/-- The tables of a store. -/
structure Database where
  projects : List Row := []
  tickets : List Row := []
  dependencies : List Row := []
  contexts : List Row := []
  deriving Repr, Inhabited

/-- Why an operation on the tables fails. -/
inductive DatabaseError where
  | refused (e : StoreError)
  | unreadable (f : RowFault)
  deriving Repr, DecidableEq

/-! ### Putting rows in -/

/-- What a table asks of a new row. -/
inductive Rule where
  /-- There is something in a column. -/
  | present (position : Nat)
  /-- Two columns do not hold the same. -/
  | distinct (position position' : Nat)
  /-- No other row holds the same in some columns. -/
  | unique (positions : List Nat)
  deriving Repr, DecidableEq

/-- Whether a table may take a row. -/
def Rule.admits (rows : List Row) (r : Row) : Rule → Bool
  | present i => match r.getD i .null with
    | .null => false
    | _ => true
  | distinct i j => !(r.getD i .null).same (r.getD j .null)
  | unique is => !rows.any fun q => is.all fun i => (q.getD i .null).same (r.getD i .null)

/-- Puts a row into a table with rules, each of which names what is broken otherwise. -/
def insertRow (rules : List (Rule × Constraint)) (rows : List Row) (r : Row) : Except StoreError (List Row) :=
  match rules.find? fun q => !q.1.admits rows r with
  | some (_, c) => .error (.constraint c)
  | none => .ok (rows ++ [r])

/-- The rules for tickets; the index over ranks is newer than the one over ids, and looked at first. -/
def Ticket.rules : List (Rule × Constraint) :=
  [(.present 9, .hours), (.unique [1, 11], .rank), (.unique [0], .ticketId)]

/-- The rules for dependencies. -/
def Dependency.rules : List (Rule × Constraint) := [(.distinct 1 2, .selfEdge), (.unique [1, 2], .edge)]

/-- The rules for contexts. -/
def Context.rules : List (Rule × Constraint) := [(.unique [0, 1], .contextKind)]

namespace Database

/-- The tables that hold a store. -/
def ofStore (s : Store) : Database where
  projects := s.projects.map Project.row
  tickets := s.tickets.map Ticket.row
  dependencies := s.edges.map fun e => e.2.row e.1
  contexts := s.contexts.map fun c => c.2.row c.1

/-! ### Queries -/

/-- The project with an id. -/
def project? (d : Database) (now : Instant) (id : String) : Except RowFault (Option Project) :=
  match d.projects.find? (·.holds 0 id) with
  | some r => (Project.ofRow now r).map some
  | none => .ok none

/-- The ticket with an id. -/
def ticket? (d : Database) (now : Instant) (id : String) : Except RowFault (Option Ticket) :=
  match d.tickets.find? (·.holds 0 id) with
  | some r => (Ticket.ofRow now r).map some
  | none => .ok none

/-- What a ticket depends on. -/
def dependenciesOf (d : Database) (id : String) : Except RowFault (List Dependency) :=
  ((d.dependencies.filter (·.holds 1 id)).map (·.select Dependency.columns)).mapM Dependency.ofRow

/-- The dependencies of a project. -/
def edgesOf (d : Database) (project : String) : Except RowFault (List Dependency) :=
  ((d.dependencies.filter (·.holds 0 project)).map (·.select Dependency.columns)).mapM Dependency.ofRow

/-- The contexts of a project. -/
def contextsOf (d : Database) (project : String) : Except RowFault (List Context) :=
  (d.contexts.filter (·.holds 0 project)).mapM Context.ofRow

/-! ### Commits -/

/-- The project with an id, which must exist. -/
def project (d : Database) (now : Instant) (id : String) : Except DatabaseError Project := do
  match ← (d.project? now id).mapError .unreadable with
  | some p => .ok p
  | none => .error (.refused (.projectMissing id))

/-- What a commit writes into the row of its project. -/
def reviewed (now : Instant) (c : Commit) : List (Nat × Column) := [
  (3, .ofNamed ProjectStatus.review), (4, .ofNat (c.tickets.length % word32)), (5, .ofNat 0),
  (6, .ofInstant now), (7, .ofJson c.summary.write), (8, .null), (10, .ofInstant now)]

/-- The tables without the tickets, dependencies and contexts of a project. -/
def clear (d : Database) (project : String) : Database :=
  { d with
    dependencies := d.dependencies.filter (!·.holds 0 project)
    tickets := d.tickets.filter (!·.holds 1 project)
    contexts := d.contexts.filter (!·.holds 0 project) }

/-- Puts all rows of a commit in. -/
def insertAll (d : Database) (c : Commit) : Except StoreError Database := do
  let tickets ← (c.tickets.map Ticket.row).foldlM (insertRow Ticket.rules) d.tickets
  let dependencies ← (c.edges.map (·.row c.project)).foldlM (insertRow Dependency.rules) d.dependencies
  let contexts ← (c.contexts.map (·.row c.project)).foldlM (insertRow Context.rules) d.contexts
  pure { d with tickets := tickets, dependencies := dependencies, contexts := contexts }

/-- Writes some columns of the row of a project. -/
def updateProject (d : Database) (id : String) (values : List (Nat × Column)) : Database :=
  { d with projects := d.projects.map fun r => if r.holds 0 id then r.update values else r }

/-- Stores what a run has made, and reads the project that is then up for review. -/
def commit (d : Database) (now : Instant) (c : Commit) : Except DatabaseError (Database × Project) :=
  match c.tickets.find? (·.project != c.project) with
  | some t => .error (.refused (.strayTicket t.id t.project))
  | none => do
    let _ ← d.project now c.project
    let filled ← ((d.clear c.project).insertAll c).mapError .refused
    let d' := filled.updateProject c.project (reviewed now c)
    let p ← d'.project now c.project
    pure (d', p)

end Database

end Backlog
