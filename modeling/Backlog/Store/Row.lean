import Backlog.Json.Printer
import Backlog.Store.Basic

/-! # Rows

The records of a store stand in tables. A row holds its values by position: names as texts, instants as
strict texts, lists and summaries as JSON, and nothing for what is absent. Reading goes by position too. A
column that holds something of another kind makes its row unreadable; but lists that are no JSON of their
kind count as empty, a summary that is none as absent, and an instant that is none as the present. -/

namespace Backlog

/-- What stands in a column of a row. -/
inductive Column where
  | null
  | integer (i : Int)
  | real (x : Float)
  | text (s : String)
  deriving Repr, Inhabited

/-- A row of a table. -/
abbrev Row := List Column

/-- Why a row cannot be read. -/
inductive RowFault where
  /-- There is no column at this position. -/
  | absent (position : Nat)
  /-- The column at this position holds something of another kind. -/
  | unfit (position : Nat)
  deriving Repr, DecidableEq

namespace Column

variable {α : Type}

/-! ### Writing -/

/-- A value that may be absent. -/
def ofOption (write : α → Column) : Option α → Column
  | none => null
  | some a => write a

/-- A natural number. -/
def ofNat (n : Nat) : Column := integer n

/-- Hours: what is no number is not stored, and zero has no sign. -/
def ofHours (h : Float) : Column := if h.isNaN then null else real (storedHours h)

/-- A value with a name. -/
def ofNamed [Named α] (a : α) : Column := text (Named.name a)

/-- An instant. -/
def ofInstant (t : Instant) : Column := text t.toStrictText

/-- A document. -/
def ofJson (v : Json) : Column := text v.render

/-! ### Reading -/

/-- A text. -/
def text? : Column → Option String
  | text s => some s
  | _ => none

/-- A natural number below a bound. -/
def nat? (bound : Nat) : Column → Option Nat
  | integer i => if 0 ≤ i ∧ i < bound then some i.toNat else none
  | _ => none

/-- A double; whole numbers are accepted. -/
def real? : Column → Option Float
  | real x => some x
  | integer i => some (Float.ofInt i)
  | _ => none

/-- A value that may be absent. -/
def option? (read : Column → Option α) : Column → Option (Option α)
  | null => some none
  | c => (read c).map some

/-- A value with a name. -/
def named? [Named α] (c : Column) : Option α := c.text?.bind Named.ofName?

/-- An instant, the present if the text is none. -/
def instant? (now : Instant) (c : Column) : Option Instant :=
  c.text?.map fun s => (Instant.ofStrictText? s).getD now

/-- A list in a document, empty if the text is none. -/
def list? (read : Json.Read α) (c : Column) : Option (List α) :=
  c.text?.map fun s => (Json.ofText (Json.readList read) s).toOption.getD []

/-- A value in a document, absent if the text is none. -/
def lenient? (read : Json.Read α) (c : Column) : Option (Option α) :=
  (c.option? text?).map fun s => s.bind fun s => (Json.ofText read s).toOption

/-- Whether two columns hold the same. An absent value is the same as nothing. -/
def same : Column → Column → Bool
  | integer i, integer j => i == j
  | real x, real y => x == y
  | text s, text t => s == t
  | _, _ => false

end Column

namespace Row

variable {α : Type}

/-- The value at a position. -/
def get (r : Row) (position : Nat) (read : Column → Option α) : Except RowFault α :=
  match r[position]? with
  | none => .error (.absent position)
  | some c => match read c with
    | some a => .ok a
    | none => .error (.unfit position)

/-- Whether the column at a position holds a text. -/
def holds (r : Row) (position : Nat) (s : String) : Bool := (r.getD position .null).same (.text s)

/-- Some columns of a row. -/
def select (r : Row) (positions : List Nat) : Row := positions.map (r.getD · .null)

/-- A row with other values at some positions. -/
def update (r : Row) (values : List (Nat × Column)) : Row := values.foldl (fun r v => r.set v.1 v.2) r

end Row

/-! ### Tickets -/

/-- The row of a ticket. -/
def Ticket.row (t : Ticket) : Row := [
  .text t.id, .text t.project, .text t.title, .text t.description, .ofNamed t.type, .ofNamed t.priority,
  .ofNamed t.status, .ofOption .text t.category, .ofOption .text t.feature, .ofHours t.estimatedHours,
  .ofOption .ofHours t.actualHours, .ofOption .ofNat t.rank, .ofJson (.ofList AffectedFile.write t.files),
  .ofJson (.ofList Criterion.write t.criteria), .ofOption .text t.assignee, .ofOption .text t.branch,
  .ofOption .text t.pullRequest, .ofNat t.commits, .ofInstant t.createdAt, .ofInstant t.updatedAt]

/-- The ticket in a row; its documents are looked at first. -/
def Ticket.ofRow (now : Instant) (r : Row) : Except RowFault Ticket := do
  let files ← r.get 12 (Column.list? AffectedFile.read)
  let criteria ← r.get 13 (Column.list? Criterion.read)
  pure {
    id := ← r.get 0 Column.text?
    project := ← r.get 1 Column.text?
    title := ← r.get 2 Column.text?
    description := ← r.get 3 Column.text?
    type := ← r.get 4 Column.named?
    priority := ← r.get 5 Column.named?
    status := ← r.get 6 Column.named?
    category := ← r.get 7 (Column.option? Column.text?)
    feature := ← r.get 8 (Column.option? Column.text?)
    estimatedHours := ← r.get 9 Column.real?
    actualHours := ← r.get 10 (Column.option? Column.real?)
    rank := ← r.get 11 (Column.option? (Column.nat? word32))
    files := files
    criteria := criteria
    assignee := ← r.get 14 (Column.option? Column.text?)
    branch := ← r.get 15 (Column.option? Column.text?)
    pullRequest := ← r.get 16 (Column.option? Column.text?)
    commits := ← r.get 17 (Column.nat? word32)
    createdAt := ← r.get 18 (Column.instant? now)
    updatedAt := ← r.get 19 (Column.instant? now) }

/-! ### Dependencies -/

/-- The row of a dependency of a project. -/
def Dependency.row (project : String) (e : Dependency) : Row :=
  [.text project, .text e.ticket, .text e.dependsOn, .ofNamed e.kind]

/-- The columns of a dependency that are read. -/
def Dependency.columns : List Nat := [1, 2, 3]

/-- The dependency in the columns that are read. -/
def Dependency.ofRow (r : Row) : Except RowFault Dependency := do
  pure {
    ticket := ← r.get 0 Column.text?
    dependsOn := ← r.get 1 Column.text?
    kind := ← r.get 2 Column.named? }

/-! ### Contexts -/

/-- The row of a context of a project. -/
def Context.row (project : String) (c : Context) : Row := [.text project, .text c.kind, .ofJson c.write]

/-- The context in a row. -/
def Context.ofRow (r : Row) : Except RowFault Context :=
  r.get 2 fun c => c.text?.bind fun s => (Json.ofText Context.read s).toOption

/-! ### Projects -/

/-- The row of a project. Tickets are counted modulo `2 ^ 32`. -/
def Project.row (p : Project) : Row := [
  .text p.id, .text p.name, .text p.description, .ofNamed p.status, .ofNat (p.totalTickets % word32),
  .ofNat p.completedTickets, .ofOption .ofInstant p.analyzedAt,
  .ofOption (fun s => .ofJson s.write) p.summary, .ofOption .text p.failure, .ofInstant p.createdAt,
  .ofInstant p.updatedAt]

/-- The project in a row. -/
def Project.ofRow (now : Instant) (r : Row) : Except RowFault Project := do
  let analyzedAt ← r.get 6 (Column.option? (Column.instant? now))
  let summary ← r.get 7 (Column.lenient? Summary.read)
  pure {
    id := ← r.get 0 Column.text?
    name := ← r.get 1 Column.text?
    description := ← r.get 2 Column.text?
    status := ← r.get 3 Column.named?
    totalTickets := ← r.get 4 (Column.nat? word32)
    completedTickets := ← r.get 5 (Column.nat? word32)
    analyzedAt := analyzedAt
    summary := summary
    failure := ← r.get 8 (Column.option? Column.text?)
    createdAt := ← r.get 9 (Column.instant? now)
    updatedAt := ← r.get 10 (Column.instant? now) }

end Backlog
