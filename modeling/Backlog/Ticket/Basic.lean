import Backlog.Named
import Backlog.Time.Rfc3339

/-! # Tickets

A ticket is one unit of development work of a project. Its status moves along `TicketStatus.canMoveTo`:
a move always changes the status, a completed or cancelled ticket moves no more, and a pending ticket
must be taken up before it is reviewed or completed. A `Dependency` says that one ticket must be done
before another. -/

namespace Backlog

/-- What sort of work a ticket is. -/
inductive TicketType where
  | setup | feature | enhancement | bug | refactor | test | documentation
  deriving Repr, DecidableEq, Inhabited

instance : Named TicketType where
  noun := "ticket type"
  values := [.setup, .feature, .enhancement, .bug, .refactor, .test, .documentation]
  name
    | .setup => "setup"
    | .feature => "feature"
    | .enhancement => "enhancement"
    | .bug => "bug"
    | .refactor => "refactor"
    | .test => "test"
    | .documentation => "documentation"

/-- How urgent a ticket is. -/
inductive Priority where
  | low | medium | high | critical
  deriving Repr, DecidableEq, Inhabited

instance : Named Priority where
  noun := "priority"
  values := [.low, .medium, .high, .critical]
  name
    | .low => "low"
    | .medium => "medium"
    | .high => "high"
    | .critical => "critical"

/-- How far a ticket has come. -/
inductive TicketStatus where
  | pending | ready | assigned | inProgress | review | blocked | completed | cancelled
  deriving Repr, DecidableEq, Inhabited

instance : Named TicketStatus where
  noun := "ticket status"
  values := [.pending, .ready, .assigned, .inProgress, .review, .blocked, .completed, .cancelled]
  name
    | .pending => "pending"
    | .ready => "ready"
    | .assigned => "assigned"
    | .inProgress => "in_progress"
    | .review => "review"
    | .blocked => "blocked"
    | .completed => "completed"
    | .cancelled => "cancelled"

namespace TicketStatus

/-- Whether a status is final. -/
def isTerminal : TicketStatus → Bool
  | .completed | .cancelled => true
  | _ => false

/-- Whether a ticket may be moved from one status to another. -/
def canMoveTo (s t : TicketStatus) : Bool :=
  s != t && !s.isTerminal && !(s == .pending && (t == .review || t == .completed))

end TicketStatus

/-- What happens to a file. -/
inductive ChangeKind where
  | create | modify | delete
  deriving Repr, DecidableEq, Inhabited

instance : Named ChangeKind where
  noun := "change kind"
  values := [.create, .modify, .delete]
  name
    | .create => "create"
    | .modify => "modify"
    | .delete => "delete"

/-- Why one ticket waits for another. -/
inductive DependencyKind where
  | blocks | related | fileConflict
  deriving Repr, DecidableEq, Inhabited

instance : Named DependencyKind where
  noun := "dependency kind"
  values := [.blocks, .related, .fileConflict]
  name
    | .blocks => "blocks"
    | .related => "related"
    | .fileConflict => "file_conflict"

/-- A file that a ticket is expected to touch. -/
structure AffectedFile where
  path : String
  reason : String
  change : ChangeKind
  deriving Repr, DecidableEq, Inhabited

/-- One condition for a ticket to be done. -/
structure Criterion where
  text : String
  completed : Bool
  deriving Repr, DecidableEq, Inhabited

/-- A unit of development work. -/
structure Ticket where
  id : String
  project : String
  title : String
  description : String
  type : TicketType
  priority : Priority
  status : TicketStatus
  /-- The part of the product, for tickets made from features. -/
  category : Option String
  /-- The feature the ticket was made from. -/
  feature : Option String
  estimatedHours : Float
  actualHours : Option Float
  /-- The rank in execution order, once the tickets are sorted. -/
  rank : Option Nat
  files : List AffectedFile
  criteria : List Criterion
  assignee : Option String
  branch : Option String
  pullRequest : Option String
  commits : Nat
  createdAt : Instant
  updatedAt : Instant
  deriving Repr, Inhabited

namespace Ticket

/-- Whether a ticket prepares the ground for all others. -/
def isSetup (t : Ticket) : Bool := t.type == .setup

/-- The paths of the files a ticket touches. -/
def paths (t : Ticket) : List String := t.files.map (·.path)

end Ticket

/-- `ticket` can only be done after `dependsOn`. -/
structure Dependency where
  ticket : String
  dependsOn : String
  kind : DependencyKind
  deriving Repr, DecidableEq, Inhabited

end Backlog
