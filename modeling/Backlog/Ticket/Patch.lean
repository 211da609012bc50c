import Backlog.Ticket.Wire

/-! # Patches

A patch sets some of the fields of a ticket that people edit. `changed` lists the names of the fields it
sets; `apply` gives those fields the patch's values and leaves all others alone. -/

namespace Backlog

open Json (RecordField Read readString readNat readFloat)

/-- New values for some fields of a ticket. -/
structure Patch where
  title : Option String := none
  description : Option String := none
  priority : Option Priority := none
  estimatedHours : Option Float := none
  actualHours : Option Float := none
  branch : Option String := none
  pullRequest : Option String := none
  commits : Option Nat := none
  deriving Repr, Inhabited

namespace Patch

/-- The fields of a patch. -/
def fields : List (RecordField Patch) := [
  .sparse "title" readString .string (·.title) fun x v => { x with title := v },
  .sparse "description" readString .string (·.description) fun x v => { x with description := v },
  .sparse "priority" Named.read Named.write (·.priority) fun x v => { x with priority := v },
  .sparse "estimated_hours" readFloat Json.ofFloat (·.estimatedHours)
    fun x v => { x with estimatedHours := v },
  .sparse "actual_hours" readFloat Json.ofFloat (·.actualHours)
    fun x v => { x with actualHours := v },
  .sparse "branch_name" readString .string (·.branch) fun x v => { x with branch := v },
  .sparse "pr_url" readString .string (·.pullRequest) fun x v => { x with pullRequest := v },
  .sparse "commit_count" (readNat word32) Json.ofNat (·.commits)
    fun x v => { x with commits := v }]

/-- Reads a patch. -/
def read : Read Patch := Json.readRecord fields {}

/-- Writes a patch. -/
def write : Patch → Json := Json.ofRecord fields

/-- The names of the fields that a patch sets. -/
def changed (p : Patch) : List String := (Json.recordMembers fields p).map (·.1)

/-- Whether a patch sets nothing. -/
def isEmpty (p : Patch) : Bool := p.changed.isEmpty

/-- A ticket with the values of a patch. -/
def apply (p : Patch) (t : Ticket) : Ticket :=
  { t with
    title := p.title.getD t.title
    description := p.description.getD t.description
    priority := p.priority.getD t.priority
    estimatedHours := p.estimatedHours.getD t.estimatedHours
    actualHours := p.actualHours <|> t.actualHours
    branch := p.branch <|> t.branch
    pullRequest := p.pullRequest <|> t.pullRequest
    commits := p.commits.getD t.commits }

end Patch

end Backlog
