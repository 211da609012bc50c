import Backlog.Project.Basic

/-! # Events

What is told to everybody who follows a project once a change of it has been stored. -/

namespace Backlog

/-- A change of a project or of one of its tickets. -/
inductive Event where
  | ticketUpdated (project ticket : String) (changes : List String) (actor : String)
  | ticketMoved (project ticket : String) (old new : TicketStatus) (actor : String)
  | projectMoved (project : String) (old new : ProjectStatus)
  deriving Repr, DecidableEq

namespace Event

/-- The project that an event belongs to. -/
def project : Event → String
  | ticketUpdated p .. | ticketMoved p .. | projectMoved p .. => p

/-- The name of an event's kind. -/
def kind : Event → String
  | ticketUpdated .. => "ticket_updated"
  | ticketMoved .. => "ticket_status_changed"
  | projectMoved .. => "project_status_changed"

end Event

end Backlog
