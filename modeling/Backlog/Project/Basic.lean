import Backlog.Ticket.Wire

/-! # Projects

A project is what tickets are generated for. While it is `analyzing` it belongs to a generation run:
nobody else may take it into that status or out of it (`ProjectStatus.canMoveTo`). -/

namespace Backlog

open Json (RecordField Read readString readBool readNat readOption readList)

/-- How far a project has come. -/
inductive ProjectStatus where
  | analyzing | review | approved | inProgress | completed | archived
  deriving Repr, DecidableEq, Inhabited

instance : Named ProjectStatus where
  noun := "project status"
  values := [.analyzing, .review, .approved, .inProgress, .completed, .archived]
  name
    | .analyzing => "analyzing"
    | .review => "review"
    | .approved => "approved"
    | .inProgress => "in_progress"
    | .completed => "completed"
    | .archived => "archived"

/-- Whether a project may be moved by hand from one status to another. -/
def ProjectStatus.canMoveTo (s t : ProjectStatus) : Bool := s != .analyzing && t != .analyzing

/-- What the last successful generation run found. -/
structure Summary where
  tickets : Nat
  features : Nat
  criticalPath : List String
  techStack : List String
  complexity : Option Nat
  /-- Whether the features were unknown, so that only the setup ticket was made. -/
  fallback : Bool
  deriving Repr, DecidableEq, Inhabited

/-- A project whose prototype is turned into tickets. -/
structure Project where
  id : String
  name : String
  description : String
  status : ProjectStatus
  totalTickets : Nat
  completedTickets : Nat
  analyzedAt : Option Instant
  summary : Option Summary
  /-- What went wrong in the last generation run, if it failed. -/
  failure : Option String
  createdAt : Instant
  updatedAt : Instant
  deriving Repr, DecidableEq, Inhabited

/-- The fields of a summary. -/
def Summary.fields : List (RecordField Summary) := [
  .of "ticket_count" .required (readNat word64) Json.ofNat (·.tickets)
    fun x v => { x with tickets := v },
  .of "feature_count" .required (readNat word64) Json.ofNat (·.features)
    fun x v => { x with features := v },
  .of "critical_path" .required (readList readString) (Json.ofList .string) (·.criticalPath)
    fun x v => { x with criticalPath := v },
  .of "tech_stack" .required (readList readString) (Json.ofList .string) (·.techStack)
    fun x v => { x with techStack := v },
  .of "overall_complexity" .defaulted (readOption (readNat 256)) (Json.ofOption Json.ofNat)
    (·.complexity) fun x v => { x with complexity := v },
  .of "fallback" .required readBool .bool (·.fallback) fun x v => { x with fallback := v }]

/-- Reads a summary. -/
def Summary.read : Read Summary := Json.readRecord fields default

/-- Writes a summary. -/
def Summary.write : Summary → Json := Json.ofRecord fields

/-- The fields of a project. -/
def Project.fields : List (RecordField Project) := [
  .string "id" (·.id) fun x v => { x with id := v },
  .string "name" (·.name) fun x v => { x with name := v },
  .string "description" (·.description) fun x v => { x with description := v },
  .of "status" .required Named.read Named.write (·.status) fun x v => { x with status := v },
  .of "total_tickets" .required (readNat word32) Json.ofNat (·.totalTickets)
    fun x v => { x with totalTickets := v },
  .of "completed_tickets" .required (readNat word32) Json.ofNat (·.completedTickets)
    fun x v => { x with completedTickets := v },
  .of "analyzed_at" .nullable (readOption Instant.read) (Json.ofOption Instant.write) (·.analyzedAt)
    fun x v => { x with analyzedAt := v },
  .of "analysis_result" .nullable (readOption Summary.read) (Json.ofOption Summary.write) (·.summary)
    fun x v => { x with summary := v },
  .of "analysis_error" .nullable (readOption readString) (Json.ofOption .string) (·.failure)
    fun x v => { x with failure := v },
  .of "created_at" .required Instant.read Instant.write (·.createdAt)
    fun x v => { x with createdAt := v },
  .of "updated_at" .required Instant.read Instant.write (·.updatedAt)
    fun x v => { x with updatedAt := v }]

/-- Reads a project. -/
def Project.read : Read Project := Json.readRecord fields default

/-- Writes a project. -/
def Project.write : Project → Json := Json.ofRecord fields

end Backlog
