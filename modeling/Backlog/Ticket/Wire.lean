import Backlog.Ticket.Basic

/-! # Tickets as JSON

The fields of a ticket and of its parts, in the order in which they are written and in which an array
lists them. Category and feature are left out when absent, other absent values are `null`. -/

namespace Backlog

open Json (RecordField Read readString readBool readNat readFloat readOption readList)

/-- One more than the largest 32-bit number. -/
def word32 : Nat := Nat.pow 2 32

/-- One more than the largest 64-bit number. -/
def word64 : Nat := Nat.pow 2 64

/-- An instant is written as its text. -/
def Instant.write (t : Instant) : Json := .string t.toText

/-- Reads an instant from its text. -/
def Instant.read : Read Instant
  | .string s => match Instant.ofText? s with
    | some t => .ok t
    | none => .error .mismatch
  | v => .error v.wrongKind

/-- The fields of an affected file. -/
def AffectedFile.fields : List (RecordField AffectedFile) := [
  .string "path" (·.path) fun x v => { x with path := v },
  .string "reason" (·.reason) fun x v => { x with reason := v },
  .of "change_kind" .required Named.read Named.write (·.change) fun x v => { x with change := v }]

/-- Reads an affected file. -/
def AffectedFile.read : Read AffectedFile := Json.readRecord fields default

/-- Writes an affected file. -/
def AffectedFile.write : AffectedFile → Json := Json.ofRecord fields

/-- The fields of an acceptance criterion. -/
def Criterion.fields : List (RecordField Criterion) := [
  .string "text" (·.text) fun x v => { x with text := v },
  .of "completed" .defaulted readBool .bool (·.completed) fun x v => { x with completed := v }]

/-- Reads an acceptance criterion. -/
def Criterion.read : Read Criterion := Json.readRecord fields default

/-- Writes an acceptance criterion. -/
def Criterion.write : Criterion → Json := Json.ofRecord fields

/-- The fields of a dependency. -/
def Dependency.fields : List (RecordField Dependency) := [
  .string "ticket_id" (·.ticket) fun x v => { x with ticket := v },
  .string "depends_on_ticket_id" (·.dependsOn) fun x v => { x with dependsOn := v },
  .of "kind" .required Named.read Named.write (·.kind) fun x v => { x with kind := v }]

/-- Reads a dependency. -/
def Dependency.read : Read Dependency := Json.readRecord fields default

/-- Writes a dependency. -/
def Dependency.write : Dependency → Json := Json.ofRecord fields

/-- The fields of a ticket. -/
def Ticket.fields : List (RecordField Ticket) := [
  .string "id" (·.id) fun x v => { x with id := v },
  .string "project_id" (·.project) fun x v => { x with project := v },
  .string "title" (·.title) fun x v => { x with title := v },
  .string "description" (·.description) fun x v => { x with description := v },
  .of "ticket_type" .required Named.read Named.write (·.type) fun x v => { x with type := v },
  .of "priority" .required Named.read Named.write (·.priority) fun x v => { x with priority := v },
  .of "status" .required Named.read Named.write (·.status) fun x v => { x with status := v },
  .sparse "category" readString .string (·.category) fun x v => { x with category := v },
  .sparse "feature_id" readString .string (·.feature) fun x v => { x with feature := v },
  .of "estimated_hours" .required readFloat Json.ofFloat (·.estimatedHours)
    fun x v => { x with estimatedHours := v },
  .of "actual_hours" .defaulted (readOption readFloat) (Json.ofOption Json.ofFloat) (·.actualHours)
    fun x v => { x with actualHours := v },
  .of "order_index" .defaulted (readOption (readNat word32)) (Json.ofOption Json.ofNat) (·.rank)
    fun x v => { x with rank := v },
  .of "affected_files" .defaulted (readList AffectedFile.read) (Json.ofList AffectedFile.write)
    (·.files) fun x v => { x with files := v },
  .of "acceptance_criteria" .defaulted (readList Criterion.read) (Json.ofList Criterion.write)
    (·.criteria) fun x v => { x with criteria := v },
  .of "assignee" .defaulted (readOption readString) (Json.ofOption .string) (·.assignee)
    fun x v => { x with assignee := v },
  .of "branch_name" .defaulted (readOption readString) (Json.ofOption .string) (·.branch)
    fun x v => { x with branch := v },
  .of "pr_url" .defaulted (readOption readString) (Json.ofOption .string) (·.pullRequest)
    fun x v => { x with pullRequest := v },
  .of "commit_count" .defaulted (readNat word32) Json.ofNat (·.commits)
    fun x v => { x with commits := v },
  .of "created_at" .required Instant.read Instant.write (·.createdAt)
    fun x v => { x with createdAt := v },
  .of "updated_at" .required Instant.read Instant.write (·.updatedAt)
    fun x v => { x with updatedAt := v }]

/-- A ticket with nothing filled in. -/
def Ticket.blank : Ticket where
  id := ""
  project := ""
  title := ""
  description := ""
  type := .feature
  priority := .medium
  status := .pending
  category := none
  feature := none
  estimatedHours := 0
  actualHours := none
  rank := none
  files := []
  criteria := []
  assignee := none
  branch := none
  pullRequest := none
  commits := 0
  createdAt := ⟨0, 0⟩
  updatedAt := ⟨0, 0⟩

/-- Reads a ticket. -/
def Ticket.read : Read Ticket := Json.readRecord fields blank

/-- Writes a ticket. -/
def Ticket.write : Ticket → Json := Json.ofRecord fields

end Backlog
