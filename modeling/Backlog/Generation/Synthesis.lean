import Backlog.Feature.Basic
import Backlog.Project.Basic

/-! # Tickets from features

A project gets one setup ticket and one ticket for each feature, in the order of the features. The
features are checked one by one: each needs a name, a complexity from 1 to 10 and an id of its own. The
tickets are pending and not ranked yet. -/

namespace Backlog.Synthesis

open Backlog.Text

/-- Why features cannot become tickets. -/
inductive Refusal where
  | nameless (id : String)
  | complexityOutside (id : String) (complexity : Nat)
  | duplicateId (id : String)
  deriving Repr, DecidableEq

/-- What is wrong. -/
def Refusal.message : Refusal → String
  | nameless id => "feature " ++ id ++ " has no name"
  | complexityOutside id c =>
    "feature " ++ id ++ " has complexity " ++ toString c ++ " outside 1..=10"
  | duplicateId id => "duplicate feature id: " ++ id

/-- The first thing wrong with some features, given the ids that are taken. -/
def check : List String → List Feature → Except Refusal Unit
  | _, [] => .ok ()
  | seen, f :: fs =>
    if isBlankText f.name then .error (.nameless f.id)
    else if f.complexity < 1 ∨ 10 < f.complexity then .error (.complexityOutside f.id f.complexity)
    else if seen.contains f.id then .error (.duplicateId f.id)
    else check (f.id :: seen) fs

/-- The priority of a feature of some complexity. -/
def priorityOf (complexity : Nat) : Priority :=
  if 8 ≤ complexity then .high else if 5 ≤ complexity then .medium else .low

/-- What a setup ticket has to achieve. -/
def setupCriteria : List String := [
  "Repository builds from a clean checkout",
  "All dependencies install without errors",
  "Development server starts locally",
  "Required environment variables are documented"]

/-- A criterion that is not met yet. -/
def pendingCriterion (text : String) : Criterion := ⟨text, false⟩

/-- The setup ticket of a project. -/
def setupTicket (project description : String) (now : Instant) (id : String) : Ticket :=
  let about := trim description
  { Ticket.blank with
    id := id
    project := project
    title := "Project setup and environment configuration"
    description :=
      if about.isEmpty then "Prepare the development environment so feature work can start."
      else "Prepare the development environment for: " ++ about
    type := .setup
    priority := .critical
    estimatedHours := 2
    criteria := setupCriteria.map pendingCriterion
    createdAt := now
    updatedAt := now }

/-- The ticket of a feature. -/
def featureTicket (project : String) (now : Instant) (id : String) (f : Feature) : Ticket :=
  { Ticket.blank with
    id := id
    project := project
    title := f.name
    description := if isBlankText f.description then "Implement " ++ f.name else f.description
    type := .feature
    priority := priorityOf f.complexity
    category := some (if f.userFacing then "Frontend" else "Backend")
    feature := some f.id
    estimatedHours := f.hours
    files := f.files.map fun path => ⟨path, "feature implementation", .modify⟩
    criteria := [pendingCriterion (f.name ++ " works as described")]
    createdAt := now
    updatedAt := now }

/-- The tickets of a project; `mint i` is the id of the ticket at position `i`. -/
def synthesize (project description : String) (now : Instant) (mint : Nat → String)
    (features : List Feature) : Except Refusal (List Ticket) := do
  check [] features
  pure (setupTicket project description now (mint 0) ::
    features.mapIdx fun i f => featureTicket project now (mint (i + 1)) f)

end Backlog.Synthesis
