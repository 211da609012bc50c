import Backlog.Generation.Plan
import Backlog.Service

/-! # Generation runs

A run takes its project into analysis, plans the backlog and commits the plan, after which the project
is up for review. A run that fails leaves the project in analysis with the error noted and the rest of
the store as it was. `start` and `finish` are the two steps that touch the store. -/

namespace Backlog

/-- What a run is asked to do; a description given here replaces that of the project. -/
structure Brief where
  project : String
  files : List String
  description : Option String := none
  deriving Repr, DecidableEq

/-- How a run ended: the tickets as committed, or an error and none. -/
structure Outcome where
  project : String
  status : ProjectStatus
  tickets : List Ticket
  criticalPath : List String
  fallback : Bool
  error : Option GenerationError
  deriving Repr

/-- The outcome of a run that failed. -/
def Outcome.failed (project : String) (e : GenerationError) : Outcome :=
  ⟨project, .analyzing, [], [], false, some e⟩

/-- A run that has ended. -/
structure Run where
  store : Store
  outcome : Outcome
  events : List Event
  counts : Counts
  /-- What models were asked meanwhile. -/
  requests : List Llm.Request := []

namespace Run

/-- Takes the project into analysis. -/
def start (s : Store) (now : Instant) (b : Brief) :
    Except GenerationError (Store × Project × List Event) :=
  match s.beginAnalysis now b.project with
  | .error e => .error (.ofStore e)
  | .ok (s', c) => .ok (s', c.project, c.tell)

/-- What is counted for a run that ended in some way. -/
def ended (r : RunResult) : Counts := [(.runs r, 1), (.durations r, 1)]

/-- What is counted for an error. -/
def failedCounts : GenerationError → Counts
  | .cyclic _ => ended .failed ++ [(.cycles, 1)]
  | _ => ended .failed

/-- Ends a run with an error. -/
def fail (s : Store) (now : Instant) (project : String) (e : GenerationError) : Run where
  store := match e with
    | .projectMissing _ => s
    | _ => match s.failAnalysis now project e.message with
      | .ok (s', _) => s'
      | .error _ => s
  outcome := .failed project e
  events := []
  counts := failedCounts e

/-- Commits a plan. -/
def finish (s : Store) (now : Instant) (project : String) (planned : Except GenerationError Plan) :
    Run :=
  match planned with
  | .error e => fail s now project e
  | .ok plan =>
    match s.commit now plan.commit with
    | .error e => fail s now project (.ofStore e)
    | .ok (s', p) => {
        store := s'
        outcome := ⟨p.id, p.status, plan.commit.tickets, plan.criticalPath, plan.fallback, none⟩
        events := [.projectMoved project .analyzing p.status]
        counts := ended (if plan.fallback then .fallback else .success) ++
          [(Metric.tickets, (plan.commit.tickets.length : Int))] }

end Run

/-- Runs a generation; `mint i` is the id of the `i`-th ticket. -/
def Planner.run (p : Planner) (s : Store) (now : Instant) (mint : Nat → String) (b : Brief) : Run :=
  match Run.start s now b with
  | .error e => Run.fail s now b.project e
  | .ok (s', project, events) =>
    let planned := p.plan now mint project.id (b.description.getD project.description) b.files
    let r := Run.finish s' now project.id planned.result
    { r with
      events := events ++ r.events
      counts := planned.counts ++ r.counts
      requests := planned.requests }

end Backlog
