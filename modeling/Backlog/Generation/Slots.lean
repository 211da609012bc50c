import Backlog.Generation.Run

/-! # Runs at the same time

A project has at most one run at a time: who wants to run has to claim the slot of the project first,
and releases it when the run has ended, however it ended. A request that finds the slot taken is
refused at once.

`Floor` is the place where requests meet. Each takes its steps when its turn comes (`Floor.step`), so a
sequence of turns is an interleaving: claim, begin the analysis, commit the plan, note a failure,
release. A request that takes all its steps alone does what `Planner.run` does. -/

namespace Backlog

/-- The projects whose slot is taken. -/
structure Slots where
  taken : List String := []
  deriving Repr, DecidableEq, Inhabited

namespace Slots

/-- Takes the slot of a project, if it is free. -/
def claim? (s : Slots) (project : String) : Option Slots :=
  if s.taken.contains project then none else some ⟨project :: s.taken⟩

/-- Gives the slot of a project back. -/
def release (s : Slots) (project : String) : Slots := ⟨s.taken.filter (· != project)⟩

/-- How many slots are taken. -/
def inFlight (s : Slots) : Nat := s.taken.length

end Slots

/-- How far a request for a run has come. -/
inductive Progress where
  | waiting
  /-- The slot is taken. -/
  | claimed
  /-- The project is in analysis. -/
  | analyzing (project : Project)
  /-- The run has come to an error that is not noted yet. -/
  | failing (e : GenerationError)
  /-- The run has ended; the slot is still taken. -/
  | ended (o : Outcome)
  /-- The slot is given back. -/
  | done (o : Outcome)
  /-- The slot was not free. -/
  | refused
  deriving Repr

/-- Whether a request holds the slot of its project. -/
def Progress.holds : Progress → Bool
  | waiting | done _ | refused => false
  | claimed | analyzing _ | failing _ | ended _ => true

/-- A request for a run. -/
structure Turn where
  brief : Brief
  progress : Progress := .waiting
  deriving Repr

/-- Requests that share a store and its slots. -/
structure Floor where
  store : Store := {}
  slots : Slots := {}
  turns : List Turn := []

namespace Turn

/-- The next step of a request: what becomes of it, of the store and of the slots. -/
def step (p : Planner) (now : Instant) (mint : Nat → String) (t : Turn) (s : Store) (slots : Slots) :
    Progress × Store × Slots :=
  match t.progress with
  | .waiting => match slots.claim? t.brief.project with
    | none => (.refused, s, slots)
    | some slots' => (.claimed, s, slots')
  | .claimed => match Run.start s now t.brief with
    | .error e => (.failing e, s, slots)
    | .ok (s', project, _) => (.analyzing project, s', slots)
  | .analyzing project =>
    match (p.plan now mint project.id (t.brief.description.getD project.description)
        t.brief.files).result with
    | .error e => (.failing e, s, slots)
    | .ok plan => match s.commit now plan.commit with
      | .error e => (.failing (.ofStore e), s, slots)
      | .ok (s', q) =>
        (.ended ⟨q.id, q.status, plan.commit.tickets, plan.criticalPath, plan.fallback, none⟩,
          s', slots)
  | .failing e =>
    let r := Run.fail s now t.brief.project e
    (.ended r.outcome, r.store, slots)
  | .ended o => (.done o, s, slots.release t.brief.project)
  | .done o => (.done o, s, slots)
  | .refused => (.refused, s, slots)

end Turn

namespace Floor

/-- The turn of the `i`-th request. -/
def step (p : Planner) (now : Instant) (mint : Nat → String) (f : Floor) (i : Nat) : Floor :=
  match f.turns[i]? with
  | none => f
  | some t =>
    let (progress, store, slots) := t.step p now mint f.store f.slots
    { store, slots, turns := f.turns.set i { t with progress } }

/-- How many runs are in progress. -/
def running (f : Floor) : Nat := (f.turns.filter (·.progress.holds)).length

end Floor

end Backlog
