import Backlog.Proofs.Sync.Run
import Backlog.Sync.System

/-! # Runs of a hub beside the clock

A hub with its timers takes steps one by one: it is asked or told something, or a timer wakes it
(`SyncSystem.Step`). To its connections such a run is a run of the hub alone, with the operations that the steps
come to (`SyncSystem.trace`, `performs_run`): a timer that is not due comes to none, and neither does a snapshot. -/

namespace Backlog

namespace SyncSystem

variable {s : SyncSystem}

/-! ### Steps -/

/-- **What a running hub is asked and told**, in the order in which it comes; and whoever decides who a caller is
may change his mind at any time. -/
inductive Step where
  | attach (m : Moment) (id : String)
  | receive (m : Moment) (id text : String)
  | detach (id : String)
  /-- The writer of a connection goes. -/
  | hangUp (id : String)
  | notify (e : Event)
  | stats
  /-- The timer for heartbeats. -/
  | beat (m : Moment)
  /-- The timer for snapshots. -/
  | record (m : Moment)
  | adopt (a : Authenticator)

/-- A hub after one step, and what it posts. -/
def perform (s : SyncSystem) : Step → SyncSystem × Posted
  | .attach m id => ((s.attach m id).toOption.getD s, [])
  | .receive m id text => (s.receive m id text).toOption.getD (s, [])
  | .detach id => (s.detach id, [])
  | .hangUp id => (s.hangUp id, [])
  | .notify e => s.notify e
  | .stats => (s, [])
  | .beat m => s.beat m
  | .record m => (s.record m, [])
  | .adopt a => ({ s with hub := { s.hub with authenticator := a } }, [])

/-- **Steps one after another**: the hub afterwards, and all that was posted. -/
def run (s : SyncSystem) : List Step → SyncSystem × Posted
  | [] => (s, [])
  | step :: steps =>
    let r := s.perform step
    let rest := r.1.run steps
    (rest.1, r.2 ++ rest.2)

/-- What a step comes to for the connections. -/
def operations (s : SyncSystem) : Step → List Hub.Operation
  | .attach m id => [.attach m id]
  | .receive m id text => [.frame m id text]
  | .detach id => [.detach id]
  | .hangUp id => [.hangUp id]
  | .notify e => [.broadcast (.event e)]
  | .beat m => if s.heartbeat.due ≤ m.ticks then [.tick m] else []
  | .stats | .record _ => []
  | .adopt a => [.adopt a]

/-- **What a run comes to** for the connections. -/
def trace (s : SyncSystem) : List Step → List Hub.Operation
  | [] => []
  | step :: steps => s.operations step ++ (s.perform step).1.trace steps

/-- What a step changes of a hub that runs. -/
structure Performs (s : SyncSystem) (r : SyncSystem × Posted) (ops : List Hub.Operation) : Prop where
  hub : r.1.hub = (s.hub.run ops).1
  posted : r.2 = (s.hub.run ops).2
  running : r.1.isRunning = true
  stored : r.1.stored.isSome = s.stored.isSome

theorem performs_one (hs : s.isRunning = true) (op : Hub.Operation) :
    s.Performs ({ s with hub := (s.hub.perform op).1 }, (s.hub.perform op).2) [op] where
  hub := rfl
  posted := (List.append_nil _).symm
  running := hs
  stored := rfl

theorem performs_none {s' : SyncSystem} (hub : s'.hub = s.hub) (running : s'.isRunning = true)
    (stored : s'.stored.isSome = s.stored.isSome) : s.Performs (s', []) [] := ⟨hub, rfl, running, stored⟩

theorem ask_of_running {α : Type} (hs : s.isRunning = true) (f : Hub → Hub × α) :
    s.ask f = .ok ({ s with hub := (f s.hub).1 }, (f s.hub).2) := if_pos hs

theorem performs_record (hs : s.isRunning = true) (m : Moment) : s.Performs (s.record m, []) [] := by
  unfold record
  split
  · split_ifs
    · exact performs_none rfl hs Option.isSome_map
    · exact performs_none rfl hs rfl
  · exact performs_none rfl hs rfl

/-- **Each step** comes to its operations. -/
theorem performs_perform (hs : s.isRunning = true) (step : Step) :
    s.Performs (s.perform step) (s.operations step) := by
  cases step with
  | attach m id =>
    rw [perform, attach, ask_of_running hs]
    exact performs_one hs (.attach m id)
  | receive m id text =>
    rw [perform, receive, ask_of_running hs]
    exact performs_one hs (.frame m id text)
  | detach id =>
    rw [perform, detach, tell, ask_of_running hs]
    exact performs_one hs (.detach id)
  | hangUp id => exact performs_one hs (.hangUp id)
  | notify e =>
    rw [perform, notify, tell, ask_of_running hs]
    exact performs_one hs (.broadcast (.event e))
  | stats => exact performs_none rfl hs rfl
  | beat m =>
    rw [perform, beat, operations, hs, Bool.true_and]
    by_cases hdue : s.heartbeat.due ≤ m.ticks
    · rw [if_pos hdue, if_pos (decide_eq_true hdue)]
      exact ⟨rfl, (List.append_nil _).symm, hs, rfl⟩
    · rw [if_neg hdue, if_neg (by simpa using hdue)]
      exact performs_none rfl hs rfl
  | record m => exact performs_record hs m
  | adopt a => exact performs_one hs (.adopt a)

/-- **To its connections a hub with timers is a hub.** -/
theorem performs_run : ∀ (steps : List Step) {s : SyncSystem}, s.isRunning = true →
    s.Performs (s.run steps) (s.trace steps)
  | [], _, hs => performs_none rfl hs rfl
  | step :: steps, s, hs => by
    obtain ⟨hhub, hposted, hrunning, hstored⟩ := performs_perform hs step
    obtain ⟨hhub', hposted', hrunning', hstored'⟩ := performs_run steps hrunning
    rw [hhub] at hhub' hposted'
    refine ⟨?_, ?_, hrunning', hstored'.trans hstored⟩
    · rw [run, trace, Hub.run_append, ← hhub']
    · rw [run, trace, Hub.run_append, ← hposted', ← hposted]

/-! ### What is given and heard in a run -/

/-- The id that a step gives to a connection, if any. -/
def Step.attached : Step → List String
  | .attach _ id => [id]
  | _ => []

theorem attached_trace : ∀ (steps : List Step) (s : SyncSystem),
    Hub.attached (s.trace steps) = steps.flatMap Step.attached
  | [], _ => rfl
  | step :: steps, s => by
    have hstep : Hub.attached (s.operations step) = step.attached := by
      cases step with
      | beat m =>
        rw [operations]
        split_ifs <;> rfl
      | _ => rfl
    rw [trace, List.flatMap_cons, ← hstep, ← attached_trace steps, Hub.attached, List.flatMap_append]
    rfl

/-- A text is heard at the moment at which it was received. -/
theorem receive_mem_of_frame_mem {m : Moment} {id text : String} : ∀ {steps : List Step} {s : SyncSystem},
    .frame m id text ∈ s.trace steps → .receive m id text ∈ steps
  | step :: steps, s, h => by
    rcases List.mem_append.mp h with h | h
    · have hstep : step = .receive m id text := by
        cases step with
        | beat m' =>
          simp only [operations] at h
          split_ifs at h <;> simp at h
        | _ => simp_all [operations]
      exact hstep ▸ List.mem_cons_self
    · exact List.mem_cons_of_mem _ (receive_mem_of_frame_mem h)

end SyncSystem

end Backlog
