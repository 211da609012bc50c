import Backlog.Config.Basic
import Backlog.Sync.Snapshot

/-! # The running hub

A hub runs beside the clock: it ticks at an interval, and takes snapshots of its connections at another.
A timer that is overdue fires once; unless it is only a moment late, it is next due a whole interval
after it fired. When its owner drops it, the hub saves a last snapshot and closes all connections; when
it is killed it does neither. -/

namespace Backlog

/-- Something that is due again and again. -/
structure Timer where
  /-- The length of the interval in milliseconds. -/
  interval : Nat
  due : Nat
  deriving Repr, DecidableEq

namespace Timer

/-- A timer that is first due one interval after a moment. -/
def start (interval now : Nat) : Timer := ⟨interval, now + interval⟩

/-- How late a timer may be without losing its rhythm. -/
def tolerance : Nat := 5

/-- The timer after it fired. -/
def next (t : Timer) (now : Nat) : Timer :=
  { t with due := if t.due + tolerance < now then now + t.interval else t.due + t.interval }

end Timer

/-- Whether a hub still runs, and how it stopped. -/
inductive Running where
  | running
  | dropped
  | killed
  deriving Repr, DecidableEq

/-- A hub with its timers and the rows of its stored snapshot, if there is a place for them. -/
structure SyncSystem where
  hub : Hub
  heartbeat : Timer
  snapshots : Option Timer
  stored : Option (List Row)
  state : Running

namespace SyncSystem

/-- Starts a hub. An interval of no length stops it at once. -/
def start (a : Authenticator) (c : SyncConfig) (stored : Option (List Row)) (now : Nat) : SyncSystem where
  hub := {
    authenticator := a
    timeout := c.heartbeatTimeout
    recovered := match stored.map Snapshot.load with
      | some (.ok entries) => entries.length
      | _ => 0 }
  heartbeat := .start c.heartbeatInterval now
  snapshots := c.snapshotEvery?.map fun i => .start i now
  stored := stored
  state := if c.heartbeatInterval = 0 then .killed else .running

/-- Whether the hub runs. -/
def isRunning (s : SyncSystem) : Bool := s.state == .running

/-- Asks the hub for something, if it runs. -/
def ask {α : Type} (s : SyncSystem) (f : Hub → Hub × α) : Except SyncError (SyncSystem × α) :=
  if s.isRunning then
    let (h, a) := f s.hub
    .ok ({ s with hub := h }, a)
  else .error .closed

/-- Tells the hub something; one that does not run does not hear it. -/
def tell (s : SyncSystem) (f : Hub → Hub × Posted) : SyncSystem × Posted :=
  match s.ask f with
  | .ok r => r
  | .error _ => (s, [])

/-- Registers a connection. -/
def attach (s : SyncSystem) (m : Moment) (id : String) : Except SyncError SyncSystem :=
  (s.ask fun h => (h.attach m id, ())).map (·.1)

/-- Hands over a text that came over a connection. -/
def receive (s : SyncSystem) (m : Moment) (id text : String) :
    Except SyncError (SyncSystem × Posted) := s.ask fun h => h.receive m id text

/-- Forgets a connection. -/
def detach (s : SyncSystem) (id : String) : SyncSystem :=
  (s.tell fun h => ((h.detach id).1, [])).1

/-- Notes that the writer of a connection has gone. -/
def hangUp (s : SyncSystem) (id : String) : SyncSystem := { s with hub := s.hub.hangUp id }

/-- Posts an event to all who follow its project. -/
def notify (s : SyncSystem) (e : Event) : SyncSystem × Posted :=
  s.tell fun h =>
    let (h, posted, _) := h.broadcast (.event e)
    (h, posted)

/-- How many connections there are. -/
def stats (s : SyncSystem) : Except SyncError HubStats :=
  (s.ask fun h => (h, h.stats)).map (·.2)

/-- Saves a snapshot; a failure leaves the former one. -/
def save (s : SyncSystem) : SyncSystem :=
  { s with stored := s.stored.map fun rows => (Snapshot.save rows s.hub.snapshot).1 }

/-! ### Time -/

/-- Ticks if it is time to. -/
def beat (s : SyncSystem) (m : Moment) : SyncSystem × Posted :=
  if s.isRunning && decide (s.heartbeat.due ≤ m.ticks) then
    let (h, posted, _) := s.hub.tick m
    ({ s with hub := h, heartbeat := s.heartbeat.next m.ticks }, posted)
  else (s, [])

/-- Takes a snapshot if it is time to. -/
def record (s : SyncSystem) (m : Moment) : SyncSystem :=
  match s.snapshots with
  | some t =>
    if s.isRunning && decide (t.due ≤ m.ticks) then
      { s.save with snapshots := some (t.next m.ticks) }
    else s
  | none => s

/-- Does what is due at a moment. -/
def wake (s : SyncSystem) (m : Moment) : SyncSystem × Posted :=
  let (s, posted) := s.beat m
  (s.record m, posted)

/-! ### The end -/

/-- Drops the hub: it saves a last snapshot and closes all connections. -/
def drop (s : SyncSystem) : SyncSystem × Posted :=
  if s.isRunning then
    let s := s.save
    let (h, posted) := s.hub.closeAll "server shutting down"
    ({ s with hub := h, state := .dropped }, posted)
  else (s, [])

/-- Kills the hub. -/
def kill (s : SyncSystem) : SyncSystem :=
  { s with state := if s.isRunning then .killed else s.state }

end SyncSystem

end Backlog
