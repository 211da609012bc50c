import Backlog.Auth.Authenticator
import Backlog.Metric
import Backlog.Sync.Message

/-! # The hub

The hub keeps the connections of clients. A connection starts without a session; a client gets one by
introducing itself with a token that is accepted, and loses its connection with one that is not. With a
session it follows projects, and is posted the events of those, until it is detached, closed with all
others, or given up at a tick because nothing was heard of it for too long.

Each operation gives the hub as it is afterwards and what it has posted, in order. A connection whose
writer has gone is still registered, but nothing can be posted to it. -/

namespace Backlog

/-- A moment on two clocks: milliseconds since some start, which only grow, and the time of day. -/
structure Moment where
  ticks : Nat
  time : Instant
  deriving Repr, DecidableEq, Inhabited

/-- What is posted to the writer of a connection. -/
inductive Outbound where
  | message (m : ServerMessage)
  | close (reason : String)
  deriving Repr, DecidableEq

/-- What is known of a client that has introduced itself. -/
structure Session where
  user : String
  client : ClientType
  /-- The projects that are followed, ascending. -/
  projects : List String
  since : Instant
  deriving Repr, DecidableEq

/-- A registered connection. -/
structure Connection where
  id : String
  /-- Whether the writer is still there. -/
  writable : Bool
  session : Option Session
  /-- When something that counts was last heard. -/
  heard : Moment
  deriving Repr, DecidableEq

/-- What has been posted, and to which connection. -/
abbrev Posted := List (String × Outbound)

namespace Connection

/-- Posts an item to a connection, if its writer is there. -/
def post (c : Connection) (item : Outbound) : Posted := if c.writable then [(c.id, item)] else []

/-- Posts an error. -/
def postError (c : Connection) (code message : String) (recoverable : Bool) : Posted :=
  c.post (.message (.error code message recoverable))

/-- Whether a connection follows a project. -/
def follows (c : Connection) (project : String) : Bool :=
  c.session.any fun s => s.projects.contains project

end Connection

/-- The registered connections and what it takes to serve them. -/
structure Hub where
  authenticator : Authenticator
  /-- After how many milliseconds of silence a connection is given up. -/
  timeout : Nat
  /-- How many connections there were before the last restart. -/
  recovered : Nat := 0
  connections : List Connection := []
  counts : Counts := []

/-- How many connections there are, with and without a session, and how many projects they follow. -/
structure HubStats where
  live : Nat
  unauthenticated : Nat
  subscriptions : Nat
  recovered : Nat
  deriving Repr, DecidableEq

/-- What is kept of a connection across restarts. -/
structure Snapshot where
  connection : String
  user : String
  client : ClientType
  projects : List String
  since : Instant
  heard : Instant
  deriving Repr, DecidableEq, Inhabited

namespace Hub

/-- The connection with an id. -/
def connection? (h : Hub) (id : String) : Option Connection := h.connections.find? (·.id == id)

/-- A hub with something more counted. -/
def count (h : Hub) (m : Metric) (n : Int) : Hub := { h with counts := h.counts ++ [(m, n)] }

/-- Replaces the connection with the same id. -/
def put (h : Hub) (c : Connection) : Hub :=
  { h with connections := h.connections.map fun d => if d.id == c.id then c else d }

/-! ### Coming and going -/

/-- Registers a connection. -/
def attach (h : Hub) (m : Moment) (id : String) : Hub :=
  let c : Connection := ⟨id, true, none, m⟩
  ({ h with connections := h.connections ++ [c] }.count .attached 1).count .active 1

/-- Forgets a connection; tells whether it was registered. -/
def detach (h : Hub) (id : String) : Hub × Bool :=
  match h.connection? id with
  | none => (h, false)
  | some _ =>
    ({ h with connections := h.connections.filter (·.id != id) }.count .active (-1), true)

/-- Notes that the writer of a connection has gone. -/
def hangUp (h : Hub) (id : String) : Hub :=
  { h with connections := h.connections.map fun c =>
      if c.id == id then { c with writable := false } else c }

/-! ### What clients send -/

/-- Adds a project to ascending ones. -/
def addProject (project : String) (ps : List String) : List String :=
  if ps.contains project then ps else (project :: ps).mergeSort Text.atMost

/-- The projects that a client follows when it introduces itself. -/
def firstProjects (project : Option String) : List String :=
  (project.filter fun p => !p.isEmpty).toList

/-- Gives a connection a session, or closes it for its token. -/
def introduce (h : Hub) (m : Moment) (c : Connection) (token : String) (client : ClientType)
    (project : Option String) : Hub × Posted :=
  match h.authenticator.authenticate m.time.seconds (some (bearerHeader token)) with
  | .ok identity =>
    let ps := firstProjects project
    (h.put { c with session := some ⟨identity.user, client, ps, m.time⟩, heard := m },
      c.post (.message (.authSuccess identity.user c.id ps)))
  | .error e =>
    (((h.count (.refused e.code) 1).detach c.id).1,
      c.postError e.code e.message false ++ c.post (.close "authentication failed"))

/-- Handles a message of a client with a session. -/
def handle (h : Hub) (m : Moment) (c : Connection) (s : Session) : ClientMessage → Hub × Posted
  | .authenticate .. =>
    (h, c.postError "already_authenticated" "Connection is already authenticated" true)
  | .subscribe project =>
    if project.isEmpty then (h, c.postError "invalid_message" "projectId must not be empty" true)
    else (h.put { c with session := some { s with projects := addProject project s.projects } }, [])
  | .unsubscribe project =>
    if s.projects.contains project then
      (h.put { c with session := some { s with projects := s.projects.filter (· != project) } }, [])
    else (h, c.postError "not_subscribed" ("Not subscribed to project " ++ project) true)
  | .pong _ => (h.put { c with heard := m }, [])

/-- Handles a text that came over a connection. -/
def receive (h : Hub) (m : Moment) (id text : String) : Hub × Posted :=
  match h.connection? id with
  | none => (h, [])
  | some c =>
    match ClientMessage.ofText text, c.session with
    | .error f, _ => (h, c.postError "invalid_message" ("Invalid message: " ++ f.message) true)
    | .ok message, some s => h.handle m c s message
    | .ok (.authenticate token client project), none => h.introduce m c token client project
    | .ok message, none =>
      (h, c.postError "not_authenticated" ("Authenticate before sending " ++ message.kind) true)

/-! ### What clients are sent -/

/-- Posts an event to all who follow its project; tells how many could be reached. Other messages are
not for everybody and reach nobody. -/
def broadcast (h : Hub) (message : ServerMessage) : Hub × Posted × Nat :=
  match message.project? with
  | none => (h, [], 0)
  | some project =>
    let followers := h.connections.filter (·.follows project)
    let reached := followers.filter (·.writable)
    let counted := followers.map fun c =>
      ((if c.writable then Metric.delivered message.kind else .undelivered message.kind), (1 : Int))
    ({ h with counts := h.counts ++ counted },
      followers.flatMap (·.post (.message message)), reached.length)

/-- Whether nothing was heard of a connection for too long. -/
def isSilent (h : Hub) (m : Moment) (c : Connection) : Bool :=
  decide (h.timeout < m.ticks - c.heard.ticks)

/-- Gives up a connection. -/
def evict (h : Hub) (c : Connection) : Hub := (h.detach c.id).1.count .evicted 1

/-- Gives up the silent connections and posts a heartbeat to the others that have a session; tells which
were given up. -/
def tick (h : Hub) (m : Moment) : Hub × Posted × List String :=
  let silent := h.connections.filter (h.isSilent m)
  let h' := silent.foldl evict h
  (h',
    silent.flatMap (·.post (.close "heartbeat timeout")) ++
      (h'.connections.filter (·.session.isSome)).flatMap
        (·.post (.message (.heartbeat m.time.millis))),
    silent.map (·.id))

/-- Closes all connections. -/
def closeAll (h : Hub) (reason : String) : Hub × Posted :=
  ({ h with
      connections := []
      counts := h.counts ++ h.connections.map fun _ => (Metric.active, (-1 : Int)) },
    h.connections.flatMap (·.post (.close reason)))

/-! ### What is known of connections -/

/-- How many connections there are. -/
def stats (h : Hub) : HubStats where
  live := (h.connections.filter (·.session.isSome)).length
  unauthenticated := (h.connections.filter (·.session.isNone)).length
  subscriptions :=
    (h.connections.map fun c => (c.session.map (·.projects.length)).getD 0).foldr (· + ·) 0
  recovered := h.recovered

/-- What is kept of a connection with a session. -/
def snapshotOf? (c : Connection) : Option Snapshot :=
  c.session.map fun s => ⟨c.id, s.user, s.client, s.projects, s.since, c.heard.time⟩

/-- What is kept of all connections, in the order of their introduction. -/
def snapshot (h : Hub) : List Snapshot :=
  (h.connections.filterMap snapshotOf?).mergeSort fun a b => a.since.atMost b.since

end Hub

end Backlog
