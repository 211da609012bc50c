import Backlog.Http.Content

/-! # The server

The server answers requests about the store. What an action does (`Handled`) is a new store, new slots,
a response and events; a refusal leaves store and slots as they are and tells of nothing. Who sends a
request is established before anything of its body is read, and before it is known whether the resource
takes the method. Events are posted to the hub once their action is done. A request for a socket only has its
connection upgraded; the client is attached to the hub once the socket is there. -/

namespace Backlog

/-- What a request takes from its surroundings: the present, and the ids of what it creates. -/
structure Occasion where
  moment : Moment
  projectId : String
  ticketId : Nat → String

/-- The present. -/
def Occasion.now (o : Occasion) : Instant := o.moment.time

/-- Everything that serves requests. -/
structure Server where
  config : Config
  authenticator : Authenticator
  planner : Planner
  sync : SyncSystem
  store : Store := {}
  slots : Slots := {}

/-- What an action leaves. -/
structure Handled where
  store : Store
  slots : Slots
  response : Response
  events : List Event := []

namespace Server

/-- A server with nothing in its store. -/
def start (c : Config) (a : Authenticator) (p : Planner) (now : Nat) : Server where
  config := c
  authenticator := a
  planner := p
  sync := .start a c.sync none now

/-! ### Actions -/

/-- An answer that changes nothing. -/
def reply (s : Server) (r : Response) : Handled := ⟨s.store, s.slots, r, []⟩

/-- An answer that changes nothing, whether it is success or failure. -/
def look (s : Server) (r : Except Response Response) : Handled :=
  match r with
  | .ok a => s.reply a
  | .error a => s.reply a

/-- What an operation of the service leaves. -/
def served {α : Type} (s : Server) (w : α → Json) (r : Except ServiceError (Served α)) : Handled :=
  match r with
  | .ok r => ⟨r.store, s.slots, .ok (w r.result), r.events⟩
  | .error e => s.reply e.response

/-- Goes on with the value of a body. -/
def reading {α : Type} (s : Server) (r : Request) (reader : Json.Read α) (k : α → Handled) : Handled :=
  match r.read reader with
  | .ok a => k a
  | .error e => s.reply e

/-- Looks something up in the store. -/
def lookUp {α : Type} (r : Except StoreError α) : Except Response α :=
  r.mapError fun e => (ServiceError.store e).response

/-- Creates a project. -/
def createProject (s : Server) (o : Occasion) (d : ProjectDraft) : Handled :=
  match s.store.createProject o.now o.projectId (Text.trim d.name) d.description with
  | .ok (store, p) => ⟨store, s.slots, ⟨201, .json p.write⟩, []⟩
  | .error e => s.reply (ServiceError.store e).response

/-- Runs a generation, unless one is under way for the project. -/
def generate (s : Server) (o : Occasion) (b : Brief) : Handled :=
  match s.slots.claim? b.project with
  | none => s.reply (Outcome.conflict b.project)
  | some slots =>
    let r := s.planner.run s.store o.now o.ticketId b
    ⟨r.store, slots.release b.project, r.outcome.response, r.events⟩

/-- Lists tickets of a project. -/
def listTickets (s : Server) (project query : String) : Except Response Response := do
  match Listing.ofQuery? query with
  | none => throw ⟨400, .text "The query cannot be read"⟩
  | some l =>
    let _ ← lookUp (s.store.project project)
    let f ← (l.filter project).mapError (Response.error 400)
    pure (.ok (Listing.write (s.store.list f) (s.store.count f) f))

/-- Shows a ticket and what it depends on. -/
def showTicket (s : Server) (id : String) : Except Response Response := do
  let t ← lookUp (s.store.ticket id)
  pure (.ok (t.writeDetail (s.store.dependencies id)))

/-- Does what a request asks for, on behalf of a user. -/
def perform (s : Server) (o : Occasion) (user id : String) (r : Request) : Action → Handled
  | .showHealth => s.reply (.ok s.sync.writeHealth)
  | .showMetrics => s.reply ⟨200, .text s.sync.hub.counts.text⟩
  | .openSocket => s.reply
    (if r.asksForSocket then ⟨101, .empty⟩ else ⟨400, .text "The connection is not to be upgraded"⟩)
  | .showConfig => s.reply (.ok s.config.sanitize)
  | .createProject => s.reading r ProjectDraft.read (s.createProject o)
  | .showProject => s.look do
    let p ← lookUp (s.store.project id)
    pure (.ok p.write)
  | .generate => s.reading r (Brief.read id) (s.generate o)
  | .listTickets => s.look (s.listTickets id r.query)
  | .moveProject => s.reading r readProjectStatus fun target =>
    s.served Project.write (s.store.serveProject o.now id target)
  | .showTicket => s.look (s.showTicket id)
  | .patchTicket => s.reading r Patch.read fun p =>
    s.served Ticket.write (s.store.servePatch o.now id p user)
  | .moveTicket => s.reading r readTicketStatus fun target =>
    s.served Ticket.write (s.store.serveMove o.now id target user)
  | .assignTicket => s.reading r readAssignee fun assignee =>
    s.served Ticket.write (s.store.serveAssign o.now id assignee user)

/-! ### Requests -/

/-- Who sends a request. Where callers are trusted nobody needs to say who they are, and whoever does is
not listened to. -/
def caller (s : Server) (now : Instant) (r : Request) : Except AuthError String :=
  if s.authenticator.method = .none then .ok Identity.anonymous.user
  else (s.authenticator.authenticate now.seconds r.authorization?).map (·.user)

/-- Who may ask for a resource. -/
def authorize (s : Server) (now : Instant) (resource : Resource) (r : Request) :
    Except AuthError String :=
  if resource.isOpen then .ok Identity.anonymous.user else s.caller now r

/-- Handles a request that has a route. -/
def follow (s : Server) (o : Occasion) (r : Request) (route : Route) : Handled :=
  match s.authorize o.now route.resource r with
  | .error e => s.reply ⟨e.status, .empty⟩
  | .ok user =>
    match route.resource.action? r.method, Form.segment? route.segment with
    | none, _ => s.reply ⟨405, .empty⟩
    | some _, none => s.reply ⟨400, .text "The path is not UTF-8"⟩
    | some a, some id => s.perform o user id r a

/-- Handles a request. `OPTIONS` is answered for every path. -/
def handle (s : Server) (o : Occasion) (r : Request) : Handled :=
  if r.method = .options then s.reply ⟨200, .empty⟩
  else match Route.ofPath? r.path with
    | none => s.reply ⟨404, .empty⟩
    | some route => s.follow o r route

/-- The response as it is sent: to `HEAD` without its body. -/
def sent (r : Request) (a : Response) : Response :=
  if r.method = .head then { a with body := .empty } else a

/-- Posts events to the hub, one after the other. -/
def tell (sync : SyncSystem) (events : List Event) : SyncSystem × Posted :=
  events.foldl (fun (sync, posted) e =>
    let (sync', more) := sync.notify e
    (sync', posted ++ more)) (sync, [])

/-- Answers a request. -/
def respond (s : Server) (o : Occasion) (r : Request) : Server × Response × Posted :=
  let h := s.handle o r
  let (sync, posted) := tell s.sync h.events
  ({ s with store := h.store, slots := h.slots, sync := sync }, sent r h.response, posted)

end Server

end Backlog
