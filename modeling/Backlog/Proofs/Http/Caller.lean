import Backlog.Http.Server
import Backlog.Proofs.Auth.Authenticator
import Backlog.Proofs.Generation.Run
import Backlog.Proofs.History
import Backlog.Proofs.Store.Transaction
import Backlog.Proofs.Sync.Run

/-! # Who a caller is at both doors

A server can be entered by two doors: a client introduces itself to the hub with a token, or sends it in the
header of a request. The hub asks the authenticator (`Hub.answers_token`); a request is asked who sends it
only if tokens are checked (`Server.caller_of_header`), and what it changes is told under the name that was
found (`Server.actor_of_perform`). So both doors find the same caller where tokens are checked. Where callers
are trusted, everybody is let in at both doors, but who comes in by a request has no name there
(`Server.callers_agree_iff`). -/

namespace Backlog

variable {s : Server} {a : Authenticator} {digest : Token.Digest} {c : AuthConfig} {m : Moment} {o : Occasion}
  {r : Request} {route : Route} {id text token user actor : String} {e : Event} {sync : SyncSystem}
  {posted : Posted}

/-! ### Names in events -/

/-- Who has made the change that an event tells of, if it says so. -/
def Event.actor? : Event → Option String
  | ticketUpdated _ _ _ actor | ticketMoved _ _ _ _ actor => some actor
  | projectMoved .. => none

theorem ProjectChange.actor_of_tell {x : ProjectChange} (he : e ∈ x.tell) : e.actor? = none := by
  unfold tell at he
  split_ifs at he
  · cases List.mem_singleton.mp he
    rfl
  · cases he

theorem Planner.actor_of_run {p : Planner} {st : Store} {now : Instant} {mint : ℕ → String} {b : Brief}
    (he : e ∈ (p.run st now mint b).events) : e.actor? = none := by
  have hfinish : ∀ {st : Store} {planned : Except GenerationError Plan},
      e ∈ (Run.finish st now b.project planned).events → e.actor? = none := by
    intro st planned he
    unfold Run.finish at he
    split at he
    · cases he
    · split at he
      · cases he
      · cases List.mem_singleton.mp he
        rfl
  cases hq : st.project? b.project with
  | none =>
    rw [run_of_missing hq] at he
    cases he
  | some q =>
    rw [run_of_project hq] at he
    rcases List.mem_append.mp he with he | he
    · exact ProjectChange.actor_of_tell he
    · exact hfinish he

namespace Server

theorem events_served {α : Type} {w : α → Json} {x : Except ServiceError (Served α)}
    (he : e ∈ (s.served w x).events) : ∃ v, x = .ok v ∧ e ∈ v.events := by
  cases x with
  | ok v => exact ⟨v, rfl, he⟩
  | error f => cases he

theorem events_look {x : Except Response Response} : (s.look x).events = [] := by
  cases x <;> rfl

theorem events_reading {α : Type} {reader : Json.Read α} {k : α → Handled}
    (he : e ∈ (s.reading r reader k).events) : ∃ v, e ∈ (k v).events := by
  unfold reading at he
  split at he
  · exact ⟨_, he⟩
  · cases he

/-- **What a user does is told under their name.** -/
theorem actor_of_perform {action : Action} (he : e ∈ (s.perform o user id r action).events)
    (hactor : e.actor? = some actor) : actor = user := by
  -- Runs and projects that are moved by hand are told of without a name.
  have hnobody : e.actor? ≠ none := by simp [hactor]
  cases action with
  | showHealth | showMetrics | openSocket | showConfig => cases he
  | createProject =>
    obtain ⟨d, he⟩ := events_reading he
    unfold createProject at he
    split at he <;> cases he
  | showProject | listTickets | showTicket =>
    simp only [perform, events_look] at he
    cases he
  | generate =>
    obtain ⟨b, he⟩ := events_reading he
    unfold generate at he
    split at he
    · cases he
    · exact absurd (Planner.actor_of_run he) hnobody
  | moveProject =>
    obtain ⟨target, he⟩ := events_reading he
    obtain ⟨v, hv, he⟩ := events_served he
    obtain ⟨-, x, -, rfl⟩ := Store.serveProject_eq_ok.mp hv
    exact absurd (ProjectChange.actor_of_tell he) hnobody
  | patchTicket =>
    obtain ⟨p, he⟩ := events_reading he
    obtain ⟨v, hv, he⟩ := events_served he
    obtain ⟨-, x, -, rfl⟩ := Store.servePatch_eq_ok.mp hv
    cases List.mem_singleton.mp he
    exact (Option.some.inj hactor).symm
  | moveTicket =>
    obtain ⟨target, he⟩ := events_reading he
    obtain ⟨v, hv, he⟩ := events_served he
    obtain ⟨x, -, rfl⟩ := Store.serveMove_eq_ok.mp hv
    cases List.mem_singleton.mp he
    exact (Option.some.inj hactor).symm
  | assignTicket =>
    obtain ⟨assignee, he⟩ := events_reading he
    obtain ⟨v, hv, he⟩ := events_served he
    obtain ⟨-, x, -, rfl⟩ := Store.serveAssign_eq_ok.mp hv
    rcases List.mem_cons.mp he with he | he
    · cases he
      exact (Option.some.inj hactor).symm
    · split_ifs at he
      · cases List.mem_singleton.mp he
        exact (Option.some.inj hactor).symm
      · cases he

/-! ### The request -/

/-- What a request is answered on behalf of a user. -/
def answerAs (s : Server) (o : Occasion) (r : Request) (route : Route) (user : String) : Handled :=
  match route.resource.action? r.method, Form.segment? route.segment with
  | none, _ => s.reply ⟨405, .empty⟩
  | some _, none => s.reply ⟨400, .text "The path is not UTF-8"⟩
  | some a, some id => s.perform o user id r a

theorem actor_of_answerAs (he : e ∈ (s.answerAs o r route user).events) (hactor : e.actor? = some actor) :
    actor = user := by
  unfold answerAs at he
  split at he
  · cases he
  · cases he
  · exact actor_of_perform he hactor

/-- **A request is answered on behalf of its caller**, or refused. -/
theorem handle_of_route (hpath : Route.ofPath? r.path = some route) (hmethod : r.method ≠ .options) :
    s.handle o r = match s.authorize o.now route.resource r with
      | .error f => s.reply ⟨f.status, .empty⟩
      | .ok user => s.answerAs o r route user := by
  rw [handle, if_neg hmethod, hpath]
  rfl

end Server

/-! ### The doors -/

/-- The user that a connection stands for. -/
def Hub.user? (h : Hub) (id : String) : Option String := (h.connection? id).bind fun c => c.session.map (·.user)

/-- **A token at both doors** of a server, in the same second: in the introduction of a client that has no
session yet, and in the header of a request for something that is not there for everybody. -/
structure Server.Presented (s : Server) (a : Authenticator) (token : String) (m : Moment) (id text : String)
    (o : Occasion) (r : Request) (route : Route) : Prop where
  hub : s.sync.hub.authenticator = a
  server : s.authenticator = a
  visitor : ∃ c, s.sync.hub.connection? id = some c ∧ c.session = none
  introduction : ∃ client project, ClientMessage.ofText text = .ok (.authenticate token client project)
  header : r.valuesOf "authorization" = [bearerHeader token]
  visible : token.toList.all isVisible = true
  second : m.time.seconds = o.now.seconds
  path : Route.ofPath? r.path = some route
  guarded : route.resource.isOpen = false
  method : r.method ≠ .options

/-- **The hub asks the authenticator**: the client is who it says, or is forgotten. -/
theorem Hub.answers_token {h : Hub} {x : Connection} {client : ClientType} {project : Option String}
    (hx : h.connection? id = some x) (hsession : x.session = none)
    (htext : ClientMessage.ofText text = .ok (.authenticate token client project)) :
    match h.authenticator.authenticate m.time.seconds (some (bearerHeader token)) with
    | .ok identity => (h.receive m id text).1.user? id = some identity.user
    | .error _ => (h.receive m id text).1.connection? id = none := by
  have hid := id_of_connection? hx
  have hconnection := (answers_receive (hid.symm ▸ hx) m text).connection
  have hanswer : x.answer h.authenticator m text = x.introduced h.authenticator m token client project := by
    rw [Connection.answer, htext, hsession]
  rw [hanswer, hid, Connection.introduced] at hconnection
  cases hauth : h.authenticator.authenticate m.time.seconds (some (bearerHeader token)) with
  | ok identity =>
    rw [hauth] at hconnection
    show (h.receive m id text).1.user? id = some identity.user
    rw [user?, hconnection]
    rfl
  | error f =>
    rw [hauth] at hconnection
    exact hconnection

theorem Request.authorization?_of_header (hheader : r.valuesOf "authorization" = [bearerHeader token])
    (hvisible : token.toList.all isVisible = true) : r.authorization? = some (bearerHeader token) := by
  have hvalue : (bearerHeader token).toList.all isVisible = true := by
    rw [bearerHeader, String.toList_append, List.all_append, hvisible, Bool.and_true]
    decide
  rw [authorization?, hheader, List.filter_cons, if_pos hvalue]
  rfl

/-- **A request is asked who sends it only if tokens are checked.** -/
theorem Server.caller_of_header (hp : s.Presented a token m id text o r route) :
    s.authorize o.now route.resource r =
      if a.method = .none then .ok Identity.anonymous.user
      else (a.authenticate m.time.seconds (some (bearerHeader token))).map (·.user) := by
  rw [authorize, if_neg (by simp [hp.guarded]), caller, hp.server,
    Request.authorization?_of_header hp.header hp.visible, hp.second]

theorem Authenticator.Configured.status_of_error {now : ℤ} {f : AuthError} (ha : a.Configured)
    (hf : a.authenticate now (some (bearerHeader token)) = .error f) : f.status = 401 := by
  have hcode := ha.code_of_error hf
  cases f with
  | secretMissing => split_ifs at hcode <;> simp [AuthError.code] at hcode
  | _ => rfl

theorem SyncSystem.receive_eq_ok {x : SyncSystem} : x.receive m id text = .ok (sync, posted) ↔
    x.isRunning = true ∧ { x with hub := (x.hub.receive m id text).1 } = sync ∧
      (x.hub.receive m id text).2 = posted := by
  unfold receive ask
  split_ifs with hrunning <;> simp [hrunning]

/-- **Both doors let the same callers in, and agree on who they are where tokens are checked.** Take a server
with an authenticator that a configuration asks for, and a token that is presented at both doors. The hub either
takes the client for some user or turns it away. If it takes it for a user, the request is answered on behalf
of a user too, under whose name all is told that it changes: the same if tokens are checked, and nobody in
particular if callers are trusted. If the hub turns the client away, the request is refused. -/
theorem Server.callers_agree_iff (ha : Authenticator.ofConfig digest c = .ok a)
    (hp : s.Presented a token m id text o r route) (hsync : s.sync.receive m id text = .ok (sync, posted)) :
    (∀ u, sync.hub.user? id = some u → ∃ v,
      s.authorize o.now route.resource r = .ok v ∧ s.handle o r = s.answerAs o r route v ∧
      (∀ e ∈ (s.handle o r).events, ∀ actor, e.actor? = some actor → actor = v) ∧
      (c.method = .none → v = Identity.anonymous.user) ∧
      (v = u ↔ c.method = .signedToken ∨ u = Identity.anonymous.user)) ∧
    (sync.hub.connection? id = none → s.handle o r = s.reply ⟨401, .empty⟩) ∧
    ((∃ u, sync.hub.user? id = some u) ∨ sync.hub.connection? id = none) := by
  obtain ⟨x, hx, hsession⟩ := hp.visitor
  obtain ⟨client, project, htext⟩ := hp.introduction
  have hhub := Hub.answers_token (m := m) hx hsession htext
  obtain ⟨-, rfl, -⟩ := SyncSystem.receive_eq_ok.mp hsync
  rw [hp.hub] at hhub
  have hcaller := caller_of_header hp
  rw [Authenticator.method_of_ofConfig ha] at hcaller
  have hhandle := handle_of_route hp.path hp.method (s := s) (o := o)
  cases hauth : a.authenticate m.time.seconds (some (bearerHeader token)) with
  | ok identity =>
    rw [hauth] at hhub hcaller
    dsimp only at hhub
    refine ⟨fun u hu => ?_, fun hnone => ?_, Or.inl ⟨_, hhub⟩⟩
    · obtain rfl : identity.user = u := Option.some.inj (hhub.symm.trans hu)
      refine ⟨if c.method = .none then Identity.anonymous.user else identity.user, ?_⟩
      have hok : s.authorize o.now route.resource r =
          .ok (if c.method = .none then Identity.anonymous.user else identity.user) := by
        rw [hcaller]
        split_ifs <;> rfl
      rw [hok] at hhandle
      refine ⟨hok, hhandle, fun e he actor hactor => ?_, fun hnone => if_pos hnone, ?_⟩
      · rw [hhandle] at he
        exact actor_of_answerAs he hactor
      · cases c.method <;> simp [eq_comm]
    · rw [Hub.user?, hnone] at hhub
      cases hhub
  | error f =>
    rw [hauth] at hhub hcaller
    dsimp only at hhub
    refine ⟨fun u hu => ?_, fun _ => ?_, Or.inr hhub⟩
    · rw [Hub.user?, hhub] at hu
      cases hu
    · rw [Authenticator.method_of_error ha hauth, if_neg (by decide)] at hcaller
      rw [hhandle, hcaller]
      show s.reply ⟨f.status, .empty⟩ = _
      rw [Authenticator.Configured.status_of_error ⟨digest, c, ha⟩ hauth]

/-- A server where a client has come to the hub. -/
def Server.visited (a : Authenticator) (c : AuthConfig) : Server where
  config := { auth := c }
  authenticator := a
  planner := {}
  sync := { SyncSystem.start a {} none 0 with hub := (SyncSystem.start a {} none 0).hub.attach default "ann" }
  store := Store.shopStore

/-- The introduction of the client. -/
def introducing (token : String) : String := (ClientMessage.authenticate token .web (some "p")).write.render

/-- A request that gives a ticket another title. -/
def retitling (token : String) : Request where
  method := .patch
  path := "/api/v1/tickets/a"
  headers := [("authorization", bearerHeader token), ("content-type", "application/json")]
  body := (Json.object [("title", .string "Cart")]).render

/-- The occasion of both. -/
def anyTime : Occasion := ⟨default, "q", fun _ => "t"⟩

theorem Server.presented_visited (a : Authenticator) (c : AuthConfig)
    (htext : ClientMessage.ofText (introducing token) = .ok (.authenticate token .web (some "p")))
    (hvisible : token.toList.all isVisible = true) :
    (visited a c).Presented a token default "ann" (introducing token) anyTime (retitling token) ⟨.ticket, "a"⟩ where
  hub := rfl
  server := rfl
  visitor := ⟨_, rfl, rfl⟩
  introduction := ⟨_, _, htext⟩
  header := by simp [retitling, Request.valuesOf]
  visible := hvisible
  second := rfl
  path := by
    show Route.ofPath? "/api/v1/tickets/a" = some ⟨.ticket, "a"⟩
    decide +kernel
  guarded := rfl
  method := by simp [retitling]

/-- Such a server that checks tokens. -/
def Server.checked : Server := visited (.signed Sha256.hex "k") ⟨.signedToken, some "k"⟩

theorem Server.callers_agree_iff_jane :
    Authenticator.ofConfig Sha256.hex ⟨.signedToken, some "k"⟩ = .ok checked.authenticator ∧
    (checked.sync.hub.receive default "ann" (introducing (Token.issue Sha256.hex "k" "jane" 9))).1.user? "ann" =
      some "jane" ∧
    checked.authorize anyTime.now .ticket (retitling (Token.issue Sha256.hex "k" "jane" 9)) = .ok "jane" := by
  have hconfig : Authenticator.ofConfig Sha256.hex ⟨.signedToken, some "k"⟩ = .ok checked.authenticator :=
    Authenticator.ofConfig_eq_ok.mpr (.inr ⟨rfl, "k", by decide, rfl, rfl⟩)
  -- Only where the token itself matters is it worked out.
  obtain ⟨token, htoken⟩ : ∃ token, Token.issue Sha256.hex "k" "jane" 9 = token := ⟨_, rfl⟩
  rw [htoken]
  have htext : ClientMessage.ofText (introducing token) = .ok (.authenticate token .web (some "p")) := by
    rw [← htoken]
    decide +kernel
  have hp : checked.Presented checked.authenticator token default "ann" (introducing token) anyTime
      (retitling token) ⟨.ticket, "a"⟩ :=
    presented_visited _ _ htext (by rw [← htoken]; decide +kernel)
  have hauth : checked.authenticator.authenticate (default : Moment).time.seconds
      (some (bearerHeader token)) = .ok ⟨"jane", "signed_token"⟩ := by
    rw [← htoken]
    decide +kernel
  obtain ⟨x, hx, hsession⟩ := hp.visitor
  have huser := Hub.answers_token (m := default) hx hsession htext
  rw [hp.hub, hauth] at huser
  have hsync : checked.sync.receive default "ann" (introducing token) = .ok (_, _) :=
    SyncSystem.receive_eq_ok.mpr ⟨rfl, rfl, rfl⟩
  generalize checked.sync.hub.receive default "ann" (introducing token) = received at huser hsync ⊢
  obtain ⟨v, hv, -, -, -, hagree⟩ := (callers_agree_iff hconfig hp hsync).1 "jane" huser
  rw [hagree.mpr (.inl rfl)] at hv
  exact ⟨hconfig, huser, hv⟩

/-- Where callers are trusted, Alice is herself to the hub but nobody in particular to a request. -/
theorem Server.callers_disagree_alice :
    Authenticator.ofConfig Sha256.hex ⟨.none, none⟩ = .ok .trusting ∧
    ((visited .trusting ⟨.none, none⟩).sync.hub.receive default "ann" (introducing "alice")).1.user? "ann" =
      some "alice" ∧
    (retitling "alice").valuesOf "authorization" = [bearerHeader "alice"] ∧
    (visited .trusting ⟨.none, none⟩).authorize default .ticket (retitling "alice") = .ok "anonymous" ∧
    ((visited .trusting ⟨.none, none⟩).handle anyTime (retitling "alice")).events =
      [.ticketUpdated "p" "a" ["title"] "anonymous"] :=
  ⟨rfl, by decide +kernel, by decide +kernel, rfl, by decide +kernel⟩

end Backlog
