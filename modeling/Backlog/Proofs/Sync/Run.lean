import Backlog.Proofs.Sync.Hub

/-! # Runs of the hub

A run is a sequence of operations from a hub without connections; whoever decides who a caller is may change
his mind at any time (`Hub.Operation`, `Hub.run`). The hub looks at one connection at a time: what an
operation makes of a connection, and what is put on its channel, depends on nothing but this connection
(`Connection.turn`, `Connection.answer`).

* `answers_receive`: a text is answered as if its connection were alone.
* `perform_eq_turn`: **each connection is served as if it were alone**.
* `run_induction`: what holds when a connection comes, and is kept in each of its turns, holds in every run
  that gives each connection an id of its own. -/

namespace Backlog

variable {h : Hub} {a : Authenticator} {m : Moment} {c d : Connection} {id text : String}

/-! ### One connection -/

namespace Connection

/-- An error that leaves a connection as it is. -/
def complaint (code message : String) : Outbound := .message (.error code message true)

/-- What an introduction makes of a connection. -/
def introduced (a : Authenticator) (m : Moment) (c : Connection) (token : String) (client : ClientType)
    (project : Option String) : Option Connection × List Outbound :=
  match a.authenticate m.time.seconds (some (bearerHeader token)) with
  | .ok identity =>
    let ps := Hub.firstProjects project
    (some { c with session := some ⟨identity.user, client, ps, m.time⟩, heard := m },
      [.message (.authSuccess identity.user c.id ps)])
  | .error e => (none, [.message (.error e.code e.message false), .close "authentication failed"])

/-- What a message makes of a connection with a session. -/
def handled (m : Moment) (c : Connection) (s : Session) :
    ClientMessage → Option Connection × List Outbound
  | .authenticate .. =>
    (some c, [complaint "already_authenticated" "Connection is already authenticated"])
  | .subscribe project =>
    if project.isEmpty then (some c, [complaint "invalid_message" "projectId must not be empty"])
    else (some { c with session := some { s with projects := Hub.addProject project s.projects } }, [])
  | .unsubscribe project =>
    if s.projects.contains project then
      (some { c with session := some { s with projects := s.projects.filter (· != project) } }, [])
    else (some c, [complaint "not_subscribed" ("Not subscribed to project " ++ project)])
  | .pong _ => (some { c with heard := m }, [])

/-- **What a text makes of the connection it came over**, and the items that answer it. -/
def answer (a : Authenticator) (m : Moment) (c : Connection) (text : String) :
    Option Connection × List Outbound :=
  match ClientMessage.ofText text, c.session with
  | .error f, _ => (some c, [complaint "invalid_message" ("Invalid message: " ++ f.message)])
  | .ok message, some s => c.handled m s message
  | .ok (.authenticate token client project), none => c.introduced a m token client project
  | .ok message, none =>
    (some c, [complaint "not_authenticated" ("Authenticate before sending " ++ message.kind)])

theorem writable_of_introduced {token : String} {client : ClientType} {project : Option String}
    (h : (c.introduced a m token client project).1 = some d) : d.writable = c.writable := by
  unfold introduced at h
  cases hauth : a.authenticate m.time.seconds (some (bearerHeader token)) with
  | ok identity =>
    rw [hauth] at h
    cases h
    rfl
  | error e =>
    rw [hauth] at h
    cases h

theorem writable_of_handled {s : Session} {message : ClientMessage}
    (h : (c.handled m s message).1 = some d) : d.writable = c.writable := by
  cases message with
  | authenticate token client project => cases h; rfl
  | subscribe project =>
    simp only [handled] at h
    split_ifs at h <;> cases h <;> rfl
  | unsubscribe project =>
    simp only [handled] at h
    split_ifs at h <;> cases h <;> rfl
  | pong t => cases h; rfl

theorem writable_of_answer (h : (c.answer a m text).1 = some d) : d.writable = c.writable := by
  unfold answer at h
  split at h
  · cases h; rfl
  · exact writable_of_handled h
  · exact writable_of_introduced h
  · cases h; rfl

end Connection

namespace Hub

/-- What can happen to a hub. -/
inductive Operation where
  | attach (m : Moment) (id : String)
  | detach (id : String)
  | hangUp (id : String)
  | frame (m : Moment) (id text : String)
  | broadcast (message : ServerMessage)
  | tick (m : Moment)
  | closeAll (reason : String)
  /-- From now on callers are told apart in another way. -/
  | adopt (a : Authenticator)

/-- **One operation**: the hub afterwards, and what was posted. -/
def perform (h : Hub) : Operation → Hub × Posted
  | .attach m id => (h.attach m id, [])
  | .detach id => ((h.detach id).1, [])
  | .hangUp id => (h.hangUp id, [])
  | .frame m id text => h.receive m id text
  | .broadcast message => ((h.broadcast message).1, (h.broadcast message).2.1)
  | .tick m => ((h.tick m).1, (h.tick m).2.1)
  | .closeAll reason => h.closeAll reason
  | .adopt a => ({ h with authenticator := a }, [])

end Hub

/-- **What an operation makes of a connection**, and the items that are handed to it. -/
def Connection.turn (a : Authenticator) (timeout : ℕ) (c : Connection) :
    Hub.Operation → Option Connection × List Outbound
  | .attach _ _ | .adopt _ => (some c, [])
  | .detach id => (if c.id = id then none else some c, [])
  | .hangUp id => (some (if c.id = id then { c with writable := false } else c), [])
  | .frame m id text => if c.id = id then c.answer a m text else (some c, [])
  | .broadcast message =>
    (some c, if message.project?.any c.follows then [.message message] else [])
  | .tick m =>
    if timeout < m.ticks - c.heard.ticks then (none, [.close "heartbeat timeout"])
    else (some c, if c.session.isSome then [.message (.heartbeat m.time.millis)] else [])
  | .closeAll reason => (none, [.close reason])

/-- A writer that has gone does not come back. -/
theorem Connection.not_writable_of_turn {timeout : ℕ} {op : Hub.Operation} (hc : c.writable = false)
    (h : (c.turn a timeout op).1 = some d) : d.writable = false := by
  cases op with
  | attach m id => cases h; exact hc
  | detach id =>
    simp only [turn] at h
    split_ifs at h
    cases h
    exact hc
  | hangUp id =>
    cases h
    split_ifs
    · rfl
    · exact hc
  | frame m id text =>
    simp only [turn] at h
    split_ifs at h
    · exact (writable_of_answer h).trans hc
    · cases h; exact hc
  | broadcast message => cases h; exact hc
  | tick m =>
    simp only [turn] at h
    split_ifs at h
    all_goals
      cases h
      exact hc
  | closeAll reason => cases h
  | adopt a => cases h; exact hc

namespace Hub

/-! ### Each connection is served as if it were alone -/

/-- **What a hub does for one of its connections** is what the connection answers; the others are left
alone. -/
structure Answers (h : Hub) (c : Connection) (r : Hub × Posted)
    (answer : Option Connection × List Outbound) : Prop where
  connection : r.1.connection? c.id = answer.1
  others : ∀ id, id ≠ c.id → r.1.connection? id = h.connection? id
  ids : r.1.ids.Sublist h.ids
  posted : r.2 = answer.2.flatMap c.post

theorem Answers.complaint (hc : h.connection? c.id = some c) (code message : String) :
    h.Answers c (h, c.postError code message true) (some c, [Connection.complaint code message]) where
  connection := hc
  others _ _ := rfl
  ids := .refl _
  posted := by simp [Connection.postError, Connection.complaint]

theorem Answers.put (hc : h.connection? c.id = some c) (hid : d.id = c.id) :
    h.Answers c (h.put d, []) (some d, []) where
  connection := by rw [connection?_put, hc, Option.map_some, if_pos (by rw [hid, beq_self_eq_true])]
  others id hne := by rw [connection?_put, hid, map_connection?_of_ne hne]
  ids := ids_put h d ▸ .refl _
  posted := rfl

theorem answers_introduce (hc : h.connection? c.id = some c) (m : Moment) (token : String)
    (client : ClientType) (project : Option String) :
    h.Answers c (h.introduce m c token client project)
      (c.introduced h.authenticator m token client project) := by
  unfold introduce Connection.introduced
  cases h.authenticator.authenticate m.time.seconds (some (bearerHeader token)) with
  | ok identity =>
    have hput := Answers.put (d := { c with
      session := some ⟨identity.user, client, firstProjects project, m.time⟩, heard := m }) hc rfl
    exact ⟨hput.connection, hput.others, hput.ids, by simp⟩
  | error e =>
    refine ⟨?_, fun id hne => ?_, ?_, by simp [Connection.postError]⟩
    · rw [connection?_detach, if_pos rfl]
    · rw [connection?_detach, if_neg hne]
      rfl
    · rw [ids, connections_detach]
      exact List.filter_sublist.map _

theorem answers_handle (hc : h.connection? c.id = some c) (m : Moment) (s : Session)
    (message : ClientMessage) :
    h.Answers c (h.handle m c s message) (c.handled m s message) := by
  cases message with
  | authenticate token client project => exact .complaint hc _ _
  | subscribe project =>
    simp only [handle, Connection.handled]
    split_ifs
    · exact .complaint hc _ _
    · exact .put hc rfl
  | unsubscribe project =>
    simp only [handle, Connection.handled]
    split_ifs
    · exact .put hc rfl
    · exact .complaint hc _ _
  | pong t => exact .put hc rfl

/-- **A text is answered over its connection**, as if there were no others. -/
theorem answers_receive (hc : h.connection? c.id = some c) (m : Moment) (text : String) :
    h.Answers c (h.receive m c.id text) (c.answer h.authenticator m text) := by
  unfold receive Connection.answer
  rw [hc]
  dsimp only
  cases ClientMessage.ofText text with
  | error f => exact .complaint hc _ _
  | ok message =>
    cases c.session with
    | some s => exact answers_handle hc m s message
    | none =>
      cases message with
      | authenticate token client project => exact answers_introduce hc m token client project
      | subscribe project => exact .complaint hc _ _
      | unsubscribe project => exact .complaint hc _ _
      | pong t => exact .complaint hc _ _

theorem receive_of_none (hc : h.connection? id = none) (m : Moment) (text : String) :
    h.receive m id text = (h, []) := by
  rw [receive, hc]

theorem receive_of_ne {id' : String} (hne : id ≠ id') (m : Moment) (text : String) :
    (h.receive m id' text).1.connection? id = h.connection? id ∧
      Posted.to (h.receive m id' text).2 id = [] := by
  cases hd : h.connection? id' with
  | none =>
    rw [receive_of_none hd]
    exact ⟨rfl, rfl⟩
  | some d =>
    have hid := id_of_connection? hd
    subst hid
    obtain ⟨-, hothers, -, hposted⟩ := answers_receive hd m text
    rw [hposted, to_flatMap_post, if_neg hne.symm]
    exact ⟨hothers id hne, rfl⟩

/-- **Each connection is served as if it were alone.** -/
theorem perform_eq_turn (hd : h.Distinct) (hc : h.connection? id = some c) (op : Operation) :
    (h.perform op).1.connection? id = (c.turn h.authenticator h.timeout op).1 ∧
      Posted.to (h.perform op).2 id = c.hand (c.turn h.authenticator h.timeout op).2 := by
  have hid := id_of_connection? hc
  have hnothing : Posted.to [] id = c.hand [] := by simp [Posted.to, Connection.hand]
  cases op with
  | attach m id' =>
    exact ⟨by rw [perform, connection?_attach, hc]; rfl, hnothing⟩
  | detach id' =>
    refine ⟨?_, hnothing⟩
    simp only [perform, connection?_detach, Connection.turn, hc, hid]
  | hangUp id' =>
    refine ⟨?_, hnothing⟩
    simp only [perform, connection?_hangUp, Connection.turn, hc, Option.map_some, beq_iff_eq]
  | frame m id' text =>
    -- only here can the operation be about another connection and still post something
    simp only [perform, Connection.turn]
    split_ifs with hc'
    · obtain ⟨hconnection, -, -, hposted⟩ := answers_receive (hid ▸ hc) m text
      rw [← hc', ← hid, hposted, to_flatMap_post, if_pos rfl]
      exact ⟨hconnection, rfl⟩
    · have hne : id ≠ id' := hid ▸ hc'
      obtain ⟨hconnection, hposted⟩ := receive_of_ne (h := h) hne m text
      rw [hconnection, hposted]
      exact ⟨hc, hnothing⟩
  | broadcast message =>
    refine ⟨?_, ?_⟩
    · rw [perform, connection?, connections_broadcast]
      exact hc
    · simp only [perform, to_broadcast hd, hc, Connection.turn, Option.filter]
      split_ifs <;> simp [Connection.hand]
  | tick m =>
    simp only [perform, connection?_tick hd, to_tick hd, hc, Connection.turn]
    by_cases hsilent : h.timeout < m.ticks - c.heard.ticks
    · simp [isSilent, hsilent, Option.filter]
    · cases hsession : c.session.isSome <;>
        simp [isSilent, hsilent, hsession, Option.filter, Connection.hand]
  | closeAll reason => exact ⟨rfl, by rw [perform, to_closeAll hd, hc]; rfl⟩
  | adopt a => exact ⟨hc, hnothing⟩

/-- A connection that is not there is handed nothing and does not come by itself. -/
theorem perform_of_none (hd : h.Distinct) (hc : h.connection? id = none) {op : Operation}
    (hop : ∀ m, op ≠ .attach m id) :
    (h.perform op).1.connection? id = none ∧ Posted.to (h.perform op).2 id = [] := by
  cases op with
  | attach m id' =>
    have hne : id' ≠ id := fun hid => hop m (hid ▸ rfl)
    exact ⟨by rw [perform, connection?_attach, hc, if_neg hne]; rfl, rfl⟩
  | detach id' =>
    refine ⟨?_, rfl⟩
    rw [perform, connection?_detach, hc, ite_self]
  | hangUp id' =>
    refine ⟨?_, rfl⟩
    rw [perform, connection?_hangUp, hc]
    rfl
  | frame m id' text =>
    rw [perform]
    by_cases hid : id = id'
    · rw [← hid, receive_of_none hc]
      exact ⟨hc, rfl⟩
    · obtain ⟨hconnection, hposted⟩ := receive_of_ne (h := h) hid m text
      exact ⟨hconnection.trans hc, hposted⟩
  | broadcast message =>
    refine ⟨?_, by rw [perform, to_broadcast hd, hc]; rfl⟩
    rw [perform, connection?, connections_broadcast]
    exact hc
  | tick m =>
    refine ⟨?_, by rw [perform, to_tick hd, hc]; rfl⟩
    rw [perform, connection?_tick hd, hc]
    rfl
  | closeAll reason => exact ⟨rfl, by rw [perform, to_closeAll hd, hc]; rfl⟩
  | adopt a => exact ⟨hc, rfl⟩

/-- The id that an operation gives to a connection, if any. -/
def Operation.attached : Operation → List String
  | .attach _ id => [id]
  | _ => []

/-- Ids come by being given to connections, and in no other way. -/
theorem ids_perform (h : Hub) (op : Operation) : ((h.perform op).1.ids).Sublist (h.ids ++ op.attached) := by
  have hkept : ∀ ids : List String, ids.Sublist h.ids → ids.Sublist (h.ids ++ []) :=
    fun ids hids => hids.trans (List.sublist_append_left _ _)
  cases op with
  | attach m id => simp [perform, attach, count, ids, Operation.attached]
  | detach id =>
    refine hkept _ ?_
    rw [perform, ids, connections_detach]
    exact List.filter_sublist.map _
  | hangUp id => exact hkept _ (ids_hangUp h id ▸ .refl _)
  | frame m id text =>
    refine hkept _ ?_
    rw [perform]
    cases hc : h.connection? id with
    | none =>
      rw [receive_of_none hc]
    | some c =>
      have hid := id_of_connection? hc
      exact hid ▸ (answers_receive (hid ▸ hc) m text).ids
  | broadcast message =>
    refine hkept _ ?_
    rw [perform, ids, connections_broadcast]
    exact .refl _
  | tick m =>
    refine hkept _ ?_
    show ((((h.connections.filter (h.isSilent m)).foldl evict h).connections).map (·.id)).Sublist _
    rw [connections_foldl_evict]
    exact List.filter_sublist.map _
  | closeAll reason => exact hkept _ (List.nil_sublist _)
  | adopt a => exact hkept _ (.refl _)

/-! ### Runs -/

/-- **Operations one after another**: the hub afterwards, and all that was posted. -/
def run (h : Hub) : List Operation → Hub × Posted
  | [] => (h, [])
  | op :: ops =>
    let r := h.perform op
    let rest := r.1.run ops
    (rest.1, r.2 ++ rest.2)

/-- The ids that were given to connections. -/
def attached (ops : List Operation) : List String := ops.flatMap (·.attached)

theorem run_append : ∀ (ops ops' : List Operation) (h : Hub),
    h.run (ops ++ ops') = (((h.run ops).1.run ops').1, (h.run ops).2 ++ ((h.run ops).1.run ops').2)
  | [], ops', h => by simp [run]
  | op :: ops, ops', h => by simp [run, run_append ops ops']

theorem run_concat (ops : List Operation) (h : Hub) (op : Operation) :
    h.run (ops ++ [op]) =
      (((h.run ops).1.perform op).1, (h.run ops).2 ++ ((h.run ops).1.perform op).2) := by
  rw [run_append, run, run, List.append_nil]

theorem attached_concat (ops : List Operation) (op : Operation) :
    attached (ops ++ [op]) = attached ops ++ op.attached := by
  simp [attached]

theorem ids_run (hstart : h.connections = []) (ops : List Operation) :
    (h.run ops).1.ids.Sublist (attached ops) := by
  induction ops using List.reverseRecOn with
  | nil => simp [run, ids, hstart]
  | append_singleton ops op ih =>
    rw [run_concat, attached_concat]
    exact (ids_perform _ op).trans (ih.append_right _)

theorem distinct_run (hstart : h.connections = []) {ops : List Operation} (hops : (attached ops).Nodup) :
    (h.run ops).1.Distinct := hops.sublist (ids_run hstart ops)

/-- Before an id is given to a connection there is none and nothing is posted to it. -/
theorem run_of_not_attached (hstart : h.connections = []) {ops : List Operation}
    (hops : (attached ops).Nodup) (hid : id ∉ attached ops) :
    (h.run ops).1.connection? id = none ∧ Posted.to (h.run ops).2 id = [] := by
  induction ops using List.reverseRecOn with
  | nil => exact ⟨by rw [run, connection?, hstart]; rfl, rfl⟩
  | append_singleton ops op ih =>
    rw [attached_concat] at hops hid
    have hprev := (List.nodup_append.mp hops).1
    obtain ⟨hnone, hnothing⟩ := ih hprev fun hmem => hid (List.mem_append_left _ hmem)
    have hother : ∀ m, op ≠ .attach m id := by
      rintro m rfl
      exact hid (List.mem_append_right _ (List.mem_singleton_self id))
    obtain ⟨hconnection, hposted⟩ := perform_of_none (distinct_run hstart hprev) hnone hother
    rw [run_concat, Posted.to_append, hnothing, hposted]
    exact ⟨hconnection, rfl⟩

/-- **What one connection goes through in a run**: it comes with nothing on its channel, takes its turns one
by one, and once it has gone nothing happens to it any more. -/
theorem run_induction (hstart : h.connections = []) (id : String)
    {motive : List Operation → Option Connection → List Outbound → Prop}
    (start : motive [] none [])
    (away : ∀ ops op w, (∀ m, op ≠ .attach m id) → motive ops none w → motive (ops ++ [op]) none w)
    (come : ∀ ops m, id ∉ attached ops → motive ops none [] →
      motive (ops ++ [.attach m id]) (some ⟨id, true, none, m⟩) [])
    (turn : ∀ ops op c w, (h.run ops).1.connection? id = some c → motive ops (some c) w →
      motive (ops ++ [op])
        (c.turn (h.run ops).1.authenticator (h.run ops).1.timeout op).1
        (w ++ c.hand (c.turn (h.run ops).1.authenticator (h.run ops).1.timeout op).2)) :
    ∀ ops, (attached ops).Nodup →
      motive ops ((h.run ops).1.connection? id) (Posted.to (h.run ops).2 id) := by
  intro ops hops
  induction ops using List.reverseRecOn with
  | nil =>
    have hnone : (h.run []).1.connection? id = none := by rw [run, connection?, hstart]; rfl
    rw [hnone]
    exact start
  | append_singleton ops op ih =>
    rw [attached_concat] at hops
    have hprev : (attached ops).Nodup := (List.nodup_append.mp hops).1
    have hd := distinct_run hstart hprev
    have ih := ih hprev
    rw [run_concat, Posted.to_append]
    cases hc : (h.run ops).1.connection? id with
    | some c =>
      obtain ⟨hconnection, hposted⟩ := perform_eq_turn hd hc op
      rw [hc] at ih
      rw [hconnection, hposted]
      exact turn ops op c _ hc ih
    | none =>
      rw [hc] at ih
      by_cases hop : ∃ m, op = .attach m id
      · obtain ⟨m, rfl⟩ := hop
        -- an id is given once, so this connection has never been there before
        have hid : id ∉ attached ops := fun hmem =>
          (List.nodup_append.mp hops).2.2 id hmem id (List.mem_singleton_self id) rfl
        have hcome : ((h.run ops).1.perform (.attach m id)).1.connection? id =
            some ⟨id, true, none, m⟩ := by
          rw [perform, connection?_attach, hc, if_pos rfl]
          rfl
        rw [(run_of_not_attached hstart hprev hid).2] at ih ⊢
        rw [hcome]
        exact come ops m hid ih
      · have hother : ∀ m, op ≠ .attach m id := fun m hm => hop ⟨m, hm⟩
        obtain ⟨hconnection, hposted⟩ := perform_of_none hd hc hother
        rw [hconnection, hposted, List.append_nil]
        exact away ops op _ hother ih

/-- A hub that lets everybody in and gives nobody up soon. -/
def welcoming : Hub := { authenticator := .trusting, timeout := 1000 }

end Hub

end Backlog
