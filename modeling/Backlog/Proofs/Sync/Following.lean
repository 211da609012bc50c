import Backlog.Proofs.Sync.Run

/-! # Who is told of an event

What a client has done about projects can be read off the texts that were accepted from it, which is to say
not answered with an error (`Hub.history`): it has followed a project when it introduced itself or later,
and has left it again. The hub does not keep that history, but a list of projects for each session.

* `inStep_of_run`: the two are in step, so that a connection follows a project if and only if the last thing
  its client did about it was to follow it.
* `broadcast_reaches_entitled`: **an event is posted once to each connection that is entitled to it**, and to
  nobody else. -/

namespace Backlog

variable {h : Hub} {a : Authenticator} {m : Moment} {b c d : Connection} {id text : String}
  {ops : List Hub.Operation}

/-! ### Deeds -/

/-- What a client does about a project. -/
inductive Deed where
  | follow (project : String)
  | leave (project : String)
  deriving DecidableEq

namespace Deed

/-- The project that a deed is about. -/
def project : Deed → String
  | follow p | leave p => p

/-- What a client does by a message that is accepted. -/
def ofMessage : ClientMessage → List Deed
  | .authenticate _ _ first => (Hub.firstProjects first).map .follow
  | .subscribe p => [.follow p]
  | .unsubscribe p => [.leave p]
  | .pong _ => []

/-- What a client does by a text that is accepted. -/
def ofText (text : String) : List Deed :=
  match ClientMessage.ofText text with
  | .ok message => ofMessage message
  | .error _ => []

/-- **The last deed about a project.** -/
def last (project : String) (ds : List Deed) : Option Deed :=
  (ds.filter (·.project == project)).getLast?

theorem last_append (project : String) (ds es : List Deed) :
    last project (ds ++ es) = (last project es).or (last project ds) := by
  rw [last, List.filter_append, List.getLast?_append]
  rfl

theorem last_singleton (project : String) (d : Deed) :
    last project [d] = if d.project = project then some d else none := by
  by_cases hd : d.project = project <;> simp [last, hd]

end Deed

/-- An item that is an error. -/
def Outbound.isError : Outbound → Bool
  | .message (.error ..) => true
  | _ => false

/-- **Deeds that are accepted**: those that are not answered with an error, or would not be if the writer of
the connection were still there. -/
def Deed.accepted (answer : List Outbound) (ds : List Deed) : List Deed :=
  if answer.any (·.isError) then [] else ds

namespace Hub

/-- What the client of a connection does by an operation. -/
def deeds (h : Hub) (id : String) : Operation → List Deed
  | .frame m id' text =>
    if id' = id then
      match h.connection? id with
      | some c => Deed.accepted (c.answer h.authenticator m text).2 (Deed.ofText text)
      | none => []
    else []
  | _ => []

/-- **All that the client of a connection does in a run.** -/
def history (h : Hub) (id : String) : List Operation → List Deed
  | [] => []
  | op :: ops => h.deeds id op ++ (h.perform op).1.history id ops

theorem history_concat : ∀ (ops : List Operation) (h : Hub) (id : String) (op : Operation),
    h.history id (ops ++ [op]) = h.history id ops ++ (h.run ops).1.deeds id op
  | [], h, id, op => by simp [history, run]
  | o :: ops, h, id, op => by
    rw [List.cons_append, history, history, history_concat ops, List.append_assoc]
    rfl

theorem deeds_of_none (hc : h.connection? id = none) (op : Operation) : h.deeds id op = [] := by
  cases op <;> simp [deeds, hc]

/-- Nobody does anything before he comes. -/
theorem history_eq_nil (hstart : h.connections = []) (hid : id ∉ attached ops) : h.history id ops = [] := by
  induction ops using List.reverseRecOn with
  | nil => rfl
  | append_singleton ops op ih =>
    rw [attached_concat] at hid
    have hprev : id ∉ attached ops := fun hmem => hid (List.mem_append_left _ hmem)
    have hnone : (h.run ops).1.connection? id = none :=
      connection?_eq_none.mpr fun hmem => hprev ((ids_run hstart ops).subset hmem)
    rw [history_concat, ih hprev, deeds_of_none hnone, List.append_nil]

end Hub

/-! ### Deeds and the projects of a session -/

theorem mem_addProject {p q : String} {ps : List String} : p ∈ Hub.addProject q ps ↔ p = q ∨ p ∈ ps := by
  unfold Hub.addProject
  split_ifs with hq
  · constructor
    · exact Or.inr
    · rintro (rfl | hp)
      · simpa using hq
      · exact hp
  · rw [List.mem_mergeSort, List.mem_cons]

/-- **A connection in step with some deeds** of its client: it follows a project afterwards if the last of them
was to follow it, or if there was none about it and it followed it before; and as long as it has no session
there are none. -/
structure InStep (ds : List Deed) (c d : Connection) : Prop where
  follows : ∀ p, d.follows p = true ↔ Deed.last p ds = some (.follow p) ∨
    Deed.last p ds = none ∧ c.follows p = true
  start : d.session = none → c.session = none ∧ ds = []

theorem InStep.same (hd : d.session = c.session) : InStep [] c d :=
  ⟨fun p => by simp [Deed.last, Connection.follows, hd], fun hnone => ⟨hd ▸ hnone, rfl⟩⟩

theorem InStep.follow {q : String} (hs : d.session ≠ none)
    (hd : ∀ p, d.follows p = true ↔ p = q ∨ c.follows p = true) : InStep [.follow q] c d := by
  refine ⟨fun p => ?_, fun hnone => absurd hnone hs⟩
  rw [hd, Deed.last_singleton]
  by_cases hp : p = q
  · simp [Deed.project, hp]
  · simp [Deed.project, hp, Ne.symm hp]

theorem InStep.leave {q : String} (hs : d.session ≠ none)
    (hd : ∀ p, d.follows p = true ↔ p ≠ q ∧ c.follows p = true) : InStep [.leave q] c d := by
  refine ⟨fun p => ?_, fun hnone => absurd hnone hs⟩
  rw [hd, Deed.last_singleton]
  by_cases hp : p = q
  · simp [Deed.project, hp]
  · simp [Deed.project, hp, Ne.symm hp]

theorem InStep.trans {ds es : List Deed} (hds : InStep ds b c) (hes : InStep es c d) :
    InStep (ds ++ es) b d := by
  refine ⟨fun p => ?_, fun hnone => ?_⟩
  · rw [Deed.last_append, hes.follows p, hds.follows p]
    cases Deed.last p es <;> simp
  · obtain ⟨hc, rfl⟩ := hes.start hnone
    obtain ⟨hb, rfl⟩ := hds.start hc
    exact ⟨hb, rfl⟩

/-- A connection that had no session follows what its client followed last. -/
theorem InStep.follows_iff {ds : List Deed} (h : InStep ds b c) (hb : b.session = none) (p : String) :
    c.follows p = true ↔ Deed.last p ds = some (.follow p) := by
  have hnone : b.follows p = false := by simp [Connection.follows, hb]
  rw [h.follows p, hnone]
  simp

theorem inStep_introduced {client : ClientType} {token : String} {first : Option String}
    (hc : c.session = none) (h : (c.introduced a m token client first).1 = some d) :
    InStep (Deed.accepted (c.introduced a m token client first).2
      (Deed.ofMessage (.authenticate token client first))) c d := by
  unfold Connection.introduced at h ⊢
  cases hauth : a.authenticate m.time.seconds (some (bearerHeader token)) with
  | error e =>
    rw [hauth] at h
    cases h
  | ok identity =>
    rw [hauth] at h
    cases h
    show InStep ((Hub.firstProjects first).map .follow) c _
    cases hfirst : Hub.firstProjects first with
    | nil => exact ⟨fun p => by simp [Deed.last, Connection.follows, hc], by simp⟩
    | cons q rest =>
      have hrest : rest = [] := by
        unfold Hub.firstProjects at hfirst
        cases hfilter : first.filter fun p => !p.isEmpty <;> simp_all
      subst hrest
      exact .follow (by simp) fun p => by simp [Connection.follows, hc]

theorem inStep_handled {s : Session} {message : ClientMessage} (hc : c.session = some s)
    (h : (c.handled m s message).1 = some d) :
    InStep (Deed.accepted (c.handled m s message).2 (Deed.ofMessage message)) c d := by
  cases message with
  | authenticate token client first =>
    cases h
    exact .same rfl
  | subscribe q =>
    simp only [Connection.handled] at h ⊢
    by_cases hq : q.isEmpty = true
    · rw [if_pos hq] at h ⊢
      cases h
      exact .same rfl
    · rw [if_neg hq] at h ⊢
      cases h
      refine .follow (by simp) fun p => ?_
      simp [Connection.follows, hc, mem_addProject]
  | unsubscribe q =>
    simp only [Connection.handled] at h ⊢
    by_cases hq : s.projects.contains q = true
    · rw [if_pos hq] at h ⊢
      cases h
      refine .leave (by simp) fun p => ?_
      simp [Connection.follows, hc, and_comm]
    · rw [if_neg hq] at h ⊢
      cases h
      exact .same rfl
  | pong t =>
    cases h
    exact .same rfl

theorem inStep_answer (h : (c.answer a m text).1 = some d) :
    InStep (Deed.accepted (c.answer a m text).2 (Deed.ofText text)) c d := by
  unfold Deed.ofText
  unfold Connection.answer at h ⊢
  cases htext : ClientMessage.ofText text with
  | error f =>
    rw [htext] at h
    cases h
    exact .same rfl
  | ok message =>
    rw [htext] at h
    cases hs : c.session with
    | some s =>
      rw [hs] at h
      exact inStep_handled hs h
    | none =>
      rw [hs] at h
      cases message with
      | authenticate token client first => exact inStep_introduced hs h
      | subscribe q => cases h; exact .same rfl
      | unsubscribe q => cases h; exact .same rfl
      | pong t => cases h; exact .same rfl

theorem inStep_turn (hc : h.connection? id = some c) {op : Hub.Operation}
    (hd : (c.turn h.authenticator h.timeout op).1 = some d) : InStep (h.deeds id op) c d := by
  have hid := Hub.id_of_connection? hc
  subst hid
  cases op with
  | attach m id' => cases hd; exact .same rfl
  | detach id' =>
    simp only [Connection.turn] at hd
    split_ifs at hd
    cases hd
    exact .same rfl
  | hangUp id' =>
    cases hd
    exact .same (by split_ifs <;> rfl)
  | frame m id' text =>
    simp only [Connection.turn, Hub.deeds, hc, eq_comm (a := id')] at hd ⊢
    split_ifs at hd ⊢
    · exact inStep_answer hd
    · cases hd
      exact .same rfl
  | broadcast message => cases hd; exact .same rfl
  | tick m =>
    simp only [Connection.turn] at hd
    split_ifs at hd
    all_goals
      cases hd
      exact .same rfl
  | closeAll reason => cases hd
  | adopt a => cases hd; exact .same rfl

namespace Hub

/-- **In a run** a connection is in step with all that its client has done since it came without a session. -/
theorem inStep_of_run (hstart : h.connections = []) (hops : (attached ops).Nodup)
    (hb : b.session = none) (hc : (h.run ops).1.connection? id = some c) :
    InStep (h.history id ops) b c := by
  refine run_induction (motive := fun ops o _ => ∀ c, o = some c → InStep (h.history id ops) b c)
    hstart id ?_ ?_ ?_ ?_ ops hops c hc
  · intro c hc
    cases hc
  · intro ops op w _ _ c hc
    cases hc
  · intro ops m hid _ c hc
    cases hc
    rw [history_concat, history_eq_nil hstart hid]
    exact .same hb.symm
  · intro ops op c w hc ih d hd
    rw [history_concat]
    exact (ih c rfl).trans (inStep_turn hc hd)

/-- **After a run** a connection follows what its client followed last. -/
theorem follows_iff_of_run (hstart : h.connections = []) (hops : (attached ops).Nodup)
    (hc : (h.run ops).1.connection? id = some c) (p : String) :
    c.follows p = true ↔ Deed.last p (h.history id ops) = some (.follow p) := by
  have hb : (⟨id, true, none, default⟩ : Connection).session = none := rfl
  exact (inStep_of_run hstart hops hb hc).follows_iff hb p

/-- **A connection that is entitled to the events of a project**: it is registered, has a session and a writer,
and the last thing its client did about the project was to follow it. -/
structure Entitled (h : Hub) (ops : List Operation) (project id : String) : Prop where
  connection : ∃ c, (h.run ops).1.connection? id = some c ∧ c.session ≠ none ∧ c.writable = true
  follows : Deed.last project (h.history id ops) = some (.follow project)

theorem flatMap_post (item : Outbound) (cs : List Connection) :
    cs.flatMap (·.post item) = ((cs.filter (·.writable)).map (·.id)).map fun id => (id, item) := by
  induction cs with
  | nil => rfl
  | cons c cs ih =>
    rw [List.flatMap_cons, ih, Connection.post]
    cases hc : c.writable <;> simp [hc]

/-- **Who is told of an event** after a run: each connection that is entitled to it is posted the event once, and
no other is posted anything; as many are counted, and all stay registered. What is posted to one connection
does not depend on the writers of others. Messages that are no events are for nobody. -/
theorem broadcast_reaches_entitled (hstart : h.connections = []) (hops : (attached ops).Nodup) :
    (∀ e : Event, ∃ ids : List String, ids.Nodup ∧
      (∀ id, id ∈ ids ↔ h.Entitled ops e.project id) ∧
      ((h.run ops).1.broadcast (.event e)).2.1 = ids.map (fun id => (id, .message (.event e))) ∧
      ((h.run ops).1.broadcast (.event e)).2.2 = ids.length) ∧
    (∀ message, ((h.run ops).1.broadcast message).1.connections = (h.run ops).1.connections) ∧
    (∀ message id id', id' ≠ id →
      Posted.to (((h.run ops).1.hangUp id').broadcast message).2.1 id =
        Posted.to ((h.run ops).1.broadcast message).2.1 id) ∧
    ∀ message, (∀ e, message ≠ .event e) →
      (h.run ops).1.broadcast message = ((h.run ops).1, [], 0) := by
  have hd := distinct_run hstart hops
  refine ⟨fun e => ?_, fun message => connections_broadcast _ message, fun message id id' hne => ?_,
    fun message hmessage => ?_⟩
  · refine ⟨(((h.run ops).1.connections.filter (·.follows e.project)).filter (·.writable)).map (·.id),
      ?_, fun id => ?_, ?_, ?_⟩
    · exact hd.sublist ((List.filter_sublist.trans List.filter_sublist).map _)
    · have hb : (⟨id, true, none, default⟩ : Connection).session = none := rfl
      simp only [List.mem_map, List.mem_filter]
      constructor
      · rintro ⟨c, ⟨⟨hc, hfollows⟩, hw⟩, hid⟩
        have hfound := (connection?_eq_some hd).mpr ⟨hc, hid⟩
        have hstep := inStep_of_run hstart hops hb hfound
        have hsession : c.session ≠ none := by
          intro hnone
          simp [Connection.follows, hnone] at hfollows
        exact ⟨⟨c, hfound, hsession, hw⟩, (hstep.follows_iff hb _).mp hfollows⟩
      · rintro ⟨⟨c, hfound, -, hw⟩, hlast⟩
        have hstep := inStep_of_run hstart hops hb hfound
        have hfollows := (hstep.follows_iff hb _).mpr hlast
        obtain ⟨hc, hid⟩ := (connection?_eq_some hd).mp hfound
        exact ⟨c, ⟨⟨hc, hfollows⟩, hw⟩, hid⟩
    · exact flatMap_post _ _
    · rw [List.length_map]
      rfl
  · have hd' : ((h.run ops).1.hangUp id').Distinct := by rwa [Distinct, ids_hangUp]
    rw [to_broadcast hd', to_broadcast hd, connection?_hangUp_of_ne hne.symm]
  · cases message with
    | event e => exact absurd rfl (hmessage e)
    | authSuccess _ _ _ | heartbeat _ | error _ _ _ => rfl

/-- Ann follows a project from the start, Bob leaves it again, and Cleo's writer goes. -/
def shopVisits : List Operation := [
  .attach default "ann", .attach default "bob", .attach default "cleo",
  .frame default "ann" (ClientMessage.authenticate "a" .web (some "p")).write.render,
  .frame default "bob" (ClientMessage.authenticate "b" .ide none).write.render,
  .frame default "bob" (ClientMessage.subscribe "p").write.render,
  .frame default "cleo" (ClientMessage.authenticate "c" .cli (some "p")).write.render,
  .frame default "bob" (ClientMessage.unsubscribe "p").write.render,
  .hangUp "cleo"]

theorem broadcast_reaches_entitled_shop :
    ((welcoming.run shopVisits).1.broadcast (.event (.projectMoved "p" .analyzing .review))).2.1 =
      [("ann", .message (.event (.projectMoved "p" .analyzing .review)))] ∧
    welcoming.Entitled shopVisits "p" "ann" ∧ ¬ welcoming.Entitled shopVisits "p" "bob" ∧
      ¬ welcoming.Entitled shopVisits "p" "cleo" := by
  have hnodup : (attached shopVisits).Nodup := by decide
  obtain ⟨hevent, -⟩ := broadcast_reaches_entitled (h := welcoming) rfl hnodup
  obtain ⟨ids, -, hids, hposted, -⟩ := hevent (.projectMoved "p" .analyzing .review)
  have hann : ((welcoming.run shopVisits).1.broadcast
      (.event (.projectMoved "p" .analyzing .review))).2.1 =
        [("ann", .message (.event (.projectMoved "p" .analyzing .review)))] := by decide +kernel
  have heq : ids = ["ann"] := by
    have hfst := congrArg (List.map Prod.fst) (hposted.symm.trans hann)
    simpa using hfst
  subst heq
  exact ⟨hann, (hids "ann").mp (by simp), fun h => absurd ((hids "bob").mpr h) (by decide),
    fun h => absurd ((hids "cleo").mpr h) (by decide)⟩

end Hub

end Backlog
