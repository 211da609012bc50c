import Backlog.Proofs.Sync.Following
import Mathlib.Data.List.Flatten

/-! # Connections do not notice each other

What others do (come, go, send texts) can be taken out of a run (`Hub.alone`). The connection that is left
finds no difference: the same is posted to it, and the same is known of it, after each of its operations and
after each operation that concerns everybody (`run_alone`).

Two hubs are alike for a connection if they know the same of it and serve it on the same terms
(`Hub.Alike`). An operation that both perform keeps them alike (`Alike.perform`); one that does not concern
the connection keeps a hub like itself (`alike_perform`). -/

namespace Backlog

variable {h h' : Hub} {id : String} {op : Hub.Operation} {ops : List Hub.Operation}

namespace Hub

/-! ### Terms of service -/

/-- Who tells callers apart, and how long they may be silent. -/
def terms (h : Hub) : Authenticator × ℕ := (h.authenticator, h.timeout)

/-- The terms after an operation. -/
def Operation.revise : Operation → Authenticator × ℕ → Authenticator × ℕ
  | .adopt a, terms => (a, terms.2)
  | _, terms => terms

theorem terms_detach (h : Hub) (id : String) : (h.detach id).1.terms = h.terms := by
  unfold detach
  cases h.connection? id <;> rfl

theorem terms_introduce (h : Hub) (m : Moment) (c : Connection) (token : String) (client : ClientType)
    (project : Option String) : (h.introduce m c token client project).1.terms = h.terms := by
  unfold introduce
  cases h.authenticator.authenticate m.time.seconds (some (bearerHeader token)) with
  | ok identity => rfl
  | error e => exact terms_detach _ _

theorem terms_handle (h : Hub) (m : Moment) (c : Connection) (s : Session) (message : ClientMessage) :
    (h.handle m c s message).1.terms = h.terms := by
  cases message with
  | authenticate token client project => rfl
  | subscribe project | unsubscribe project =>
    simp only [handle]
    split_ifs <;> rfl
  | pong t => rfl

theorem terms_receive (h : Hub) (m : Moment) (id text : String) :
    (h.receive m id text).1.terms = h.terms := by
  unfold receive
  split
  · rfl
  · split
    · rfl
    · exact terms_handle _ _ _ _ _
    · exact terms_introduce _ _ _ _ _ _
    · rfl

theorem terms_foldl_evict : ∀ (cs : List Connection) (h : Hub), (cs.foldl evict h).terms = h.terms
  | [], _ => rfl
  | c :: cs, h => by
    rw [List.foldl_cons, terms_foldl_evict cs]
    exact terms_detach h c.id

theorem terms_perform (h : Hub) (op : Operation) : (h.perform op).1.terms = op.revise h.terms := by
  cases op with
  | attach m id => rfl
  | detach id => exact terms_detach h id
  | hangUp id => rfl
  | frame m id text => exact terms_receive h m id text
  | broadcast message =>
    show (h.broadcast message).1.terms = h.terms
    unfold broadcast
    cases message.project? <;> rfl
  | tick m => exact terms_foldl_evict _ h
  | closeAll reason => rfl
  | adopt a => rfl

/-! ### Operations of others -/

/-- Whether an operation concerns a connection: it is about this connection, or about everybody. -/
def Operation.concerns (id : String) : Operation → Bool
  | .attach _ id' | .detach id' | .hangUp id' | .frame _ id' _ => id' == id
  | .broadcast _ | .tick _ | .closeAll _ | .adopt _ => true

/-- **A run without the operations of other connections.** -/
def alone (id : String) (ops : List Operation) : List Operation := ops.filter (·.concerns id)

theorem revise_of_not_concerns (hop : op.concerns id = false) (terms : Authenticator × ℕ) :
    op.revise terms = terms := by
  cases op with
  | adopt a => cases hop
  | _ => rfl

theorem turn_of_not_concerns {c : Connection} (hop : op.concerns c.id = false) (a : Authenticator)
    (timeout : ℕ) : c.turn a timeout op = (some c, []) := by
  cases op with
  | attach m id' => rfl
  | detach id' | hangUp id' | frame m id' text =>
    have hne : ¬ c.id = id' := fun heq => beq_eq_false_iff_ne.mp hop heq.symm
    rw [Connection.turn, if_neg hne]
  | broadcast message | tick m | closeAll reason | adopt a => cases hop

theorem attached_alone (id : String) (ops : List Operation) :
    (attached (alone id ops)).Sublist (attached ops) :=
  List.filter_sublist.flatMap _

/-! ### Hubs that are alike for a connection -/

/-- **No difference for a connection**: it is known alike, and served on the same terms. -/
structure Alike (id : String) (h h' : Hub) : Prop where
  connection : h.connection? id = h'.connection? id
  terms : h.terms = h'.terms

/-- What concerns others only is not noticed. -/
theorem alike_perform (hd : h.Distinct) (hop : op.concerns id = false) :
    Alike id (h.perform op).1 h ∧ Posted.to (h.perform op).2 id = [] := by
  have hterms : (h.perform op).1.terms = h.terms := by
    rw [terms_perform, revise_of_not_concerns hop]
  cases hc : h.connection? id with
  | some c =>
    obtain rfl := id_of_connection? hc
    obtain ⟨hconnection, hposted⟩ := perform_eq_turn hd hc op
    rw [turn_of_not_concerns hop] at hconnection hposted
    refine ⟨⟨hconnection.trans hc.symm, hterms⟩, hposted.trans ?_⟩
    simp [Connection.hand]
  | none =>
    have hother : ∀ m, op ≠ .attach m id := by
      rintro m rfl
      simp [Operation.concerns] at hop
    obtain ⟨hconnection, hposted⟩ := perform_of_none hd hc hother
    exact ⟨⟨hconnection.trans hc.symm, hterms⟩, hposted⟩

/-- **What both hubs perform** makes no difference. -/
theorem Alike.perform (ha : Alike id h h') (hd : h.Distinct) (hd' : h'.Distinct) (op : Operation) :
    Alike id (h.perform op).1 (h'.perform op).1 ∧
      Posted.to (h.perform op).2 id = Posted.to (h'.perform op).2 id := by
  have hterms : (h.perform op).1.terms = (h'.perform op).1.terms := by
    rw [terms_perform, terms_perform, ha.terms]
  have hauth : h.authenticator = h'.authenticator := congrArg Prod.fst ha.terms
  have htimeout : h.timeout = h'.timeout := congrArg Prod.snd ha.terms
  cases hc : h'.connection? id with
  | some c =>
    obtain ⟨hconnection, hposted⟩ := perform_eq_turn hd (ha.connection.trans hc) op
    obtain ⟨hconnection', hposted'⟩ := perform_eq_turn hd' hc op
    rw [hauth, htimeout] at hconnection hposted
    exact ⟨⟨hconnection.trans hconnection'.symm, hterms⟩, hposted.trans hposted'.symm⟩
  | none =>
    by_cases hop : ∃ m, op = .attach m id
    · obtain ⟨m, rfl⟩ := hop
      refine ⟨⟨?_, hterms⟩, rfl⟩
      simp only [Hub.perform, connection?_attach, ha.connection]
    · have hother : ∀ m, op ≠ .attach m id := fun m hm => hop ⟨m, hm⟩
      obtain ⟨hconnection, hposted⟩ := perform_of_none hd (ha.connection.trans hc) hother
      obtain ⟨hconnection', hposted'⟩ := perform_of_none hd' hc hother
      exact ⟨⟨hconnection.trans hconnection'.symm, hterms⟩, hposted.trans hposted'.symm⟩

/-! ### Runs -/

theorem alike_run_alone (hstart : h.connections = []) (hops : (attached ops).Nodup) (id : String) :
    Alike id (h.run (alone id ops)).1 (h.run ops).1 ∧
      Posted.to (h.run (alone id ops)).2 id = Posted.to (h.run ops).2 id := by
  induction ops using List.reverseRecOn with
  | nil => exact ⟨⟨rfl, rfl⟩, rfl⟩
  | append_singleton ops op ih =>
    have hprev : (attached ops).Nodup := by
      rw [attached_concat] at hops
      exact (List.nodup_append.mp hops).1
    obtain ⟨halike, hposted⟩ := ih hprev
    have hd := distinct_run hstart hprev
    rw [run_concat ops, Posted.to_append, ← hposted]
    cases hop : op.concerns id with
    | true =>
      have hsplit : alone id (ops ++ [op]) = alone id ops ++ [op] := by simp [alone, hop]
      have hd' := distinct_run hstart (hprev.sublist (attached_alone id ops))
      obtain ⟨hnext, hnew⟩ := halike.perform hd' hd op
      rw [hsplit, run_concat, Posted.to_append, hnew]
      exact ⟨hnext, rfl⟩
    | false =>
      have hsplit : alone id (ops ++ [op]) = alone id ops := by simp [alone, hop]
      obtain ⟨hsame, hnothing⟩ := alike_perform hd hop
      rw [hsplit, hnothing, List.append_nil]
      exact ⟨⟨halike.connection.trans hsame.connection.symm, halike.terms.trans hsame.terms.symm⟩, rfl⟩

/-- **Connections do not notice each other.** In a run that gives each connection an id of its own, take out
all that the other connections do: at each point of the run that is left, what has been posted to the
connection and what is known of it are the same as at that point of the whole run. -/
theorem run_alone (hstart : h.connections = []) (hops : (attached ops).Nodup) (id : String) :
    ∀ part, part <+: ops →
      alone id part <+: alone id ops ∧
      Posted.to (h.run (alone id part)).2 id = Posted.to (h.run part).2 id ∧
      (h.run (alone id part)).1.connection? id = (h.run part).1.connection? id := by
  intro part hpart
  have hnodup : (attached part).Nodup := hops.sublist (hpart.sublist.flatMap _)
  obtain ⟨halike, hposted⟩ := alike_run_alone hstart hnodup id
  exact ⟨hpart.filter _, hposted, halike.connection⟩

/-- A busy hour in the shop: after the visits somebody sends nonsense, one visitor leaves, an event is
broadcast, nothing is heard of most for too long, and the rest is sent home. -/
def shopHour : List Operation := shopVisits ++ [
  .attach default "eve", .frame default "eve" "?", .detach "cleo",
  .broadcast (.event (.projectMoved "p" .analyzing .review)),
  .frame ⟨900, default⟩ "ann" (ClientMessage.pong 0).write.render,
  .tick ⟨1500, default⟩, .closeAll "shop closes"]

theorem run_alone_shop :
    (attached shopHour).Nodup ∧
    (alone "ann" shopHour).length = 6 ∧
    Posted.to (welcoming.run (alone "ann" shopHour)).2 "ann" =
      [.message (.authSuccess "a" "ann" ["p"]),
        .message (.event (.projectMoved "p" .analyzing .review)),
        .message (.heartbeat 0), .close "shop closes"] := by
  have hnodup : (attached shopHour).Nodup := by decide
  obtain ⟨-, hposted, -⟩ := run_alone (h := welcoming) rfl hnodup "ann" shopHour List.prefix_rfl
  refine ⟨hnodup, by decide, hposted.trans ?_⟩
  decide +kernel

end Hub

end Backlog
