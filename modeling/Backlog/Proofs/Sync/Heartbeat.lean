import Backlog.Proofs.Sync.Alone
import Backlog.Proofs.Sync.Counts

/-! # Who is given up at a tick

A connection gives a sign of life when it comes, when its client is let in, and with a pong once it has a
session (`Hub.sign?`). The hub keeps one moment for each connection, and this is the moment of the last sign of
life in the run (`heard_of_run`): each turn of a connection either gives a sign, whose moment is kept, or leaves
the moment alone (`heard_turn`).

So the connections that a tick gives up are told by the run alone (`mem_evicted_of_run`). What is no sign of
life makes no difference to that (`mem_evicted_of_no_sign`), nothing but a tick gives up a connection
(`evictions_perform`), and what was given up does not come back (`run_of_gone`). -/

namespace Backlog

variable {h : Hub} {m : Moment} {c d : Connection} {id text : String} {op : Hub.Operation}
  {ops ops' : List Hub.Operation}

/-! ### Signs of life -/

/-- The moment of a text that is a sign of life: its client introduces itself and is let in, or answers a
heartbeat and has a session. -/
def Connection.sign? (a : Authenticator) (m : Moment) (c : Connection) (text : String) : Option Moment :=
  match ClientMessage.ofText text, c.session with
  | .ok (.authenticate token _ _), none =>
    match a.authenticate m.time.seconds (some (bearerHeader token)) with
    | .ok _ => some m
    | .error _ => none
  | .ok (.pong _), some _ => some m
  | _, _ => none

namespace Hub

/-- The moment of an operation that is a sign of life of a connection. -/
def sign? (h : Hub) (id : String) : Operation → Option Moment
  | .attach m id' => if id' = id then some m else none
  | .frame m id' text =>
    if id' = id then (h.connection? id).bind fun c => c.sign? h.authenticator m text else none
  | _ => none

/-- **The last sign of life of a connection in a run.** -/
def lastSign? (h : Hub) (id : String) : List Operation → Option Moment
  | [] => none
  | op :: ops => ((h.perform op).1.lastSign? id ops).or (h.sign? id op)

theorem lastSign?_concat : ∀ (ops : List Operation) (h : Hub) (id : String) (op : Operation),
    h.lastSign? id (ops ++ [op]) = ((h.run ops).1.sign? id op).or (h.lastSign? id ops)
  | [], h, id, op => by simp [lastSign?, run]
  | o :: ops, h, id, op => by
    rw [List.cons_append, lastSign?, lastSign?, lastSign?_concat ops, Option.or_assoc]
    rfl

end Hub

theorem Connection.heard_handled {s : Session} {message : ClientMessage}
    (hd : (c.handled m s message).1 = some d) :
    d.heard = (match message with | .pong _ => m | _ => c.heard) := by
  cases message with
  | authenticate token client project => cases hd; rfl
  | subscribe project | unsubscribe project =>
    simp only [handled] at hd
    split_ifs at hd <;> cases hd <;> rfl
  | pong t => cases hd; rfl

/-- **A text is a sign of life**, and its moment is kept, or it leaves the moment alone. -/
theorem Connection.heard_answer {a : Authenticator} (hd : (c.answer a m text).1 = some d) :
    d.heard = (c.sign? a m text).getD c.heard := by
  unfold answer at hd
  unfold sign?
  cases htext : ClientMessage.ofText text with
  | error f =>
    rw [htext] at hd
    cases hd
    rfl
  | ok message =>
    rw [htext] at hd
    cases hs : c.session with
    | some s =>
      rw [hs] at hd
      have hheard := heard_handled hd
      cases message <;> exact hheard
    | none =>
      rw [hs] at hd
      cases message with
      | authenticate token client project =>
        simp only [introduced] at hd ⊢
        cases hauth : a.authenticate m.time.seconds (some (bearerHeader token)) with
        | ok identity => rw [hauth] at hd; cases hd; rfl
        | error e => rw [hauth] at hd; cases hd
      | subscribe project => cases hd; rfl
      | unsubscribe project => cases hd; rfl
      | pong t => cases hd; rfl

theorem heard_turn (hc : h.connection? id = some c) (hop : ∀ m, op ≠ .attach m id)
    (hd : (c.turn h.authenticator h.timeout op).1 = some d) :
    d.heard = (h.sign? id op).getD c.heard := by
  have hid := Hub.id_of_connection? hc
  cases op with
  | attach m id' =>
    have hne : id' ≠ id := fun heq => hop m (heq ▸ rfl)
    cases hd
    simp [Hub.sign?, hne]
  | detach id' =>
    simp only [Connection.turn] at hd
    split_ifs at hd
    cases hd
    rfl
  | hangUp id' =>
    cases hd
    split_ifs <;> rfl
  | frame m id' text =>
    simp only [Connection.turn, Hub.sign?, hid, eq_comm (a := id')] at hd ⊢
    split_ifs at hd ⊢
    · rw [hc]
      exact Connection.heard_answer hd
    · cases hd
      rfl
  | broadcast message => cases hd; rfl
  | tick m =>
    simp only [Connection.turn] at hd
    split_ifs at hd
    all_goals
      cases hd
      rfl
  | closeAll reason => cases hd
  | adopt a => cases hd; rfl

namespace Hub

/-- An id is given once, so it is not given to a connection that is there. -/
theorem ne_attach_of_registered (hstart : h.connections = []) (hops : (attached (ops ++ [op])).Nodup)
    (hid : id ∈ (h.run ops).1.ids) (m : Moment) : op ≠ .attach m id := by
  rintro rfl
  rw [attached_concat] at hops
  have hgiven : id ∈ attached ops := (ids_run hstart ops).subset hid
  exact (List.nodup_append.mp hops).2.2 id hgiven id (List.mem_singleton_self id) rfl

/-- **What is kept of a connection is its last sign of life.** -/
theorem heard_of_run (hstart : h.connections = []) (hops : (attached ops).Nodup)
    (hc : (h.run ops).1.connection? id = some c) : h.lastSign? id ops = some c.heard := by
  refine run_induction (motive := fun ops o _ => (attached ops).Nodup → ∀ c, o = some c →
    h.lastSign? id ops = some c.heard) hstart id ?_ ?_ ?_ ?_ ops hops hops c hc
  · intro _ c hc
    cases hc
  · intro ops op w _ _ _ c hc
    cases hc
  · intro ops m _ _ _ c hc
    cases hc
    simp [lastSign?_concat, sign?]
  · intro ops op c w hc ih hops d hd
    have hop := ne_attach_of_registered hstart hops (mem_ids_of_connection? hc)
    rw [attached_concat] at hops
    rw [lastSign?_concat, ih (List.nodup_append.mp hops).1 c rfl, heard_turn hc hop hd]
    cases (h.run ops).1.sign? id op <;> rfl

/-! ### Who is given up -/

theorem timeout_run : ∀ (ops : List Operation) (h : Hub), (h.run ops).1.timeout = h.timeout
  | [], _ => rfl
  | op :: ops, h => by
    have hperform : (h.perform op).1.timeout = h.timeout := by
      have hterms := congrArg Prod.snd (terms_perform h op)
      cases op <;> exact hterms
    exact (timeout_run ops _).trans hperform

theorem nodup_evicted (hd : h.Distinct) (m : Moment) : (h.tick m).2.2.Nodup :=
  hd.sublist (List.filter_sublist.map _)

theorem mem_evicted (hd : h.Distinct) :
    id ∈ (h.tick m).2.2 ↔ ∃ c, h.connection? id = some c ∧ h.timeout < m.ticks - c.heard.ticks := by
  constructor
  · intro hid
    obtain ⟨c, hc, rfl⟩ := List.mem_map.mp hid
    obtain ⟨hc, hsilent⟩ := List.mem_filter.mp hc
    exact ⟨c, (connection?_eq_some hd).mpr ⟨hc, rfl⟩, by simpa [isSilent] using hsilent⟩
  · rintro ⟨c, hc, hsilent⟩
    obtain ⟨hmem, rfl⟩ := (connection?_eq_some hd).mp hc
    exact (mem_evicted_iff hd hmem m).mpr (by simpa [isSilent] using hsilent)

theorem mem_evicted_of_run (hstart : h.connections = []) (hops : (attached ops).Nodup) :
    id ∈ ((h.run ops).1.tick m).2.2 ↔ id ∈ (h.run ops).1.ids ∧
      ∃ last, h.lastSign? id ops = some last ∧ h.timeout < m.ticks - last.ticks := by
  rw [mem_evicted (distinct_run hstart hops), timeout_run, mem_ids_iff]
  constructor
  · rintro ⟨c, hc, hsilent⟩
    exact ⟨⟨c, hc⟩, c.heard, heard_of_run hstart hops hc, hsilent⟩
  · rintro ⟨⟨c, hc⟩, last, hlast, hsilent⟩
    rw [heard_of_run hstart hops hc] at hlast
    cases hlast
    exact ⟨c, hc, hsilent⟩

/-- **What is no sign of life** of a connection that stays does not put off that it is given up. -/
theorem mem_evicted_of_no_sign (hstart : h.connections = []) (hops : (attached (ops ++ [op])).Nodup)
    (hsign : (h.run ops).1.sign? id op = none) (hid : id ∈ (h.run (ops ++ [op])).1.ids) :
    id ∈ ((h.run (ops ++ [op])).1.tick m).2.2 ↔ id ∈ ((h.run ops).1.tick m).2.2 := by
  have hprev : (attached ops).Nodup := by
    rw [attached_concat] at hops
    exact (List.nodup_append.mp hops).1
  have hbefore : id ∈ (h.run ops).1.ids := by
    have hafter := hid
    rw [run_concat, mem_ids_perform (distinct_run hstart hprev)] at hafter
    rcases hafter with ⟨m', rfl⟩ | ⟨hmem, -⟩
    · simp [sign?] at hsign
    · exact hmem
  rw [mem_evicted_of_run hstart hops, mem_evicted_of_run hstart hprev, lastSign?_concat, hsign,
    Option.none_or]
  exact and_congr_left' (iff_of_true hid hbefore)

/-- **A pong before its client is let in** is no sign of life, and the connection stays. -/
theorem pong_before_session (hd : h.Distinct) (hc : h.connection? id = some c) (hs : c.session = none)
    {t : Int} (htext : ClientMessage.ofText text = .ok (.pong t)) (m : Moment) :
    h.sign? id (.frame m id text) = none ∧ (h.perform (.frame m id text)).1.connection? id = some c := by
  have hid := id_of_connection? hc
  constructor
  · simp [sign?, hc, Connection.sign?, htext, hs]
  · rw [(perform_eq_turn hd hc _).1]
    simp [Connection.turn, hid, Connection.answer, htext, hs]

/-! ### What is counted -/

/-- How many connections were given up for their silence. -/
def evictions (h : Hub) : Int := h.counts.value .evicted

theorem evictions_perform_eq (hd : h.Distinct) (op : Operation) :
    (h.perform op).1.evictions = h.evictions + (h.counted op).sumOf (· == .evicted) := by
  rw [evictions, counts_perform hd, Counts.value_eq_sumOf, Counts.sumOf_append]
  rfl

theorem evictions_tick (hd : h.Distinct) (m : Moment) :
    (h.tick m).1.evictions = h.evictions + (h.tick m).2.2.length := by
  have hperform := evictions_perform_eq hd (.tick m)
  rw [sumOf_counted] at hperform
  simpa [weigh, perform] using hperform

/-- **Nothing but a tick gives up a connection.** -/
theorem evictions_perform (hd : h.Distinct) (hop : ∀ m, op ≠ .tick m) :
    (h.perform op).1.evictions = h.evictions := by
  rw [evictions_perform_eq hd, sumOf_counted]
  cases op with
  | tick m => exact absurd rfl (hop m)
  | detach id | frame m id text => dsimp only; split <;> simp [weigh]
  | _ => simp [weigh]

/-- **How connections leave without a tick**: they are detached, refused, or closed with all others. -/
theorem leaves_without_tick (hd : h.Distinct) (hop : ∀ m, op ≠ .tick m) (hid : id ∈ h.ids)
    (hgone : id ∉ (h.perform op).1.ids) :
    op = .detach id ∨ (∃ m text, op = .frame m id text ∧ h.Refuses m id text) ∨
      ∃ reason, op = .closeAll reason := by
  have hdeparts : h.Departs id op := by
    by_contra hstays
    exact hgone ((mem_ids_perform hd op id).mpr (Or.inr ⟨hid, hstays⟩))
  cases op with
  | detach id' => exact Or.inl (by rw [show id' = id from hdeparts])
  | frame m id' text =>
    obtain ⟨rfl, hrefuses⟩ := hdeparts
    exact Or.inr (Or.inl ⟨m, text, rfl, hrefuses⟩)
  | tick m => exact absurd rfl (hop m)
  | closeAll reason => exact Or.inr (Or.inr ⟨reason, rfl⟩)
  | attach m id' | hangUp id' | broadcast message | adopt a => exact hdeparts.elim

/-! ### What is posted -/

theorem tick_of_connection (hd : h.Distinct) (hc : h.connection? id = some c) (m : Moment) :
    (h.tick m).1.connection? id = (if id ∈ (h.tick m).2.2 then none else some c) ∧
      Posted.to (h.tick m).2.1 id = c.hand (if id ∈ (h.tick m).2.2 then [.close "heartbeat timeout"]
        else if c.session.isSome then [.message (.heartbeat m.time.millis)] else []) := by
  have hevicted : id ∈ (h.tick m).2.2 ↔ h.timeout < m.ticks - c.heard.ticks := by
    rw [mem_evicted hd, hc]
    simp
  obtain ⟨hconnection, hposted⟩ := perform_eq_turn hd hc (.tick m)
  simp only [perform, Connection.turn] at hconnection hposted
  rw [hconnection, hposted]
  by_cases hsilent : h.timeout < m.ticks - c.heard.ticks
  · simp [hevicted, hsilent]
  · simp [hevicted, hsilent]

/-- **What is gone does not come back**: it is posted nothing any more. -/
theorem run_of_gone (hstart : h.connections = []) (hgiven : id ∈ attached ops)
    (hgone : (h.run ops).1.connection? id = none) (hops : (attached (ops ++ ops')).Nodup) :
    (h.run (ops ++ ops')).1.connection? id = none ∧ Posted.to ((h.run ops).1.run ops').2 id = [] := by
  induction ops' using List.reverseRecOn with
  | nil => exact ⟨by rwa [List.append_nil], rfl⟩
  | append_singleton ops' op ih =>
    rw [← List.append_assoc, attached_concat] at hops
    obtain ⟨hprev, -, hapart⟩ := List.nodup_append.mp hops
    obtain ⟨hnone, hnothing⟩ := ih hprev
    have hother : ∀ m, op ≠ .attach m id := by
      rintro m rfl
      have hmem : id ∈ attached (ops ++ ops') := by
        rw [attached, List.flatMap_append]
        exact List.mem_append_left _ hgiven
      exact hapart id hmem id (List.mem_singleton_self id) rfl
    obtain ⟨hconnection, hposted⟩ := perform_of_none (distinct_run hstart hprev) hnone hother
    rw [run_append] at hposted
    refine ⟨by rw [← List.append_assoc, run_concat]; exact hconnection, ?_⟩
    rw [run_concat, Posted.to_append, hnothing, hposted]
    rfl

/-- **A tick after a run**: which connections it gives up, what it makes of each and posts to it, and that those
it gives up are gone. -/
structure Ticks (h : Hub) (ops : List Operation) (m : Moment) : Prop where
  nodup : ((h.run ops).1.tick m).2.2.Nodup
  evicted : ∀ id, id ∈ ((h.run ops).1.tick m).2.2 ↔ id ∈ (h.run ops).1.ids ∧
    ∃ last, h.lastSign? id ops = some last ∧ h.timeout < m.ticks - last.ticks
  counted : ((h.run ops).1.tick m).1.evictions =
    (h.run ops).1.evictions + ((h.run ops).1.tick m).2.2.length
  served : ∀ id c, (h.run ops).1.connection? id = some c →
    ((h.run ops).1.tick m).1.connection? id =
        (if id ∈ ((h.run ops).1.tick m).2.2 then none else some c) ∧
      Posted.to ((h.run ops).1.tick m).2.1 id =
        c.hand (if id ∈ ((h.run ops).1.tick m).2.2 then [.close "heartbeat timeout"]
          else if c.session.isSome then [.message (.heartbeat m.time.millis)] else [])
  nobody : ∀ id, id ∉ (h.run ops).1.ids → Posted.to ((h.run ops).1.tick m).2.1 id = []
  gone : ∀ id ∈ ((h.run ops).1.tick m).2.2, ∀ later, (attached (ops ++ .tick m :: later)).Nodup →
    id ∉ (h.run (ops ++ .tick m :: later)).1.ids ∧
      Posted.to (((h.run ops).1.tick m).1.run later).2 id = [] ∧
      ∀ m', id ∉ ((h.run (ops ++ .tick m :: later)).1.tick m').2.2

theorem ticks_of_run (hstart : h.connections = []) (hops : (attached ops).Nodup) (m : Moment) :
    h.Ticks ops m := by
  have hd := distinct_run hstart hops
  refine ⟨nodup_evicted hd m, fun id => mem_evicted_of_run hstart hops, evictions_tick hd m,
    fun id c hc => tick_of_connection hd hc m, fun id hid => ?_, fun id hid later hlater => ?_⟩
  · have hother : ∀ m', Operation.tick m ≠ .attach m' id := fun _ => Operation.noConfusion
    exact (perform_of_none hd (connection?_eq_none.mpr hid) hother).2
  · obtain ⟨c, hc, -⟩ := (mem_evicted hd).mp hid
    have hgiven : id ∈ attached (ops ++ [.tick m]) := by
      rw [attached_concat]
      exact List.mem_append_left _ ((ids_run hstart ops).subset (mem_ids_of_connection? hc))
    have hgone : (h.run (ops ++ [.tick m])).1.connection? id = none := by
      rw [run_concat]
      exact (tick_of_connection hd hc m).1.trans (if_pos hid)
    have hsplit : ops ++ .tick m :: later = (ops ++ [.tick m]) ++ later := by simp
    rw [hsplit] at hlater ⊢
    obtain ⟨hnone, hnothing⟩ := run_of_gone hstart hgiven hgone hlater
    have hnot := connection?_eq_none.mp hnone
    rw [run_concat] at hnothing
    exact ⟨hnot, hnothing, fun m' hmem => hnot ((mem_evicted_of_run hstart hlater).mp hmem).1⟩

/-- **Who is given up at a tick**: after any run the connections whose last sign of life (that they came, that
their client was let in, that it answered a heartbeat and had a session) is longer ago than the hub waits. They
are posted the end and are gone; each other one that has a session is posted one heartbeat. No other operation
puts off that a connection is given up, a pong before its client was let in does not either, and no operation
but a tick gives up any. -/
theorem evicted_by_silence (hstart : h.connections = []) (hops : (attached ops).Nodup) (m : Moment) :
    h.Ticks ops m ∧
    (∀ op id, (attached (ops ++ [op])).Nodup → (h.run ops).1.sign? id op = none →
      id ∈ (h.run (ops ++ [op])).1.ids →
        (id ∈ ((h.run (ops ++ [op])).1.tick m).2.2 ↔ id ∈ ((h.run ops).1.tick m).2.2)) ∧
    (∀ id c text t m', (h.run ops).1.connection? id = some c → c.session = none →
      ClientMessage.ofText text = .ok (.pong t) →
        (id ∈ ((h.run (ops ++ [.frame m' id text])).1.tick m).2.2 ↔ id ∈ ((h.run ops).1.tick m).2.2)) ∧
    ∀ op, (∀ m', op ≠ .tick m') → ((h.run ops).1.perform op).1.evictions = (h.run ops).1.evictions ∧
      ∀ id ∈ (h.run ops).1.ids, id ∉ ((h.run ops).1.perform op).1.ids →
        op = .detach id ∨ (∃ m' text, op = .frame m' id text ∧ (h.run ops).1.Refuses m' id text) ∨
          ∃ reason, op = .closeAll reason := by
  have hd := distinct_run hstart hops
  refine ⟨ticks_of_run hstart hops m, fun op id hnext hsign hid => ?_, fun id c text t m' hc hs htext => ?_,
    fun op hop => ⟨evictions_perform hd hop, fun id hid hgone => leaves_without_tick hd hop hid hgone⟩⟩
  · exact mem_evicted_of_no_sign hstart hnext hsign hid
  · obtain ⟨hsign, hstays⟩ := pong_before_session hd hc hs htext m'
    have hnext : (attached (ops ++ [.frame m' id text])).Nodup := by
      rw [attached_concat]
      exact (List.append_nil (attached ops)).symm ▸ hops
    refine mem_evicted_of_no_sign hstart hnext hsign ?_
    rw [run_concat]
    exact mem_ids_of_connection? hstays

/-- Ann answers a heartbeat, Bob does not, and Dot sends a pong without a session. -/
def quietHour : List Operation := [
  .attach ⟨0, default⟩ "ann", .attach ⟨0, default⟩ "bob", .attach ⟨0, default⟩ "dot",
  .frame ⟨10, default⟩ "ann" (ClientMessage.authenticate "a" .web (some "p")).write.render,
  .frame ⟨20, default⟩ "bob" (ClientMessage.authenticate "b" .ide (some "p")).write.render,
  .frame ⟨700, default⟩ "ann" (ClientMessage.pong 0).write.render,
  .frame ⟨700, default⟩ "dot" (ClientMessage.pong 0).write.render,
  .broadcast (.event (.projectMoved "p" .analyzing .review))]

theorem evicted_by_silence_quiet :
    ((welcoming.run quietHour).1.tick ⟨1500, default⟩).2.2 = ["bob", "dot"] ∧
    welcoming.lastSign? "ann" quietHour = some ⟨700, default⟩ ∧
    welcoming.lastSign? "dot" quietHour = some ⟨0, default⟩ ∧
    "bob" ∉ ((welcoming.run (quietHour ++ [.tick ⟨1500, default⟩])).1.tick ⟨9000, default⟩).2.2 := by
  have hnodup : (attached quietHour).Nodup := by decide
  have hevicted : ((welcoming.run quietHour).1.tick ⟨1500, default⟩).2.2 = ["bob", "dot"] := by
    decide +kernel
  obtain ⟨hticks, -⟩ := evicted_by_silence (h := welcoming) rfl hnodup ⟨1500, default⟩
  have hgone := hticks.gone "bob" (by rw [hevicted]; simp) [] (by decide)
  exact ⟨hevicted, by decide +kernel, by decide +kernel, hgone.2.2 _⟩

end Hub

end Backlog
