import Backlog.Proofs.Sync.Run
import Mathlib.Data.List.Pairwise

/-! # What a client is sent from first to last

A client may first get things wrong; then it is welcomed, or refused, or the connection ends. One that was
welcomed is sent events and heartbeats until its connection ends. Such sequences are the conversations
(`Conversation`).

* `Stage.turn`: each turn of a connection goes on with its conversation.
* `conversation_of_run`: **what is put on the channel of a connection is a conversation**, in every run; and
  a connection is registered from when it comes until it departs. -/

namespace Backlog

variable {h : Hub} {a : Authenticator} {timeout : ℕ} {c d : Connection} {id : String}
  {op : Hub.Operation}

/-! ### Conversations -/

/-- What an item means for a client: an error that can be made good, one that cannot, the answer to its
introduction, an event or heartbeat, or the end. -/
inductive Outbound.Kind where
  | complaint
  | refusal
  | welcome
  | news
  | close
  deriving DecidableEq

/-- The kind of an item. -/
def Outbound.kind : Outbound → Kind
  | .message (.error _ _ true) => .complaint
  | .message (.error _ _ false) => .refusal
  | .message (.authSuccess ..) => .welcome
  | .message (.event _) | .message (.heartbeat _) => .news
  | .close _ => .close

open Outbound (Kind)

/-- What is sent before a client is welcomed. -/
def Greeting (ks : List Kind) : Prop := ∀ k ∈ ks, k = .complaint

/-- What is sent after it was. -/
def Talk (ks : List Kind) : Prop := ∀ k ∈ ks, k = .complaint ∨ k = .news

/-- **The conversations with a client.** -/
inductive Conversation : List Kind → Prop where
  | greeting {ks : List Kind} : Greeting ks → Conversation ks
  | dropped {ks : List Kind} : Greeting ks → Conversation (ks ++ [.close])
  | refused {ks : List Kind} : Greeting ks → Conversation (ks ++ [.refusal, .close])
  | served {ks ls : List Kind} : Greeting ks → Talk ls → Conversation (ks ++ .welcome :: ls)
  | ended {ks ls : List Kind} : Greeting ks → Talk ls →
    Conversation (ks ++ .welcome :: (ls ++ [.close]))

variable {ks ls : List Kind}

/-- One kind of item may come before another. -/
structure Outbound.Kind.MayPrecede (k l : Kind) : Prop where
  once : k = .welcome → l ≠ .welcome
  first : k = .news → l ≠ .welcome
  settled : k = .welcome → l ≠ .refusal
  last : k ≠ .close

theorem Outbound.Kind.mayPrecede_of_complaint (l : Kind) : MayPrecede .complaint l := by
  constructor <;> simp

theorem Greeting.pairwise_append (hks : Greeting ks) (hls : ls.Pairwise Kind.MayPrecede) :
    (ks ++ ls).Pairwise Kind.MayPrecede := by
  refine List.pairwise_append.mpr ⟨List.pairwise_of_forall_mem_list fun k hk l _ => ?_, hls,
    fun k hk l _ => ?_⟩
  · exact hks k hk ▸ Kind.mayPrecede_of_complaint l
  · exact hks k hk ▸ Kind.mayPrecede_of_complaint l

theorem Talk.pairwise_cons (hls : Talk ls) : (Kind.welcome :: ls).Pairwise Kind.MayPrecede := by
  refine List.pairwise_cons.mpr ⟨fun l hl => ?_, List.pairwise_of_forall_mem_list fun k hk l hl => ?_⟩
  · rcases hls l hl with rfl | rfl <;> constructor <;> simp
  · rcases hls k hk with rfl | rfl <;> rcases hls l hl with rfl | rfl <;> constructor <;> simp

theorem Talk.pairwise_ended (hls : Talk ls) :
    (Kind.welcome :: (ls ++ [.close])).Pairwise Kind.MayPrecede := by
  rw [← List.cons_append]
  refine List.pairwise_append.mpr ⟨hls.pairwise_cons, List.pairwise_singleton _ _, fun k hk l hl => ?_⟩
  rw [List.mem_singleton.mp hl]
  rcases List.mem_cons.mp hk with rfl | hk
  · constructor <;> simp
  · rcases hls k hk with rfl | rfl <;> constructor <;> simp

/-- **In a conversation** a client is welcomed once at most, before that it is sent no news, after that it is
not refused, and the end comes last. -/
theorem Conversation.pairwise (h : Conversation ks) : ks.Pairwise Kind.MayPrecede := by
  cases h with
  | greeting hks => exact List.append_nil ks ▸ hks.pairwise_append .nil
  | dropped hks => exact hks.pairwise_append (List.pairwise_singleton _ _)
  | refused hks =>
    refine hks.pairwise_append (List.pairwise_pair.mpr ?_)
    constructor <;> simp
  | served hks hls => exact hks.pairwise_append hls.pairwise_cons
  | ended hks hls => exact hks.pairwise_append hls.pairwise_ended

/-! ### Stages -/

/-- What was sent after a client was welcomed, and before. -/
def Welcomed (ks : List Kind) : Prop := ∃ gs ls, ks = gs ++ .welcome :: ls ∧ Greeting gs ∧ Talk ls

/-- **How far the conversation is**, as seen from the connection. -/
inductive Stage : Option Connection → List Kind → Prop where
  | gone {ks : List Kind} : Conversation ks → Stage none ks
  | greeting {c : Connection} {ks : List Kind} : c.session = none → Greeting ks → Stage (some c) ks
  | served {c : Connection} {ks : List Kind} : c.session ≠ none → Welcomed ks → Stage (some c) ks
  /-- The writer has gone, so there will be no more. -/
  | cut {c : Connection} {ks : List Kind} : c.writable = false → Conversation ks → Stage (some c) ks

theorem Welcomed.conversation (h : Welcomed ks) : Conversation ks := by
  obtain ⟨gs, ls, rfl, hgs, hls⟩ := h
  exact .served hgs hls

theorem Stage.conversation {o : Option Connection} (h : Stage o ks) : Conversation ks := by
  cases h with
  | gone h => exact h
  | greeting _ h => exact .greeting h
  | served _ h => exact h.conversation
  | cut _ h => exact h

theorem Greeting.append (hks : Greeting ks) (hls : Greeting ls) : Greeting (ks ++ ls) :=
  fun k hk => (List.mem_append.mp hk).elim (hks k) (hls k)

theorem Welcomed.append (hks : Welcomed ks) (hls : Talk ls) : Welcomed (ks ++ ls) := by
  obtain ⟨gs, ms, rfl, hgs, hms⟩ := hks
  exact ⟨gs, ms ++ ls, by simp, hgs, fun k hk => (List.mem_append.mp hk).elim (hms k) (hls k)⟩

theorem Welcomed.close (hks : Welcomed ks) : Conversation (ks ++ [.close]) := by
  obtain ⟨gs, ls, rfl, hgs, hls⟩ := hks
  rw [List.append_assoc, List.cons_append]
  exact .ended hgs hls

/-- **A turn before the client is welcomed.** -/
inductive Opening : Option Connection × List Outbound → Prop where
  | stay {c : Connection} {items : List Outbound} : c.session = none → Greeting (items.map Outbound.kind) →
    Opening (some c, items)
  | welcome {c : Connection} {items : List Outbound} : c.session ≠ none →
    items.map Outbound.kind = [.welcome] → Opening (some c, items)
  | leave : Opening (none, [])
  | drop {reason : String} : Opening (none, [.close reason])
  | refuse {code message reason : String} :
    Opening (none, [.message (.error code message false), .close reason])

/-- **A turn after it was.** -/
inductive Serving : Option Connection × List Outbound → Prop where
  | stay {c : Connection} {items : List Outbound} : c.session ≠ none → Talk (items.map Outbound.kind) →
    Serving (some c, items)
  | leave : Serving (none, [])
  | drop {reason : String} : Serving (none, [.close reason])

theorem greeting_nil : Greeting [] := by simp [Greeting]

theorem talk_nil : Talk [] := by simp [Talk]

theorem greeting_complaint (code message : String) :
    Greeting ([Connection.complaint code message].map Outbound.kind) := by
  simp [Greeting, Connection.complaint, Outbound.kind]

theorem talk_complaint (code message : String) :
    Talk ([Connection.complaint code message].map Outbound.kind) :=
  fun k hk => Or.inl (greeting_complaint code message k hk)

theorem opening_answer (hc : c.session = none) (a : Authenticator) (m : Moment) (text : String) :
    Opening (c.answer a m text) := by
  unfold Connection.answer
  rw [hc]
  cases ClientMessage.ofText text with
  | error f => exact .stay hc (greeting_complaint _ _)
  | ok message =>
    cases message with
    | authenticate token client project =>
      dsimp only
      unfold Connection.introduced
      cases a.authenticate m.time.seconds (some (bearerHeader token)) with
      | ok identity => exact .welcome (by simp) rfl
      | error e => exact .refuse
    | subscribe project => exact .stay hc (greeting_complaint _ _)
    | unsubscribe project => exact .stay hc (greeting_complaint _ _)
    | pong t => exact .stay hc (greeting_complaint _ _)

theorem serving_answer (hc : c.session ≠ none) (a : Authenticator) (m : Moment) (text : String) :
    Serving (c.answer a m text) := by
  unfold Connection.answer
  cases hs : c.session with
  | none => exact absurd hs hc
  | some s =>
    cases ClientMessage.ofText text with
    | error f => exact .stay hc (talk_complaint _ _)
    | ok message =>
      cases message with
      | authenticate token client project => exact .stay hc (talk_complaint _ _)
      | subscribe project =>
        simp only [Connection.handled]
        split_ifs
        · exact .stay hc (talk_complaint _ _)
        · exact .stay (by simp) talk_nil
      | unsubscribe project =>
        simp only [Connection.handled]
        split_ifs
        · exact .stay (by simp) talk_nil
        · exact .stay hc (talk_complaint _ _)
      | pong t => exact .stay (by simpa using hc) talk_nil

theorem opening_turn (hc : c.session = none) (a : Authenticator) (timeout : ℕ) (op : Hub.Operation) :
    Opening (c.turn a timeout op) := by
  cases op with
  | attach m id => exact .stay hc greeting_nil
  | detach id =>
    simp only [Connection.turn]
    split_ifs
    · exact .leave
    · exact .stay hc greeting_nil
  | hangUp id => exact .stay (by split_ifs <;> exact hc) greeting_nil
  | frame m id text =>
    simp only [Connection.turn]
    split_ifs
    · exact opening_answer hc a m text
    · exact .stay hc greeting_nil
  | broadcast message =>
    have hfollows : ∀ project, c.follows project = false := by simp [Connection.follows, hc]
    have hnobody : message.project?.any c.follows = false := by
      cases message.project? <;> simp [hfollows]
    simp only [Connection.turn, hnobody]
    exact .stay hc greeting_nil
  | tick m =>
    simp only [Connection.turn, hc, Option.isSome_none, Bool.false_eq_true, if_false]
    split_ifs
    · exact .drop
    · exact .stay hc greeting_nil
  | closeAll reason => exact .drop
  | adopt a => exact .stay hc greeting_nil

theorem serving_turn (hc : c.session ≠ none) (a : Authenticator) (timeout : ℕ) (op : Hub.Operation) :
    Serving (c.turn a timeout op) := by
  cases op with
  | attach m id => exact .stay hc talk_nil
  | detach id =>
    simp only [Connection.turn]
    split_ifs
    · exact .leave
    · exact .stay hc talk_nil
  | hangUp id => exact .stay (by split_ifs <;> exact hc) talk_nil
  | frame m id text =>
    simp only [Connection.turn]
    split_ifs
    · exact serving_answer hc a m text
    · exact .stay hc talk_nil
  | broadcast message =>
    simp only [Connection.turn]
    split_ifs with hany
    · refine .stay hc ?_
      cases message with
      | event e => simp [Talk, Outbound.kind]
      | authSuccess _ _ _ | heartbeat _ | error _ _ _ => cases hany
    · exact .stay hc talk_nil
  | tick m =>
    simp only [Connection.turn]
    split_ifs
    · exact .drop
    · exact .stay hc (by simp [Talk, Outbound.kind])
    · exact .stay hc talk_nil
  | closeAll reason => exact .drop
  | adopt a => exact .stay hc talk_nil

/-- **Each turn goes on with the conversation.** -/
theorem Stage.turn (h : Stage (some c) ks) (a : Authenticator) (timeout : ℕ) (op : Hub.Operation) :
    Stage (c.turn a timeout op).1 (ks ++ (c.hand (c.turn a timeout op).2).map Outbound.kind) := by
  by_cases hw : c.writable = true
  · have hhand : c.hand (c.turn a timeout op).2 = (c.turn a timeout op).2 := if_pos hw
    rw [hhand]
    generalize hr : c.turn a timeout op = r
    cases h with
    | greeting hs hks =>
      have hopening := opening_turn hs a timeout op
      rw [hr] at hopening
      cases hopening with
      | stay hd hitems => exact .greeting hd (hks.append hitems)
      | welcome hd hitems => exact .served hd ⟨ks, [], by rw [hitems], hks, talk_nil⟩
      | leave => exact .gone (.greeting (hks.append greeting_nil))
      | drop => exact .gone (.dropped hks)
      | refuse => exact .gone (.refused hks)
    | served hs hks =>
      have hserving := serving_turn hs a timeout op
      rw [hr] at hserving
      cases hserving with
      | stay hd hitems => exact .served hd (hks.append hitems)
      | leave => exact .gone (hks.append talk_nil).conversation
      | drop => exact .gone hks.close
    | cut hcut _ => rw [hw] at hcut; cases hcut
  · have hcut : c.writable = false := by simpa using hw
    have hhand : c.hand (c.turn a timeout op).2 = [] := if_neg hw
    rw [hhand, List.map_nil, List.append_nil]
    cases hturn : (c.turn a timeout op).1 with
    | none => exact .gone h.conversation
    | some d => exact .cut (Connection.not_writable_of_turn hcut hturn) h.conversation

/-! ### Departures -/

/-- A text that is refused: a client without a session introduces itself and is not let in. -/
def Hub.Refuses (h : Hub) (m : Moment) (id text : String) : Prop :=
  ∃ c token client project e, h.connection? id = some c ∧ c.session = none ∧
    ClientMessage.ofText text = .ok (.authenticate token client project) ∧
    h.authenticator.authenticate m.time.seconds (some (bearerHeader token)) = .error e

/-- **How connections depart**: they are detached, refused, given up at a tick or closed with all others. -/
def Hub.Departs (h : Hub) (id : String) : Hub.Operation → Prop
  | .detach id' => id' = id
  | .frame m id' text => id' = id ∧ h.Refuses m id text
  | .tick m => id ∈ (h.tick m).2.2
  | .closeAll _ => True
  | .attach .. | .hangUp _ | .broadcast _ | .adopt _ => False

theorem Connection.answer_eq_none {m : Moment} {text : String} :
    (c.answer a m text).1 = none ↔ c.session = none ∧ ∃ token client project e,
      ClientMessage.ofText text = .ok (.authenticate token client project) ∧
      a.authenticate m.time.seconds (some (bearerHeader token)) = .error e := by
  unfold Connection.answer
  cases ClientMessage.ofText text with
  | error f => simp
  | ok message =>
    cases c.session with
    | some s =>
      refine iff_of_false ?_ (by simp)
      cases message with
      | authenticate token client project => simp [Connection.handled]
      | subscribe project => simp only [Connection.handled]; split_ifs <;> simp
      | unsubscribe project => simp only [Connection.handled]; split_ifs <;> simp
      | pong t => simp [Connection.handled]
    | none =>
      cases message with
      | authenticate token client project =>
        dsimp only
        unfold Connection.introduced
        cases hauth : a.authenticate m.time.seconds (some (bearerHeader token)) <;> simp [hauth]
      | subscribe project => simp
      | unsubscribe project => simp
      | pong t => simp

namespace Hub

theorem turn_eq_none (hd : h.Distinct) (hc : h.connection? id = some c) (op : Operation) :
    (c.turn h.authenticator h.timeout op).1 = none ↔ h.Departs id op := by
  have hid := id_of_connection? hc
  cases op with
  | attach m id' => simp [Connection.turn, Departs]
  | detach id' => simp [Connection.turn, Departs, hid, eq_comm]
  | hangUp id' => simp [Connection.turn, Departs]
  | frame m id' text =>
    simp only [Connection.turn, Departs]
    split_ifs with hc'
    · have hsame : id' = id := hc'.symm.trans hid
      rw [Connection.answer_eq_none]
      constructor
      · rintro ⟨hs, token, client, project, e, htext, hauth⟩
        exact ⟨hsame, c, token, client, project, e, hc, hs, htext, hauth⟩
      · rintro ⟨-, c', token, client, project, e, hfound, hs, htext, hauth⟩
        rw [hc] at hfound
        cases hfound
        exact ⟨hs, token, client, project, e, htext, hauth⟩
    · have hother : id' ≠ id := fun h => hc' (hid.trans h.symm)
      simp [hother]
  | broadcast message => simp [Connection.turn, Departs]
  | tick m =>
    have hmem : c ∈ h.connections := List.mem_of_find?_eq_some hc
    simp only [Connection.turn, Departs, ← hid, mem_evicted_iff hd hmem, isSilent, decide_eq_true_eq]
    split_ifs with hsilent <;> simp [hsilent]
  | closeAll reason => simp [Connection.turn, Departs]
  | adopt a => simp [Connection.turn, Departs]

/-- **A connection is registered** after an operation if it came by it, or was there and did not depart. -/
theorem mem_ids_perform (hd : h.Distinct) (op : Operation) (id : String) :
    id ∈ (h.perform op).1.ids ↔ (∃ m, op = .attach m id) ∨ id ∈ h.ids ∧ ¬ h.Departs id op := by
  cases hc : h.connection? id with
  | some c =>
    have hmem : id ∈ h.ids := by
      by_contra hnot
      rw [connection?_eq_none.mpr hnot] at hc
      cases hc
    have hstays : id ∈ (h.perform op).1.ids ↔ ¬ h.Departs id op := by
      rw [← not_iff_not, ← connection?_eq_none, (perform_eq_turn hd hc op).1, turn_eq_none hd hc,
        not_not]
    rw [hstays]
    constructor
    · exact fun hnot => Or.inr ⟨hmem, hnot⟩
    · rintro (⟨m, rfl⟩ | ⟨-, hnot⟩)
      · exact fun hgone => hgone
      · exact hnot
  | none =>
    have hnot : id ∉ h.ids := connection?_eq_none.mp hc
    by_cases hop : ∃ m, op = .attach m id
    · obtain ⟨m, rfl⟩ := hop
      refine iff_of_true ?_ (Or.inl ⟨m, rfl⟩)
      by_contra hgone
      have hnone := connection?_eq_none.mpr hgone
      rw [perform, connection?_attach, hc, if_pos rfl] at hnone
      cases hnone
    · have hother : ∀ m, op ≠ .attach m id := fun m hm => hop ⟨m, hm⟩
      have hnone := connection?_eq_none.mp (perform_of_none hd hc hother).1
      exact iff_of_false hnone (by simp [hop, hnot])

/-- **In a run** a connection is registered from when it comes until it departs. -/
theorem mem_ids_run (hstart : h.connections = []) {ops : List Operation} (hops : (attached ops).Nodup) :
    id ∈ (h.run ops).1.ids ↔ ∃ pre m post, ops = pre ++ .attach m id :: post ∧
      ∀ mid op rest, post = mid ++ op :: rest → ¬ (h.run (pre ++ .attach m id :: mid)).1.Departs id op := by
  induction ops using List.reverseRecOn with
  | nil => simp [run, ids, hstart]
  | append_singleton ops op ih =>
    rw [attached_concat] at hops
    have hprev : (attached ops).Nodup := (List.nodup_append.mp hops).1
    have hd := distinct_run hstart hprev
    rw [run_concat, mem_ids_perform hd, ih hprev]
    constructor
    · rintro (⟨m, rfl⟩ | ⟨⟨pre, m, post, rfl, hstays⟩, hnot⟩)
      · exact ⟨ops, m, [], rfl, by simp⟩
      -- an operation after the connection came is the last one, or one of those before it
      · refine ⟨pre, m, post ++ [op], by simp, fun mid op' rest hsplit => ?_⟩
        rcases List.eq_nil_or_concat rest with rfl | ⟨rest, last, rfl⟩
        · obtain ⟨rfl, hlast⟩ := List.append_inj' hsplit rfl
          cases hlast
          exact hnot
        · rw [List.concat_eq_append, ← List.cons_append, ← List.append_assoc] at hsplit
          exact hstays mid op' rest (List.append_inj' hsplit rfl).1
    · rintro ⟨pre, m, post, heq, hstays⟩
      rcases List.eq_nil_or_concat post with rfl | ⟨post, last, rfl⟩
      · obtain ⟨-, hlast⟩ := List.append_inj' heq rfl
        cases hlast
        exact Or.inl ⟨m, rfl⟩
      · rw [List.concat_eq_append, ← List.cons_append, ← List.append_assoc] at heq
        obtain ⟨rfl, hlast⟩ := List.append_inj' heq rfl
        cases hlast
        refine Or.inr ⟨⟨pre, m, post, rfl, fun mid op' rest hsplit => ?_⟩, hstays post op [] (by simp)⟩
        exact hstays mid op' (rest ++ [op]) (by rw [hsplit]; simp)

/-- **What is put on the channel of a connection is a conversation**: errors that can be made good, then nothing
or the end, or a refusal and the end, or a welcome, further errors of that kind, events and heartbeats and
at most the end. So a client is welcomed once at most, before that it is sent no news, after that it is not
refused, and the end comes last. The connection is registered from when it comes until it departs. -/
theorem conversation_of_run (hstart : h.connections = []) {ops : List Operation}
    (hops : (attached ops).Nodup) (id : String) :
    Conversation ((Posted.to (h.run ops).2 id).map Outbound.kind) ∧
    ((Posted.to (h.run ops).2 id).map Outbound.kind).Pairwise Kind.MayPrecede ∧
    (id ∈ (h.run ops).1.ids ↔ ∃ pre m post, ops = pre ++ .attach m id :: post ∧
      ∀ mid op rest, post = mid ++ op :: rest →
        ¬ (h.run (pre ++ .attach m id :: mid)).1.Departs id op) := by
  have hstage : Stage ((h.run ops).1.connection? id) ((Posted.to (h.run ops).2 id).map Outbound.kind) := by
    refine run_induction (motive := fun _ o w => Stage o (w.map Outbound.kind)) hstart id
      (.gone (.greeting greeting_nil)) (fun _ _ _ _ h => h) (fun _ _ _ _ => .greeting rfl greeting_nil)
      (fun ops op c w _ h => ?_) ops hops
    rw [List.map_append]
    exact h.turn _ _ op
  exact ⟨hstage.conversation, hstage.conversation.pairwise, mem_ids_run hstart hops⟩

/-- A client gets something wrong, introduces itself and stays until the end. -/
def longVisit : List Operation := [
  .attach default "ann",
  .frame default "ann" "hello",
  .frame default "ann" (ClientMessage.authenticate "a" .web (some "p")).write.render,
  .broadcast (.event (.projectMoved "p" .analyzing .review)),
  .tick default,
  .closeAll "bye"]

theorem conversation_of_run_visit :
    (Posted.to (welcoming.run longVisit).2 "ann").map Outbound.kind =
      [.complaint, .welcome, .news, .news, .close] ∧
    Conversation [.complaint, .welcome, .news, .news, .close] ∧ "ann" ∉ (welcoming.run longVisit).1.ids := by
  have hnodup : (attached longVisit).Nodup := by decide
  obtain ⟨hconversation, -, -⟩ := conversation_of_run (h := welcoming) rfl hnodup "ann"
  have hkinds : (Posted.to (welcoming.run longVisit).2 "ann").map Outbound.kind =
      [.complaint, .welcome, .news, .news, .close] := by decide +kernel
  rw [hkinds] at hconversation
  exact ⟨hkinds, hconversation, by decide +kernel⟩

end Hub

end Backlog
