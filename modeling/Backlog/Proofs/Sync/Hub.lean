import Backlog.Sync.Hub
import Mathlib.Data.List.Induction
import Mathlib.Data.List.Nodup

/-! # What the operations of the hub do

Two questions are asked of each operation: which connection is found under an id afterwards
(`connection?_attach`, `connection?_put`, `connection?_detach`, `connection?_hangUp`, `connection?_tick`),
and what was put on the channel of that connection (`to_broadcast`, `to_tick`, `to_closeAll`). The answers
depend on the connection found there before, if no two have the same id (`Hub.Distinct`). -/

namespace Backlog

variable {h : Hub} {m : Moment} {c d : Connection} {id : String} {cs : List Connection}

/-! ### Channels -/

/-- **The channel of a connection**: what was posted to it, in order. -/
def Posted.to (p : Posted) (id : String) : List Outbound := (p.filter (·.1 == id)).map (·.2)

theorem Posted.to_append (p q : Posted) (id : String) : Posted.to (p ++ q) id = p.to id ++ q.to id := by
  simp only [Posted.to, List.filter_append, List.map_append]

/-- Items that are handed to a connection: all of them if its writer is there, else none. -/
def Connection.hand (c : Connection) (items : List Outbound) : List Outbound :=
  if c.writable then items else []

theorem to_flatMap_post (c : Connection) (items : List Outbound) (id : String) :
    Posted.to (items.flatMap c.post) id = if c.id = id then c.hand items else [] := by
  induction items with
  | nil => simp [Posted.to, Connection.hand]
  | cons item items ih =>
    rw [List.flatMap_cons, Posted.to_append, ih]
    unfold Connection.post Connection.hand Posted.to
    split_ifs <;> simp_all

/-! ### Looking up -/

namespace Hub

/-- The ids of the registered connections. -/
def ids (h : Hub) : List String := h.connections.map (·.id)

/-- **No two connections have the same id.** -/
def Distinct (h : Hub) : Prop := h.ids.Nodup

theorem id_of_connection? (hc : h.connection? id = some c) : c.id = id := by
  simpa using List.find?_some hc

theorem find?_id_eq_none : cs.find? (·.id == id) = none ↔ id ∉ cs.map (·.id) := by
  simp

theorem connection?_eq_none : h.connection? id = none ↔ id ∉ h.ids := find?_id_eq_none

theorem mem_ids_iff : id ∈ h.ids ↔ ∃ c, h.connection? id = some c := by
  rw [← Option.isSome_iff_exists, ← not_iff_not, ← connection?_eq_none, Option.not_isSome_iff_eq_none]

theorem mem_ids_of_connection? (hc : h.connection? id = some c) : id ∈ h.ids := mem_ids_iff.mpr ⟨c, hc⟩

theorem connection?_eq_some (hd : h.Distinct) : h.connection? id = some c ↔ c ∈ h.connections ∧ c.id = id := by
  constructor
  · intro hc
    exact ⟨List.mem_of_find?_eq_some hc, id_of_connection? hc⟩
  · rintro ⟨hc, rfl⟩
    cases he : h.connection? c.id with
    | none => exact absurd (List.mem_map_of_mem hc) (connection?_eq_none.mp he)
    | some e =>
      have hsame := List.inj_on_of_nodup_map hd (List.mem_of_find?_eq_some he) hc (id_of_connection? he)
      rw [hsame]

theorem find?_map_of_id {f : Connection → Connection} (hf : ∀ d, (f d).id = d.id) :
    (cs.map f).find? (·.id == id) = (cs.find? (·.id == id)).map f := by
  have hcomp : ((·.id == id) ∘ f) = fun d : Connection => d.id == id := by
    funext d
    simp only [Function.comp_apply, hf]
  rw [List.find?_map, hcomp]

theorem map_connection?_of_ne {f : Connection → Connection} {id' : String} (hne : id ≠ id') :
    ((h.connection? id).map fun d => if d.id == id' then f d else d) = h.connection? id := by
  cases hc : h.connection? id with
  | none => rfl
  | some c =>
    have hother : (c.id == id') = false := by
      rw [id_of_connection? hc]
      exact beq_eq_false_iff_ne.mpr hne
    rw [Option.map_some, hother]
    rfl

theorem map_id_of_id {f : Connection → Connection} (hf : ∀ d, (f d).id = d.id) :
    (cs.map f).map (·.id) = cs.map (·.id) := by
  rw [List.map_map]
  exact List.map_congr_left fun d _ => hf d

theorem connection?_attach (h : Hub) (m : Moment) (id id' : String) :
    (h.attach m id).connection? id' =
      (h.connection? id').or (if id = id' then some ⟨id, true, none, m⟩ else none) := by
  have hconnections : (h.attach m id).connections = h.connections ++ [⟨id, true, none, m⟩] := rfl
  rw [connection?, hconnections, List.find?_append]
  by_cases hid : id = id' <;> simp [connection?, hid]

theorem id_of_put (c d : Connection) : (if d.id == c.id then c else d).id = d.id := by
  split_ifs with hid
  · exact (beq_iff_eq.mp hid).symm
  · rfl

theorem connection?_put (h : Hub) (c : Connection) (id : String) :
    (h.put c).connection? id = (h.connection? id).map fun d => if d.id == c.id then c else d :=
  find?_map_of_id (id_of_put c)

theorem ids_put (h : Hub) (c : Connection) : (h.put c).ids = h.ids := map_id_of_id (id_of_put c)

theorem connections_detach (h : Hub) (id : String) :
    (h.detach id).1.connections = h.connections.filter (·.id != id) := by
  unfold detach
  cases hc : h.connection? id with
  | some c => rfl
  | none =>
    refine (List.filter_eq_self.mpr fun d hd => ?_).symm
    have hne := List.find?_eq_none.mp hc d hd
    simpa using hne

theorem find?_filter_ne (cs : List Connection) (id id' : String) :
    (cs.filter (·.id != id)).find? (·.id == id') =
      if id' = id then none else cs.find? (·.id == id') := by
  rw [List.find?_filter]
  split_ifs with hid
  · subst hid
    refine List.find?_eq_none.mpr fun d _ => by simp
  · congr 1
    funext d
    by_cases hd : d.id = id' <;> simp [hd, hid]

theorem connection?_detach (h : Hub) (id id' : String) :
    (h.detach id).1.connection? id' = if id' = id then none else h.connection? id' := by
  rw [connection?, connections_detach, find?_filter_ne]
  rfl

/-- Among connections with ids of their own, a condition decides whether the one looked for stays. -/
theorem find?_filter_of_nodup (p : Connection → Bool) (id : String) : ∀ {cs : List Connection},
    (cs.map (·.id)).Nodup → (cs.filter p).find? (·.id == id) = (cs.find? (·.id == id)).filter p
  | [], _ => rfl
  | c :: cs, hcs => by
    obtain ⟨hc, hcs⟩ := List.nodup_cons.mp hcs
    have ih := find?_filter_of_nodup p id hcs
    by_cases hid : c.id = id
    · have hnone : cs.find? (·.id == id) = none := find?_id_eq_none.mpr (hid ▸ hc)
      rw [hnone] at ih
      by_cases hp : p c = true <;> simp [Option.filter, hp, hid, ih]
    · by_cases hp : p c = true <;> simp [hp, hid, ih]

/-- One item for each of some connections with ids of their own. -/
theorem to_flatMap_post_all (item : Outbound) (id : String) : ∀ {cs : List Connection},
    (cs.map (·.id)).Nodup → Posted.to (cs.flatMap (·.post item)) id =
      ((cs.find? (·.id == id)).map (·.hand [item])).getD []
  | [], _ => rfl
  | c :: cs, hcs => by
    obtain ⟨hc, hcs⟩ := List.nodup_cons.mp hcs
    have hpost : Posted.to (c.post item) id = if c.id = id then c.hand [item] else [] := by
      rw [← to_flatMap_post, List.flatMap_cons, List.flatMap_nil, List.append_nil]
    rw [List.flatMap_cons, Posted.to_append, to_flatMap_post_all item id hcs, hpost]
    by_cases hid : c.id = id
    · have hnone : cs.find? (·.id == id) = none := find?_id_eq_none.mpr (hid ▸ hc)
      simp [hid, hnone]
    · simp [hid]

/-! ### Everybody at once -/

theorem connections_evict (h : Hub) (c : Connection) :
    (h.evict c).connections = h.connections.filter (·.id != c.id) := connections_detach h c.id

theorem connections_foldl_evict : ∀ (cs : List Connection) (h : Hub),
    (cs.foldl evict h).connections = h.connections.filter fun d => decide (d.id ∉ cs.map (·.id))
  | [], h => by simp
  | c :: cs, h => by
    rw [List.foldl_cons, connections_foldl_evict, connections_evict, List.filter_filter]
    congr 1
    funext d
    by_cases hd : d.id = c.id <;> simp [hd]

/-- The connections that are given up at a tick are those that were silent for too long. -/
theorem mem_evicted_iff (hd : h.Distinct) (hc : c ∈ h.connections) (m : Moment) :
    c.id ∈ (h.tick m).2.2 ↔ h.isSilent m c = true := by
  constructor
  · intro hmem
    obtain ⟨d, hdmem, hid⟩ := List.mem_map.mp hmem
    obtain ⟨hdmem, hsilent⟩ := List.mem_filter.mp hdmem
    rwa [← List.inj_on_of_nodup_map hd hdmem hc hid]
  · intro hsilent
    exact List.mem_map_of_mem (List.mem_filter.mpr ⟨hc, hsilent⟩)

theorem connections_tick (hd : h.Distinct) (m : Moment) :
    (h.tick m).1.connections = h.connections.filter fun c => !h.isSilent m c := by
  show ((h.connections.filter (h.isSilent m)).foldl evict h).connections = _
  rw [connections_foldl_evict]
  refine List.filter_congr fun c hc => ?_
  have hsilent : c.id ∈ (h.connections.filter (h.isSilent m)).map (·.id) ↔ h.isSilent m c = true :=
    mem_evicted_iff hd hc m
  by_cases hs : h.isSilent m c = true <;> simp [hsilent, hs]

theorem id_of_hangUp (id : String) (d : Connection) :
    (if d.id == id then { d with writable := false } else d).id = d.id := by
  split_ifs <;> rfl

theorem connection?_hangUp (h : Hub) (id id' : String) :
    (h.hangUp id).connection? id' =
      (h.connection? id').map fun c => if c.id == id then { c with writable := false } else c :=
  find?_map_of_id (id_of_hangUp id)

theorem connection?_hangUp_of_ne {id' : String} (hne : id ≠ id') :
    (h.hangUp id').connection? id = h.connection? id := by
  rw [connection?_hangUp, map_connection?_of_ne hne]

theorem ids_hangUp (h : Hub) (id : String) : (h.hangUp id).ids = h.ids := map_id_of_id (id_of_hangUp id)

theorem connections_broadcast (h : Hub) (message : ServerMessage) :
    (h.broadcast message).1.connections = h.connections := by
  unfold broadcast
  cases message.project? <;> rfl

theorem to_broadcast (hd : h.Distinct) (message : ServerMessage) (id : String) :
    Posted.to (h.broadcast message).2.1 id = (((h.connection? id).filter fun c =>
      message.project?.any c.follows).map (·.hand [.message message])).getD [] := by
  unfold broadcast
  cases message.project? with
  | none => cases h.connection? id <;> rfl
  | some project =>
    dsimp only
    rw [to_flatMap_post_all _ _ (hd.sublist (List.filter_sublist.map _)), find?_filter_of_nodup _ _ hd]
    rfl

theorem connection?_tick (hd : h.Distinct) (m : Moment) (id : String) :
    (h.tick m).1.connection? id = (h.connection? id).filter fun c => !h.isSilent m c := by
  rw [connection?, connections_tick hd, find?_filter_of_nodup _ _ hd]
  rfl

theorem to_tick (hd : h.Distinct) (m : Moment) (id : String) :
    Posted.to (h.tick m).2.1 id =
      (((h.connection? id).filter (h.isSilent m)).map (·.hand [.close "heartbeat timeout"])).getD [] ++
      ((((h.connection? id).filter fun c => !h.isSilent m c).filter (·.session.isSome)).map
        (·.hand [.message (.heartbeat m.time.millis)])).getD [] := by
  have hnodup : ∀ p : Connection → Bool, ((h.connections.filter p).map (·.id)).Nodup :=
    fun p => hd.sublist (List.filter_sublist.map _)
  have hposted : (h.tick m).2.1 =
      (h.connections.filter (h.isSilent m)).flatMap (·.post (.close "heartbeat timeout")) ++
        ((h.tick m).1.connections.filter (·.session.isSome)).flatMap
          (·.post (.message (.heartbeat m.time.millis))) := rfl
  rw [hposted, connections_tick hd, Posted.to_append, to_flatMap_post_all _ _ (hnodup _),
    to_flatMap_post_all _ _ ((hnodup _).sublist (List.filter_sublist.map _)),
    find?_filter_of_nodup _ _ hd, find?_filter_of_nodup _ _ (hnodup _), find?_filter_of_nodup _ _ hd]
  rfl

theorem to_closeAll (hd : h.Distinct) (reason id : String) :
    Posted.to (h.closeAll reason).2 id = ((h.connection? id).map (·.hand [.close reason])).getD [] :=
  to_flatMap_post_all _ _ hd

end Hub

end Backlog
