import Backlog.Digest.Sha256
import Backlog.Proofs.Sync.Counts
import Backlog.Proofs.Sync.Session
import Mathlib.Data.Set.Card

/-! # What the counters tell

Each counter of the hub has its meaning (`sumOf_attached`, `sumOf_evicted`, `sumOf_refused`, `sumOf_reached`): an
operation adds as many as it attaches, gives up, refuses or reaches. The gauge of connections is moved wherever
one comes or goes (`length_perform`), so that it is their number (`change_active`); a connection that has gone
does not go again (`along_departs`), however often it is detached.

* `tallies_of_run`: **the counters are right after any operations.** -/

namespace Backlog.Hub

variable {h : Hub} {c : Connection} {id : String} {m : Moment} {op : Operation} {ops : List Operation}

/-! ### Counter by counter -/

/-- Whether a counter has a name. -/
def named (name : String) (k : Metric) : Bool := k.name == name

theorem sumOf_attached (h : Hub) (op : Operation) :
    (h.counted op).sumOf (named "ws_connections_total") = op.attached.length := by
  rw [sumOf_counted]
  cases op with
  | detach id | frame m id text => dsimp only; split <;> simp [weigh, named, Metric.name, Operation.attached]
  | _ => simp [weigh, named, Metric.name, Operation.attached]

theorem sumOf_evicted (h : Hub) (op : Operation) :
    (h.counted op).sumOf (named "ws_evictions_total") = (h.evictedBy op).length := by
  rw [sumOf_counted]
  cases op with
  | detach id | frame m id text => dsimp only; split <;> simp [weigh, named, Metric.name, evictedBy]
  | _ => simp [weigh, named, Metric.name, evictedBy]

theorem sumOf_refused (h : Hub) (op : Operation) :
    (h.counted op).sumOf (named "ws_auth_failures_total") = (h.refusedBy op).length := by
  rw [sumOf_counted]
  cases op with
  | detach id => dsimp only; split <;> simp [weigh, named, Metric.name, refusedBy]
  | frame m id text =>
    simp only [refusedBy]
    cases h.refusal? m id text <;> simp [weigh, named, Metric.name]
  | _ => simp [weigh, named, Metric.name, refusedBy]

theorem sumOf_refusedFor (code : String) (h : Hub) (op : Operation) :
    (h.counted op).sumOf (· == .refused code) = ((h.refusedBy op).filter (·.2.code == code)).length := by
  rw [sumOf_counted]
  cases op with
  | detach id => dsimp only; split <;> simp [weigh, refusedBy]
  | frame m id text =>
    simp only [refusedBy]
    cases h.refusal? m id text with
    | none => rfl
    | some e => by_cases he : e.code = code <;> simp [weigh, he]
  | _ => simp [weigh, refusedBy]

theorem sumOf_reached (event : String) (h : Hub) (op : Operation) :
    (h.counted op).sumOf (· == .delivered event) = ((reachedBy event h op).sum : ℕ) := by
  rw [sumOf_counted]
  cases op with
  | detach id | frame m id text => dsimp only; split <;> simp [weigh, reachedBy]
  | broadcast message => by_cases he : message.kind = event <;> simp [weigh, reachedBy, he]
  | _ => simp [weigh, reachedBy]

theorem length_detach (hd : h.Distinct) (id : String) :
    ((h.detach id).1.connections.length : Int) = h.connections.length + if id ∈ h.ids then -1 else 0 := by
  have hids : (h.detach id).1.ids = h.ids.erase id := by
    rw [hd.erase_eq_filter, ids, connections_detach, ids, List.filter_map]
    rfl
  have hlength := congrArg List.length hids
  rw [List.length_erase, ids, List.length_map] at hlength
  have hsame : h.ids.length = h.connections.length := List.length_map _
  split_ifs at hlength ⊢ with hmem
  · have hpos := List.length_pos_of_mem hmem
    omega
  · omega

theorem length_put (h : Hub) (c : Connection) : (h.put c).connections.length = h.connections.length :=
  List.length_map _

/-- **A text** ends the connection it came over if it is refused, and no other. -/
theorem length_receive (hd : h.Distinct) (m : Moment) (id text : String) :
    ((h.receive m id text).1.connections.length : Int) =
      h.connections.length + match h.refusal? m id text with
        | none => 0
        | some _ => -1 := by
  cases hr : h.refusal? m id text with
  | none => rcases receive_of_not_refused hr with heq | ⟨d, heq⟩ <;> simp [heq, length_put]
  | some e =>
    obtain ⟨hmem, heq⟩ := receive_of_refused hr
    have hcounted : (h.count (.refused e.code) 1).Distinct := hd
    have hids : id ∈ (h.count (.refused e.code) 1).ids := hmem
    have hlength := length_detach hcounted id
    rw [if_pos hids] at hlength
    rw [heq]
    exact hlength

/-- **How many connections there are** changes as the gauge does. -/
theorem length_perform (hd : h.Distinct) (op : Operation) :
    ((h.perform op).1.connections.length : Int) =
      h.connections.length + (h.counted op).sumOf (named "ws_connections_active") := by
  rw [sumOf_counted]
  cases op with
  | attach m id => simp [perform, attach, count, weigh, named, Metric.name]
  | detach id =>
    rw [perform, length_detach hd]
    simp [weigh, named, Metric.name]
  | hangUp id => simp [perform, hangUp]
  | frame m id text =>
    rw [perform, length_receive hd]
    dsimp only
    cases h.refusal? m id text <;> simp [weigh, named, Metric.name]
  | broadcast message => simp [perform, connections_broadcast, weigh, named, Metric.name]
  | tick m =>
    have hsplit := List.length_eq_length_filter_add (l := h.connections) (h.isSilent m)
    have hevicted : (h.tick m).2.2.length = (h.connections.filter (h.isSilent m)).length := List.length_map _
    rw [perform, connections_tick hd]
    simp [weigh, named, Metric.name]
    omega
  | closeAll reason =>
    simp [perform, closeAll, weigh, named, Metric.name]
  | adopt a => simp [perform]

/-- **The gauge** counts the connections that there are. -/
theorem change_active (hstart : h.connections = []) (hops : (attached ops).Nodup) :
    h.change (named "ws_connections_active") ops = (h.run ops).1.connections.length := by
  induction ops using List.reverseRecOn with
  | nil => simp [change, run, hstart]
  | append_singleton ops op ih =>
    rw [attached_concat] at hops
    have hprev := (List.nodup_append.mp hops).1
    have hlength := length_perform (distinct_run hstart hprev) op
    rw [change_concat hstart hprev, ih hprev, run_concat, hlength]

/-! ### Who has gone -/

/-- **Connections that operations are said to end** are ended once, and are not there afterwards. -/
theorem along_departs {f : Hub → Operation → List String}
    (hf : ∀ (h : Hub) op, h.Distinct → (f h op).Nodup ∧ ∀ id ∈ f h op, id ∈ h.ids ∧ h.Departs id op)
    (hstart : h.connections = []) (hops : (attached ops).Nodup) :
    (h.along f ops).Nodup ∧ ∀ id ∈ h.along f ops, id ∈ attached ops ∧ id ∉ (h.run ops).1.ids := by
  induction ops using List.reverseRecOn with
  | nil => simp [along]
  | append_singleton ops op ih =>
    rw [attached_concat] at hops ⊢
    obtain ⟨hprev, -, hapart⟩ := List.nodup_append.mp hops
    obtain ⟨hnodup, hgone⟩ := ih hprev
    have hd := distinct_run hstart hprev
    obtain ⟨hnew, hdeparts⟩ := hf _ op hd
    rw [along_concat, run_concat]
    refine ⟨List.nodup_append.mpr ⟨hnodup, hnew, ?_⟩, fun id hid => ?_⟩
    · rintro id hid _ hid' rfl
      exact (hgone id hid).2 (hdeparts id hid').1
    · rw [mem_ids_perform hd op id, List.mem_append]
      rcases List.mem_append.mp hid with hid | hid
      · obtain ⟨hgiven, hnot⟩ := hgone id hid
        refine ⟨Or.inl hgiven, ?_⟩
        rintro (⟨m, rfl⟩ | ⟨hmem, -⟩)
        · exact hapart id hgiven id (List.mem_singleton_self id) rfl
        · exact hnot hmem
      · obtain ⟨hmem, hdep⟩ := hdeparts id hid
        have hgiven : id ∈ attached ops := (ids_run hstart ops).subset hmem
        refine ⟨Or.inl hgiven, ?_⟩
        rintro (⟨m, rfl⟩ | ⟨-, hstays⟩)
        · exact hdep.elim
        · exact hstays hdep

theorem departs_evictedBy (h : Hub) (op : Operation) (hd : h.Distinct) :
    (h.evictedBy op).Nodup ∧ ∀ id ∈ h.evictedBy op, id ∈ h.ids ∧ h.Departs id op := by
  cases op with
  | tick m =>
    refine ⟨hd.sublist (List.filter_sublist.map _), fun id hid => ⟨?_, hid⟩⟩
    obtain ⟨c, hc, rfl⟩ := List.mem_map.mp hid
    exact List.mem_map_of_mem (List.mem_of_mem_filter hc)
  | _ => simp [evictedBy]

theorem departs_refusedBy (h : Hub) (op : Operation) (_ : h.Distinct) :
    ((h.refusedBy op).map (·.1)).Nodup ∧ ∀ id ∈ (h.refusedBy op).map (·.1), id ∈ h.ids ∧ h.Departs id op := by
  cases op with
  | frame m id text =>
    simp only [refusedBy]
    cases hrefusal : h.refusal? m id text with
    | none => simp
    | some e =>
      have hrefuses : h.Refuses m id text := refusal?_isSome_iff.mp (by rw [hrefusal]; rfl)
      obtain ⟨c, _, _, _, _, hc, -⟩ := refusal?_isSome_iff.mp (by rw [hrefusal]; rfl : (h.refusal? m id text).isSome)
      simp [Departs, hrefuses, mem_ids_of_connection? hc]
  | _ => simp [refusedBy]

/-! ### What a session follows -/

theorem ncard_follows (hc : ∀ s, c.session = some s → s.projects.Pairwise (· < ·)) :
    Set.ncard {project | c.follows project = true} = (c.session.map (·.projects.length)).getD 0 := by
  cases hs : c.session with
  | none => simp [Connection.follows, hs]
  | some s =>
    have hnodup : s.projects.Nodup := (hc s hs).imp fun hlt => hlt.ne
    have hset : {project | c.follows project = true} = (s.projects.toFinset : Set String) := by
      ext project
      simp [Connection.follows, hs]
    rw [hset, Set.ncard_coe_finset, List.toFinset_card_of_nodup hnodup]
    rfl

/-- **What the counters tell after a run**: how many connections there are, how many came, were given up at ticks
and were refused for their token, each of them once, and how often an event was handed out. -/
structure Tallies (h : Hub) (ops : List Operation) : Prop where
  active : h.change (named "ws_connections_active") ops =
    ((h.run ops).1.stats.live + (h.run ops).1.stats.unauthenticated : ℕ)
  registered : (h.run ops).1.stats.live + (h.run ops).1.stats.unauthenticated = (h.run ops).1.ids.length
  attached : h.change (named "ws_connections_total") ops = (attached ops).length
  evicted : h.change (named "ws_evictions_total") ops = (h.along evictedBy ops).length
  refused : h.change (named "ws_auth_failures_total") ops = (h.along refusedBy ops).length
  refusedFor : ∀ code, h.change (· == .refused code) ops =
    ((h.along refusedBy ops).filter (·.2.code == code)).length
  evictedOnce : (h.along evictedBy ops).Nodup
  refusedOnce : ((h.along refusedBy ops).map (·.1)).Nodup
  gone : ∀ id, id ∈ h.along evictedBy ops ∨ id ∈ (h.along refusedBy ops).map (·.1) →
    id ∈ Hub.attached ops ∧ id ∉ (h.run ops).1.ids
  subscriptions : (h.run ops).1.stats.subscriptions =
    ((h.run ops).1.connections.map fun c => Set.ncard {project | c.follows project = true}).sum
  delivered : ∀ event, h.change (· == .delivered event) ops = ((h.along (reachedBy event) ops).sum : ℕ)

/-- **The counters are right after any operations** on a hub without connections. -/
theorem tallies_of_run (hstart : h.connections = []) (hops : (attached ops).Nodup) : h.Tallies ops := by
  have hlength : (h.run ops).1.stats.live + (h.run ops).1.stats.unauthenticated =
      (h.run ops).1.connections.length := by
    have hsplit := List.length_eq_length_filter_add (l := (h.run ops).1.connections) (·.session.isSome)
    simp only [Option.not_isSome] at hsplit
    exact hsplit.symm
  have hevicted := along_departs departs_evictedBy hstart hops
  have hrefused := along_departs departs_refusedBy hstart hops
  rw [← map_along (·.1) refusedBy ops h] at hrefused
  have hlengths {α : Type} (as bs : List α) : (as ++ bs).length = as.length + bs.length := List.length_append
  refine ⟨?_, ?_, ?_, ?_, ?_, fun code => ?_, hevicted.1, hrefused.1, fun id hid => ?_, ?_, fun event => ?_⟩
  · rw [change_active hstart hops, hlength]
  · rw [hlength]
    exact (List.length_map _).symm
  · rw [attached_eq_along ops h]
    exact change_eq_along hlengths sumOf_attached hstart hops
  · exact change_eq_along hlengths sumOf_evicted hstart hops
  · exact change_eq_along hlengths sumOf_refused hstart hops
  · exact change_eq_along (w := fun rs : List (String × AuthError) => (rs.filter (·.2.code == code)).length) (by simp)
      (sumOf_refusedFor code) hstart hops
  · exact hid.elim (hevicted.2 id) (hrefused.2 id)
  · show ((h.run ops).1.connections.map fun c => (c.session.map (·.projects.length)).getD 0).sum = _
    refine congrArg List.sum (List.map_congr_left fun c hc => (ncard_follows fun s hs => ?_).symm)
    have hfound := (connection?_eq_some (distinct_run hstart hops)).mpr ⟨hc, rfl⟩
    exact (served_of_run hstart hops hfound hs).ascending
  · exact change_eq_along (fun _ _ => List.sum_append) (sumOf_reached event) hstart hops

/-- Ann and Bob follow the shop, Dot is refused for her token, Bob is given up and then detached, and texts come
from those who have gone. -/
def busyDay : List Operation := [
  .attach ⟨0, default⟩ "ann", .attach ⟨0, default⟩ "bob", .attach ⟨0, default⟩ "dot",
  .frame ⟨10, default⟩ "ann" (ClientMessage.authenticate "a" .web (some "shop")).write.render,
  .frame ⟨20, default⟩ "bob" (ClientMessage.authenticate "b" .ide (some "shop")).write.render,
  .broadcast (.event (.projectMoved "shop" .analyzing .review)),
  .adopt (.signed Sha256.hex "k"),
  .frame ⟨30, default⟩ "dot" (ClientMessage.authenticate "forged" .web none).write.render,
  .frame ⟨40, default⟩ "dot" (ClientMessage.pong 0).write.render,
  .frame ⟨700, default⟩ "ann" (ClientMessage.pong 0).write.render,
  .tick ⟨1500, default⟩, .detach "bob", .detach "bob", .detach "eve",
  .broadcast (.event (.projectMoved "shop" .review .approved))]

theorem tallies_of_run_busyDay :
    welcoming.change (named "ws_connections_active") busyDay = 1 ∧
    welcoming.change (named "ws_connections_total") busyDay = 3 ∧
    welcoming.along evictedBy busyDay = ["bob"] ∧
    welcoming.change (named "ws_evictions_total") busyDay = 1 ∧
    welcoming.change (named "ws_auth_failures_total") busyDay = 1 ∧
    welcoming.change (· == .delivered "project_status_changed") busyDay = 3 := by
  have htallies : welcoming.Tallies busyDay := tallies_of_run rfl (by decide)
  have hevicted : welcoming.along evictedBy busyDay = ["bob"] := by decide +kernel
  have hrefused : welcoming.along refusedBy busyDay = [("dot", .malformedToken)] := by decide +kernel
  have hreached : welcoming.along (reachedBy "project_status_changed") busyDay = [2, 1] := by decide +kernel
  have hlive : (welcoming.run busyDay).1.stats.live + (welcoming.run busyDay).1.stats.unauthenticated = 1 := by
    decide +kernel
  refine ⟨?_, ?_, hevicted, ?_, ?_, ?_⟩
  · rw [htallies.active, hlive]
    rfl
  · rw [htallies.attached]
    rfl
  · rw [htallies.evicted, hevicted]
    rfl
  · rw [htallies.refused, hrefused]
    rfl
  · rw [htallies.delivered, hreached]
    rfl

end Backlog.Hub
