import Backlog.Proofs.Sync.Conversation

/-! # What the hub counts

What an operation adds to the counters can be told from the hub before it (`Hub.counted`, `counts_perform`), so
what a run adds is told by its operations one after the other (`Hub.along`, `change_eq_along`). -/

namespace Backlog

variable {h : Hub} {c : Connection} {id : String} {m : Moment} {op : Hub.Operation}
  {ops : List Hub.Operation} {p : Metric → Bool}

/-! ### Sums of counters -/

namespace Counts

variable {cs ds : Counts} {k : Metric}

/-- **How much was added in all** to the counters that a condition picks. -/
def sumOf (p : Metric → Bool) (cs : Counts) : Int := ((cs.filter fun e => p e.1).map (·.2)).foldr (· + ·) 0

theorem value_eq_sumOf (cs : Counts) (k : Metric) : cs.value k = cs.sumOf (· == k) := rfl

theorem sumOf_cons (p : Metric → Bool) (k : Metric) (n : Int) (cs : Counts) :
    sumOf p ((k, n) :: cs) = (if p k then n else 0) + cs.sumOf p := by
  unfold sumOf
  by_cases hk : p k = true <;> simp [hk]

theorem sumOf_append (p : Metric → Bool) (cs ds : Counts) : (cs ++ ds).sumOf p = cs.sumOf p + ds.sumOf p := by
  induction cs with
  | nil => simp [sumOf]
  | cons c cs ih => rw [List.cons_append, sumOf_cons, sumOf_cons, ih, Int.add_assoc]

theorem sumOf_nil (p : Metric → Bool) : sumOf p [] = 0 := rfl

theorem sumOf_flatMap {α : Type} {f : α → Counts} {n : Int} : ∀ {l : List α},
    (∀ x ∈ l, (f x).sumOf p = n) → sumOf p (l.flatMap f) = l.length * n
  | [], _ => by simp [sumOf]
  | x :: l, hf => by
    have hx := hf x List.mem_cons_self
    have ih := sumOf_flatMap fun y hy => hf y (List.mem_cons_of_mem x hy)
    rw [List.flatMap_cons, sumOf_append, hx, ih, List.length_cons]
    push_cast
    rw [Int.add_mul, Int.one_mul, Int.add_comm]

end Counts

/-! ### One operation -/

/-- Why a client is not let in by a text with which it introduces itself. -/
def Connection.refusal? (a : Authenticator) (m : Moment) (c : Connection) (text : String) : Option AuthError :=
  match ClientMessage.ofText text, c.session with
  | .ok (.authenticate token _ _), none =>
    match a.authenticate m.time.seconds (some (bearerHeader token)) with
    | .ok _ => none
    | .error e => some e
  | _, _ => none

namespace Hub

/-- **Why a text is refused**, if it is. -/
def refusal? (h : Hub) (m : Moment) (id text : String) : Option AuthError :=
  (h.connection? id).bind fun c => c.refusal? h.authenticator m text

/-- The connections that an operation refuses, and why. -/
def refusedBy (h : Hub) : Operation → List (String × AuthError)
  | .frame m id text => ((h.refusal? m id text).map fun e => (id, e)).toList
  | _ => []

/-- The connections that an operation gives up. -/
def evictedBy (h : Hub) : Operation → List String
  | .tick m => (h.tick m).2.2
  | _ => []

/-- How many connections an operation could reach with an event, told for each broadcast of it. -/
def reachedBy (event : String) (h : Hub) : Operation → List ℕ
  | .broadcast message => if message.kind = event then [(h.broadcast message).2.2] else []
  | _ => []

/-- The connections that a message is meant for. -/
def followers (h : Hub) (message : ServerMessage) : List Connection :=
  h.connections.filter fun c => message.project?.any c.follows

/-- **What an operation adds to the counters.** -/
def counted (h : Hub) : Operation → Counts
  | .attach .. => [(.attached, 1), (.active, 1)]
  | .detach id => if id ∈ h.ids then [(.active, -1)] else []
  | .hangUp _ | .adopt _ => []
  | .frame m id text => (h.refusedBy (.frame m id text)).flatMap fun r =>
    [(.refused r.2.code, 1), (.active, -1)]
  | .broadcast message => (h.followers message).map fun c =>
    (if c.writable then .delivered message.kind else .undelivered message.kind, 1)
  | .tick m => (h.evictedBy (.tick m)).flatMap fun _ => [(.active, -1), (.evicted, 1)]
  | .closeAll _ => h.connections.map fun _ => (.active, -1)

theorem refusal?_isSome_iff {text : String} : (h.refusal? m id text).isSome ↔ h.Refuses m id text := by
  unfold refusal? Refuses
  cases h.connection? id with
  | none => simp
  | some c =>
    rw [Option.bind_some, Connection.refusal?]
    cases ClientMessage.ofText text with
    | error f => simp
    | ok message =>
      cases hs : c.session with
      | some s => cases message <;> simp [hs]
      | none =>
        cases message with
        | authenticate token client project =>
          cases hauth : h.authenticator.authenticate m.time.seconds (some (bearerHeader token)) <;>
            simp [hs, hauth]
        | subscribe project | unsubscribe project | pong t => simp

theorem counts_detach (h : Hub) (id : String) :
    (h.detach id).1.counts = h.counts ++ if id ∈ h.ids then [(.active, -1)] else [] := by
  unfold detach
  cases hc : h.connection? id with
  | none => simp [connection?_eq_none.mp hc]
  | some c =>
    simp [count, mem_ids_of_connection? hc]

/-- A message of a client with a session replaces its connection, or changes nothing. -/
theorem handle_put_or (h : Hub) (m : Moment) (c : Connection) (s : Session) (message : ClientMessage) :
    (h.handle m c s message).1 = h ∨ ∃ d, (h.handle m c s message).1 = h.put d := by
  cases message with
  | authenticate token client project => exact Or.inl rfl
  | subscribe project =>
    simp only [handle]
    split_ifs
    · exact Or.inl rfl
    · exact Or.inr ⟨_, rfl⟩
  | unsubscribe project =>
    simp only [handle]
    split_ifs
    · exact Or.inr ⟨_, rfl⟩
    · exact Or.inl rfl
  | pong t => exact Or.inr ⟨_, rfl⟩

/-- **A text that is not refused** replaces a connection, or changes nothing. -/
theorem receive_of_not_refused {text : String} (hr : h.refusal? m id text = none) :
    (h.receive m id text).1 = h ∨ ∃ d, (h.receive m id text).1 = h.put d := by
  unfold refusal? at hr
  unfold receive
  cases hc : h.connection? id with
  | none => exact Or.inl rfl
  | some c =>
    rw [hc, Option.bind_some, Connection.refusal?] at hr
    dsimp only at hr ⊢
    cases htext : ClientMessage.ofText text with
    | error f => exact Or.inl rfl
    | ok message =>
      cases hs : c.session with
      | some s => cases message <;> exact h.handle_put_or m c s _
      | none =>
        cases message with
        | authenticate token client project =>
          simp only [htext, hs] at hr
          simp only [introduce]
          cases hauth : h.authenticator.authenticate m.time.seconds (some (bearerHeader token)) with
          | ok identity => exact Or.inr ⟨_, rfl⟩
          | error e => rw [hauth] at hr; cases hr
        | subscribe project | unsubscribe project | pong t => exact Or.inl rfl

theorem receive_of_refused {text : String} {e : AuthError} (hr : h.refusal? m id text = some e) :
    id ∈ h.ids ∧ (h.receive m id text).1 = ((h.count (.refused e.code) 1).detach id).1 := by
  obtain ⟨c, hc, hrefusal⟩ := Option.bind_eq_some_iff.mp hr
  obtain rfl := id_of_connection? hc
  refine ⟨mem_ids_of_connection? hc, ?_⟩
  unfold Connection.refusal? at hrefusal
  split at hrefusal
  · rename_i token client project htext hs
    simp only [receive, hc, htext, hs, introduce]
    cases hauth : h.authenticator.authenticate m.time.seconds (some (bearerHeader token)) with
    | ok identity => rw [hauth] at hrefusal; cases hrefusal
    | error e' =>
      rw [hauth] at hrefusal
      cases hrefusal
      rfl
  · cases hrefusal

theorem counts_receive (h : Hub) (m : Moment) (id text : String) :
    (h.receive m id text).1.counts = h.counts ++ h.counted (.frame m id text) := by
  simp only [counted, refusedBy]
  cases hr : h.refusal? m id text with
  | none =>
    rcases receive_of_not_refused hr with heq | ⟨d, heq⟩ <;> rw [heq] <;> simp [put]
  | some e =>
    obtain ⟨hmem, heq⟩ := receive_of_refused hr
    have hids : id ∈ (h.count (.refused e.code) 1).ids := hmem
    rw [heq, counts_detach, if_pos hids]
    simp [count]

theorem counts_foldl_evict : ∀ (cs : List Connection) (h : Hub), (cs.map (·.id)).Nodup →
    (∀ c ∈ cs, c.id ∈ h.ids) →
      (cs.foldl evict h).counts = h.counts ++ cs.flatMap fun _ => [(.active, -1), (.evicted, 1)]
  | [], h, _, _ => by simp
  | c :: cs, h, hnodup, hmem => by
    obtain ⟨hc, hnodup⟩ := List.nodup_cons.mp hnodup
    have hfirst : (h.evict c).counts = h.counts ++ [(.active, -1), (.evicted, 1)] := by
      simp [evict, count, counts_detach, hmem c List.mem_cons_self]
    -- those that are left are still registered, as they have other ids
    have hrest : ∀ d ∈ cs, d.id ∈ (h.evict c).ids := by
      intro d hd
      have hne : d.id ≠ c.id := fun heq => hc (List.mem_map.mpr ⟨d, hd, heq⟩)
      have hbefore := hmem d (List.mem_cons_of_mem c hd)
      obtain ⟨e, he, hid⟩ := List.mem_map.mp hbefore
      refine List.mem_map.mpr ⟨e, ?_, hid⟩
      rw [connections_evict, List.mem_filter]
      exact ⟨he, by simpa [hid] using hne⟩
    rw [List.foldl_cons, counts_foldl_evict cs _ hnodup hrest, hfirst, List.flatMap_cons, List.append_assoc]

/-- **What an operation adds to the counters** is added after what was counted before. -/
theorem counts_perform (hd : h.Distinct) (op : Operation) :
    (h.perform op).1.counts = h.counts ++ h.counted op := by
  cases op with
  | attach m id => simp [perform, attach, count, counted]
  | detach id => exact counts_detach h id
  | hangUp id => simp [perform, hangUp, counted]
  | frame m id text => exact counts_receive h m id text
  | broadcast message =>
    simp only [perform, broadcast, counted, followers]
    cases message.project? <;> simp
  | tick m =>
    have hsilent : (h.connections.filter (h.isSilent m)).Sublist h.connections := List.filter_sublist
    have hcounts := counts_foldl_evict _ h (hd.sublist (hsilent.map _))
      fun c hc => List.mem_map_of_mem (hsilent.subset hc)
    simp only [perform, tick, counted, evictedBy, List.flatMap_map]
    exact hcounts
  | closeAll reason => simp [perform, closeAll, counted]
  | adopt a => simp [perform, counted]

/-- One for a counter that is picked, and nothing for others. -/
def weigh (p : Metric → Bool) (k : Metric) : Int := if p k then 1 else 0

theorem sumOf_followers (p : Metric → Bool) (h : Hub) (message : ServerMessage) :
    (h.counted (.broadcast message)).sumOf p =
      (h.broadcast message).2.2 * weigh p (.delivered message.kind) +
        ((h.followers message).filter fun c => !c.writable).length * weigh p (.undelivered message.kind) := by
  have hreached : (h.broadcast message).2.2 = ((h.followers message).filter (·.writable)).length := by
    unfold broadcast followers
    cases message.project? <;> simp
  rw [hreached, counted]
  induction h.followers message with
  | nil => simp [Counts.sumOf_nil]
  | cons c cs ih =>
    rw [List.map_cons, Counts.sumOf_cons, ih]
    cases hc : c.writable with
    | false =>
      have hsplit := Int.add_mul (cs.filter fun d => !d.writable).length 1 (weigh p (.undelivered message.kind))
      simp only [weigh, hc, List.filter_cons] at hsplit ⊢
      simp only [Bool.not_false, Bool.false_eq_true, if_true, if_false, List.length_cons]
      push_cast
      omega
    | true =>
      have hsplit := Int.add_mul (cs.filter (·.writable)).length 1 (weigh p (.delivered message.kind))
      simp only [weigh, hc, List.filter_cons] at hsplit ⊢
      simp only [Bool.not_true, Bool.false_eq_true, if_true, if_false, List.length_cons]
      push_cast
      omega

/-- **What an operation adds** to the counters that a condition picks. -/
theorem sumOf_counted (p : Metric → Bool) (h : Hub) (op : Operation) :
    (h.counted op).sumOf p = match op with
      | .attach .. => weigh p .attached + weigh p .active
      | .detach id => if id ∈ h.ids then -weigh p .active else 0
      | .frame m id text => match h.refusal? m id text with
        | none => 0
        | some e => weigh p (.refused e.code) - weigh p .active
      | .broadcast message => (h.broadcast message).2.2 * weigh p (.delivered message.kind) +
        ((h.followers message).filter fun c => !c.writable).length * weigh p (.undelivered message.kind)
      | .tick m => (h.tick m).2.2.length * (weigh p .evicted - weigh p .active)
      | .closeAll _ => h.connections.length * -weigh p .active
      | .hangUp _ | .adopt _ => 0 := by
  have hone : ∀ k n, Counts.sumOf p [(k, n)] = n * weigh p k := by
    intro k n
    rw [Counts.sumOf_cons, Counts.sumOf_nil, weigh]
    split_ifs <;> simp
  have htwo : ∀ k n k' n', Counts.sumOf p [(k, n), (k', n')] = n * weigh p k + n' * weigh p k' := by
    intro k n k' n'
    rw [← List.singleton_append, Counts.sumOf_append, hone, hone]
  cases op with
  | attach m id => simp [counted, htwo]
  | detach id =>
    simp only [counted]
    split_ifs <;> simp [hone, Counts.sumOf_nil]
  | hangUp id => rfl
  | frame m id text =>
    simp only [counted, refusedBy]
    cases h.refusal? m id text <;> simp [htwo, Counts.sumOf_nil]
    omega
  | broadcast message => exact sumOf_followers p h message
  | tick m =>
    simp only [counted, evictedBy]
    refine Counts.sumOf_flatMap fun id _ => ?_
    rw [htwo]
    omega
  | closeAll reason =>
    have hmap : (h.connections.map fun _ => (Metric.active, (-1 : Int))) =
        h.connections.flatMap fun _ => [(Metric.active, -1)] := List.map_eq_flatMap
    simp only [counted, hmap]
    exact Counts.sumOf_flatMap fun c _ => by rw [hone]; omega
  | adopt a => rfl

/-! ### Runs -/

/-- What the operations of a run have to tell, one after the other. -/
def along {α : Type} (f : Hub → Operation → List α) : Hub → List Operation → List α
  | _, [] => []
  | h, op :: ops => f h op ++ along f (h.perform op).1 ops

theorem map_along {α β : Type} (g : α → β) (f : Hub → Operation → List α) : ∀ (ops : List Operation) (h : Hub),
    (h.along f ops).map g = h.along (fun h op => (f h op).map g) ops
  | [], _ => rfl
  | op :: ops, h => by rw [along, along, List.map_append, map_along g f ops]

theorem along_concat {α : Type} (f : Hub → Operation → List α) : ∀ (ops : List Operation) (h : Hub)
    (op : Operation), h.along f (ops ++ [op]) = h.along f ops ++ f (h.run ops).1 op
  | [], h, op => by simp [along, run]
  | o :: ops, h, op => by
    rw [List.cons_append, along, along, along_concat f ops, List.append_assoc]
    rfl

/-- **What was added in a run** to the counters that a condition picks. -/
def change (h : Hub) (p : Metric → Bool) (ops : List Operation) : Int :=
  (h.run ops).1.counts.sumOf p - h.counts.sumOf p

theorem attached_eq_along : ∀ (ops : List Operation) (h : Hub),
    attached ops = h.along (fun _ op => op.attached) ops
  | [], _ => rfl
  | op :: ops, h => by
    rw [along, ← attached_eq_along ops, attached, List.flatMap_cons]
    rfl

theorem change_concat (hstart : h.connections = []) (hops : (attached ops).Nodup) (p : Metric → Bool)
    (op : Operation) : h.change p (ops ++ [op]) = h.change p ops + ((h.run ops).1.counted op).sumOf p := by
  have hcounts := counts_perform (distinct_run hstart hops) op
  rw [change, change, run_concat, hcounts, Counts.sumOf_append]
  omega

/-- **What was added in a run is told by its operations**, if what each adds is. -/
theorem change_eq_along {α : Type} {w : List α → ℕ} (hw : ∀ as bs, w (as ++ bs) = w as + w bs)
    {f : Hub → Operation → List α} (hf : ∀ (h : Hub) op, (h.counted op).sumOf p = w (f h op))
    (hstart : h.connections = []) (hops : (attached ops).Nodup) : h.change p ops = w (h.along f ops) := by
  have hnil : w [] = 0 := by
    have htwice := hw [] []
    simp only [List.append_nil] at htwice
    omega
  induction ops using List.reverseRecOn with
  | nil => simp [change, run, along, hnil]
  | append_singleton ops op ih =>
    rw [attached_concat] at hops
    have hprev := (List.nodup_append.mp hops).1
    rw [change_concat hstart hprev, along_concat, hw, ih hprev, hf]
    push_cast
    rfl

end Hub

end Backlog
