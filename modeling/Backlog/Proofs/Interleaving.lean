import Backlog.Proofs.Events
import Mathlib.Data.List.Flatten

/-! # Calls at the same time

A call for work on a ticket takes two steps: it writes to the store, and then it queues the events that tell
of what it has written. In between other calls may take steps of theirs (`Interleaving`).

The store puts the writes in an order, the queue puts the events in an order, and nothing ties the two
together. In the order of the writes the moves of the ticket lead to its stored status; each of them is
queued once; and where calls queue in the order in which they wrote, the last move that is queued ends in the
stored status (`moves_of_interleaving`). Where they do not, it may not (`last_move_outdated`). -/

namespace Backlog

/-- **Work on a ticket** that somebody asks for. -/
inductive Call where
  | move (now : Instant) (target : TicketStatus) (actor : String)
  | assign (now : Instant) (assignee actor : String)

namespace Call

/-- What a call is served with. -/
def serve (s : Store) (id : String) : Call → Except ServiceError (Served Ticket)
  | .move now target actor => s.serveMove now id target actor
  | .assign now assignee actor => s.serveAssign now id assignee actor

/-- The first step of a call: the store that it leaves, and the events that it has to queue then. A call
that fails has none. -/
def write (s : Store) (id : String) (c : Call) : Store × List Event :=
  match c.serve s id with
  | .ok v => (v.store, v.events)
  | .error _ => (s, [])

end Call

/-- **Calls between their steps.** -/
structure Interleaving where
  store : Store
  /-- The calls that have written, in this order, and what they have to queue. -/
  written : List (ℕ × List Event)
  /-- The calls that have queued their events, in this order. -/
  queued : List (ℕ × List Event)

namespace Interleaving

/-- The next step of a call, if it has one. -/
def step (id : String) (calls : List Call) (x : Interleaving) (i : ℕ) : Interleaving :=
  match calls[i]?, x.written.lookup i with
  | none, _ => x
  | some c, none =>
    { x with
      store := (c.write x.store id).1
      written := x.written ++ [(i, (c.write x.store id).2)] }
  | some _, some es =>
    if i ∈ x.queued.map (·.1) then x else { x with queued := x.queued ++ [(i, es)] }

/-- Calls that take their steps in turn, each time one of them. -/
def of (s : Store) (id : String) (calls : List Call) (turns : List ℕ) : Interleaving :=
  turns.foldl (step id calls) ⟨s, [], []⟩

/-- All calls have taken both steps. -/
def Finished (calls : List Call) (x : Interleaving) : Prop :=
  ∀ i < calls.length, i ∈ x.queued.map (·.1)

/-- The moves of a ticket that some calls tell, in the order of a log. -/
def moves (id : String) (log : List (ℕ × List Event)) : List (TicketStatus × TicketStatus) :=
  ticketMoves id (log.flatMap (·.2))

variable {s : Store} {id : String} {calls : List Call} {x : Interleaving} {i : ℕ} {t : Ticket}
  {log log' : List (ℕ × List Event)}

theorem moves_append (id : String) (log log' : List (ℕ × List Event)) :
    moves id (log ++ log') = moves id log ++ moves id log' := by
  rw [moves, List.flatMap_append, ticketMoves_append]
  rfl

theorem moves_sublist (h : log.Sublist log') : (moves id log).Sublist (moves id log') :=
  (h.flatMap _).filterMap _

/-! ### One step -/

theorem step_of_none (hc : calls[i]? = none) (x : Interleaving) : x.step id calls i = x := by
  simp only [step, hc]

theorem step_write {c : Call} (hc : calls[i]? = some c) (h : x.written.lookup i = none) :
    x.step id calls i =
      ⟨(c.write x.store id).1, x.written ++ [(i, (c.write x.store id).2)], x.queued⟩ := by
  simp only [step, hc, h]

theorem step_queue {c : Call} {es : List Event} (hc : calls[i]? = some c)
    (h : x.written.lookup i = some es) (hnew : i ∉ x.queued.map (·.1)) :
    x.step id calls i = ⟨x.store, x.written, x.queued ++ [(i, es)]⟩ := by
  simp only [step, hc, h, if_neg hnew]

theorem step_of_queued {c : Call} {es : List Event} (hc : calls[i]? = some c)
    (h : x.written.lookup i = some es) (hqueued : i ∈ x.queued.map (·.1)) : x.step id calls i = x := by
  simp only [step, hc, h, if_pos hqueued]

theorem not_mem_of_lookup (h : log.lookup i = none) : i ∉ log.map (·.1) := by
  intro hmem
  obtain ⟨w, hw, rfl⟩ := List.mem_map.mp hmem
  simpa using List.lookup_eq_none_iff.mp h w hw

theorem mem_of_lookup {es : List Event} (h : log.lookup i = some es) : (i, es) ∈ log := by
  obtain ⟨before, after, rfl, -⟩ := List.lookup_eq_some_iff.mp h
  simp

theorem worked_serve {c : Call} {v : Served Ticket} (hv : c.serve s id = .ok v) :
    ∃ t u, s.ticket? id = some t ∧ s.Worked t u v := by
  cases c with
  | move now target actor =>
    rw [Call.serve] at hv
    exact Store.worked_serveMove hv
  | assign now assignee actor =>
    rw [Call.serve] at hv
    exact Store.worked_serveAssign hv

/-- **What a call writes**: its ticket is moved as its events tell, or stays. -/
theorem write_eq (ht : s.ticket? id = some t) (c : Call) :
    ∃ u, (c.write s id).1.ticket? id = some u ∧
      ticketMoves id (c.write s id).2 = move t.status u.status ∧
      (t.status ≠ u.status → t.status.canMoveTo u.status) := by
  unfold Call.write
  cases hv : c.serve s id with
  | error e => exact ⟨t, ht, by simp [ticketMoves, move], fun hne => absurd rfl hne⟩
  | ok v =>
    obtain ⟨t', u, ht', hw⟩ := worked_serve hv
    obtain rfl : t = t' := Option.some.inj (ht.symm.trans ht')
    have hid : t.id = id := (Store.mem_of_ticket? ht).2
    have hput := Store.ticket?_putTicket ht hw.id
    refine ⟨u, ?_, by rw [hw.moves, if_pos hid], hw.allowed⟩
    show v.store.ticket? id = some u
    rcases hw.store with hstore | ⟨now, hstore⟩
    · exact hstore ▸ hput
    · exact hstore ▸ hput

/-- **What the steps of calls keep.** Each call writes at most once and queues at most once, what it queues
is what it wrote, and the moves lead to the stored status in the order in which they were written. -/
structure Kept (id : String) (calls : List Call) (t : Ticket) (x : Interleaving) : Prop where
  called : ∀ w ∈ x.written, w.1 < calls.length
  writtenOnce : (x.written.map (·.1)).Nodup
  queuedOnce : (x.queued.map (·.1)).Nodup
  queued : ∀ w ∈ x.queued, w ∈ x.written
  leads : ∃ u, x.store.ticket? id = some u ∧
    Leads (fun a b => a ≠ b ∧ a.canMoveTo b) t.status (moves id x.written) u.status

theorem nodup_concat {es : List Event} (h : (log.map (·.1)).Nodup) (hi : i ∉ log.map (·.1)) :
    ((log ++ [(i, es)]).map (·.1)).Nodup := by
  rw [List.map_append, List.map_singleton, ← List.concat_eq_append]
  exact h.concat hi

theorem Kept.step (h : x.Kept id calls t) (i : ℕ) : (x.step id calls i).Kept id calls t := by
  cases hc : calls[i]? with
  | none =>
    rw [step_of_none hc]
    exact h
  | some c =>
    cases hlookup : x.written.lookup i with
    | none =>
      -- the call writes, and its move goes on where the moves so far have led
      obtain ⟨u, hu, hleads⟩ := h.leads
      obtain ⟨v, hv, hmoves, hallowed⟩ := write_eq hu c
      have hlast : moves id [(i, (c.write x.store id).2)] = move u.status v.status := by
        rw [← hmoves, moves, List.flatMap_singleton]
      rw [step_write hc hlookup]
      refine ⟨fun w hw => ?_, nodup_concat h.writtenOnce (not_mem_of_lookup hlookup), h.queuedOnce,
        fun w hw => List.mem_append_left _ (h.queued w hw), v, hv, ?_⟩
      · rcases List.mem_append.mp hw with hw | hw
        · exact h.called w hw
        · obtain rfl := List.mem_singleton.mp hw
          exact (List.getElem?_eq_some_iff.mp hc).1
      · rw [moves_append, hlast]
        exact hleads.move fun hne => ⟨hne, hallowed hne⟩
    | some es =>
      by_cases hqueued : i ∈ x.queued.map (·.1)
      · rw [step_of_queued hc hlookup hqueued]
        exact h
      · rw [step_queue hc hlookup hqueued]
        refine { h with queuedOnce := nodup_concat h.queuedOnce hqueued, queued := fun w hw => ?_ }
        rcases List.mem_append.mp hw with hw | hw
        · exact h.queued w hw
        · obtain rfl := List.mem_singleton.mp hw
          exact mem_of_lookup hlookup

/-! ### Any steps -/

theorem kept_of (ht : s.ticket? id = some t) (calls : List Call) (turns : List ℕ) :
    (of s id calls turns).Kept id calls t := by
  induction turns using List.reverseRecOn with
  | nil => exact ⟨by simp [of], by simp [of], by simp [of], by simp [of], t, ht, rfl⟩
  | append_singleton turns i ih =>
    rw [of, List.foldl_concat]
    exact ih.step i

/-- **When all calls have finished**, what was written has been queued, in some order. -/
theorem Kept.perm (h : x.Kept id calls t) (hx : x.Finished calls) : x.queued.Perm x.written := by
  refine (List.perm_ext_iff_of_nodup h.queuedOnce.of_map h.writtenOnce.of_map).mpr fun w => ⟨h.queued w, ?_⟩
  intro hw
  obtain ⟨v, hv, hvw⟩ := List.mem_map.mp (hx w.1 (h.called w hw))
  have hsame : v = w := List.inj_on_of_nodup_map h.writtenOnce (h.queued v hv) hw hvw
  exact hsame ▸ hv

theorem queued_step_step (hx : x.queued = x.written) (i : ℕ) :
    ((x.step id calls i).step id calls i).queued = ((x.step id calls i).step id calls i).written := by
  cases hc : calls[i]? with
  | none => rw [step_of_none hc, step_of_none hc, hx]
  | some c =>
    cases hlookup : x.written.lookup i with
    | some es =>
      have hqueued : i ∈ x.queued.map (·.1) := hx ▸ List.mem_map_of_mem (mem_of_lookup hlookup)
      rw [step_of_queued hc hlookup hqueued, step_of_queued hc hlookup hqueued, hx]
    | none =>
      have hnew : i ∉ x.queued.map (·.1) := hx ▸ not_mem_of_lookup hlookup
      have hlookup' : (x.written ++ [(i, (c.write x.store id).2)]).lookup i =
          some (c.write x.store id).2 := by
        rw [List.lookup_append, hlookup, Option.none_or, List.lookup_cons_self]
      have hqueue : step id calls
          ⟨(c.write x.store id).1, x.written ++ [(i, (c.write x.store id).2)], x.queued⟩ i =
            ⟨_, _, x.queued ++ [(i, (c.write x.store id).2)]⟩ := step_queue hc hlookup' hnew
      rw [step_write hc hlookup, hqueue, hx]

theorem queued_of_one_by_one (s : Store) (id : String) (calls : List Call) (order : List ℕ) :
    (of s id calls (order.flatMap fun i => [i, i])).queued =
      (of s id calls (order.flatMap fun i => [i, i])).written := by
  induction order using List.reverseRecOn with
  | nil => rfl
  | append_singleton order i ih =>
    rw [List.flatMap_append, List.flatMap_singleton, of, List.foldl_append]
    exact queued_step_step ih i

/-- **Calls on one ticket, in whatever order they take their steps.** In the order in which they were written
its moves lead, by moves that are allowed, from the status it had to the one that is stored. Nothing is
queued that was not written, nothing is queued twice, and once all calls have finished nothing is missing.
Calls that queue in the order in which they wrote queue the moves in this order, and once they have finished
the last move that is queued ends in the stored status. Calls that take both steps at once do so. -/
theorem moves_of_interleaving (ht : s.ticket? id = some t) (calls : List Call) (turns : List ℕ)
    (hx : x = of s id calls turns) :
    ∃ u, x.store.ticket? id = some u ∧
      Leads (fun a b => a ≠ b ∧ a.canMoveTo b) t.status (moves id x.written) u.status ∧
      (x.queued.map (·.1)).Nodup ∧ (∀ w ∈ x.queued, w ∈ x.written) ∧
      (x.Finished calls → x.queued.Perm x.written) ∧
      (x.queued.Sublist x.written →
        (moves id x.queued).Sublist (moves id x.written) ∧
        (x.Finished calls → moves id x.queued = moves id x.written ∧
          ∀ m, (moves id x.queued).getLast? = some m → m.2 = u.status)) ∧
      ∀ order : List ℕ, turns = order.flatMap (fun i => [i, i]) → x.queued = x.written := by
  subst hx
  have h := kept_of ht calls turns
  obtain ⟨u, hu, hleads⟩ := h.leads
  refine ⟨u, hu, hleads, h.queuedOnce, h.queued, h.perm, fun horder => ⟨moves_sublist horder, fun hx => ?_⟩, ?_⟩
  · have hsame := horder.eq_of_length (h.perm hx).length_eq
    rw [hsame]
    exact ⟨rfl, fun m hm => hleads.snd_of_getLast? hm⟩
  · rintro order rfl
    exact queued_of_one_by_one s id calls order

/-- Kim is given a ticket of the shop while Ann starts to work on it. -/
def rush : List Call := [.assign default "kim" "bob", .move default .inProgress "ann"]

theorem moves_of_interleaving_rush :
    Store.shopStore.ticket? "a" = some (Store.shopTicket "a" 0) ∧
    (of Store.shopStore "a" rush [0, 1, 0, 1]).Finished rush ∧
    moves "a" (of Store.shopStore "a" rush [0, 1, 0, 1]).queued =
      [(.pending, .assigned), (.assigned, .inProgress)] ∧
    ((of Store.shopStore "a" rush [0, 1, 0, 1]).store.ticket? "a").map (·.status) = some .inProgress := by
  have ht : Store.shopStore.ticket? "a" = some (Store.shopTicket "a" 0) := rfl
  have hfinished : (of Store.shopStore "a" rush [0, 1, 0, 1]).Finished rush := by
    unfold Finished
    decide
  obtain ⟨u, hu, -, -, -, -, horder, -⟩ := moves_of_interleaving ht rush [0, 1, 0, 1] rfl
  obtain ⟨hmoves, hlast⟩ := (horder (by decide)).2 hfinished
  have hqueued : moves "a" (of Store.shopStore "a" rush [0, 1, 0, 1]).queued =
      [(.pending, .assigned), (.assigned, .inProgress)] := hmoves.trans (by decide)
  refine ⟨ht, hfinished, hqueued, ?_⟩
  rw [hu, Option.map_some, ← hlast (.assigned, .inProgress) (by rw [hqueued]; rfl)]

/-- Ann's call writes after the other and queues before it: when both have finished, the last move that is
queued does not end in the stored status. -/
theorem last_move_outdated :
    (of Store.shopStore "a" rush [0, 1, 1, 0]).Finished rush ∧
    moves "a" (of Store.shopStore "a" rush [0, 1, 1, 0]).written =
      [(.pending, .assigned), (.assigned, .inProgress)] ∧
    moves "a" (of Store.shopStore "a" rush [0, 1, 1, 0]).queued =
      [(.assigned, .inProgress), (.pending, .assigned)] ∧
    ((of Store.shopStore "a" rush [0, 1, 1, 0]).store.ticket? "a").map (·.status) = some .inProgress := by
  refine ⟨?_, by decide, by decide, by decide⟩
  unfold Finished
  decide

end Interleaving

end Backlog
