import Backlog.Proofs.Store.Commit
import Mathlib.Data.List.Nodup
import Mathlib.Logic.Relation

/-! # Steps of a store

A step is one operation that succeeds; commits may be restricted to those of some sort. A store is reachable
if steps lead to it from the empty store.

* `Keyed.of_reachable`: no two projects and no two tickets share an id.
* `Step.rows_eq_or_commit`: a step that is no commit leaves dependencies and contexts alone, and of each ticket
  its id, project, type and rank. -/

namespace Backlog

/-- Which ticket stands where in its backlog. -/
structure Ticket.Seat where
  id : String
  type : TicketType
  rank : Option Nat

/-- The seat of a ticket. -/
def Ticket.seat (t : Ticket) : Ticket.Seat := ⟨t.id, t.type, t.rank⟩

/-- The project of a ticket and its seat there, which work on the ticket never changes. -/
def Ticket.place (t : Ticket) : String × Ticket.Seat := (t.project, t.seat)

namespace Store

variable {Allowed : Commit → Prop} {s s' : Store} {now : Instant} {id : String} {t u : Ticket}

/-! ### Steps -/

/-- **One operation that succeeds.** -/
inductive Step (Allowed : Commit → Prop) (s : Store) : Store → Prop
  | create {now id name description r} :
    s.createProject now id name description = .ok r → Step Allowed s r.1
  | beginAnalysis {now id r} : s.beginAnalysis now id = .ok r → Step Allowed s r.1
  | failAnalysis {now id detail r} : s.failAnalysis now id detail = .ok r → Step Allowed s r.1
  | moveProject {now id target r} : s.moveProject now id target = .ok r → Step Allowed s r.1
  | commit {now c r} : Allowed c → s.commit now c = .ok r → Step Allowed s r.1
  | moveTicket {now id target r} : s.moveTicket now id target = .ok r → Step Allowed s r.1
  | assignTicket {now id assignee r} : s.assignTicket now id assignee = .ok r → Step Allowed s r.1
  | patchTicket {now id patch r} : s.patchTicket now id patch = .ok r → Step Allowed s r.1

/-- Stores to which steps lead from the empty one. -/
def Reachable (Allowed : Commit → Prop) (s : Store) : Prop :=
  Relation.ReflTransGen (Step Allowed) {} s

/-! ### Keys -/

/-- **Ids tell rows apart.** -/
structure Keyed (s : Store) : Prop where
  projects : (s.projects.map (·.id)).Nodup
  tickets : (s.tickets.map (·.id)).Nodup

theorem Keyed.ticket_eq (hs : s.Keyed) (ht : t ∈ s.tickets) (hu : u ∈ s.tickets) (h : t.id = u.id) :
    t = u :=
  List.inj_on_of_nodup_map hs.tickets ht hu h

theorem Keyed.project_eq (hs : s.Keyed) {p q : Project} (hp : p ∈ s.projects) (hq : q ∈ s.projects)
    (h : p.id = q.id) : p = q :=
  List.inj_on_of_nodup_map hs.projects hp hq h

theorem Keyed.project?_eq_some (hs : s.Keyed) {p : Project} :
    s.project? id = some p ↔ p ∈ s.projects ∧ p.id = id := by
  refine ⟨mem_of_project?, ?_⟩
  rintro ⟨hp, rfl⟩
  obtain ⟨q, hq⟩ := exists_project?_iff.mpr (List.mem_map_of_mem hp)
  obtain ⟨hmem, hid⟩ := mem_of_project? hq
  rw [hq, hs.project_eq hmem hp hid]

theorem Keyed.putProject_eq (hs : s.Keyed) {q : Project} (hq : s.project? id = some q)
    (f : Project → Project) (hf : (f q).id = q.id) :
    s.putProject (f q) =
      { s with projects := s.projects.map fun r => if r.id = id then f r else r } := by
  obtain ⟨hmem, rfl⟩ := mem_of_project? hq
  unfold Store.putProject
  congr 1
  refine List.map_congr_left fun r hr => ?_
  simp only [beq_iff_eq, hf]
  split_ifs with hid
  · rw [hs.project_eq hr hmem hid]
  · rfl

theorem Keyed.putProject (hs : s.Keyed) (p : Project) : (s.putProject p).Keyed where
  projects := by
    rw [map_putProject (·.id) fun _ _ h => h]
    exact hs.projects
  tickets := hs.tickets

theorem Keyed.putTicket (hs : s.Keyed) (t : Ticket) : (s.putTicket t).Keyed where
  projects := hs.projects
  tickets := by
    rw [map_putTicket (·.id) fun _ _ h => h]
    exact hs.tickets

theorem Keyed.countCompleted (hs : s.Keyed) (now : Instant) (project : String) :
    (s.countCompleted now project).Keyed where
  projects := by
    rw [map_id_countCompleted]
    exact hs.projects
  tickets := hs.tickets

theorem Keyed.withRows (hs : s.Keyed) {c : Commit} (hc : s.Fits c) (now : Instant) :
    (s.withRows now c).Keyed where
  projects := hs.projects
  tickets := by
    have hids : (s.withRows now c).tickets.map (·.id) =
        s.tickets.map (·.id) ++ c.tickets.map (·.id) := by
      simp [Store.withRows, Ticket.stored]
    rw [hids, List.nodup_append]
    refine ⟨hs.tickets, ?_, ?_⟩
    · rw [List.nodup_iff_pairwise_ne, List.pairwise_map]
      exact hc.tickets.imp fun h hid => h (Or.inl hid)
    · intro i hi j hj hij
      obtain ⟨u, hu, rfl⟩ := List.mem_map.mp hi
      obtain ⟨t, ht, rfl⟩ := List.mem_map.mp hj
      exact hc.newTickets u hu t ht (Or.inl hij)

theorem Keyed.clear (hs : s.Keyed) (project : String) : (s.clear project).Keyed where
  projects := hs.projects
  tickets := hs.tickets.sublist (List.filter_sublist.map _)

theorem Keyed.step (hs : s.Keyed) (h : Step Allowed s s') : s'.Keyed := by
  cases h with
  | create h =>
    obtain ⟨-, hid, p, rfl, rfl⟩ := createProject_eq_ok.mp h
    refine ⟨?_, hs.tickets⟩
    rw [List.map_append, List.nodup_append]
    refine ⟨hs.projects, List.nodup_singleton _, ?_⟩
    intro i hi j hj hij
    obtain ⟨p, hp, rfl⟩ := List.mem_map.mp hi
    rw [List.map_singleton, List.mem_singleton] at hj
    exact hid p hp (hij.trans hj)
  | beginAnalysis h =>
    obtain ⟨p, q, -, -, rfl⟩ := beginAnalysis_eq_ok.mp h
    exact hs.putProject q
  | failAnalysis h =>
    obtain ⟨p, q, -, -, rfl⟩ := failAnalysis_eq_ok.mp h
    exact hs.putProject q
  | moveProject h =>
    obtain ⟨p, q, -, -, -, rfl⟩ := moveProject_eq_ok.mp h
    exact hs.putProject q
  | commit _ h =>
    obtain ⟨-, p, -, hfits, rfl⟩ := commit_eq_ok.mp h
    exact ((hs.clear _).withRows hfits _).putProject _
  | moveTicket h =>
    obtain ⟨t, u, -, -, -, rfl⟩ := moveTicket_eq_ok.mp h
    dsimp only
    split_ifs
    · exact (hs.putTicket u).countCompleted _ _
    · exact hs.putTicket u
  | assignTicket h =>
    obtain ⟨t, u, -, -, -, rfl⟩ := assignTicket_eq_ok.mp h
    exact hs.putTicket u
  | patchTicket h =>
    obtain ⟨-, t, u, -, -, -, rfl⟩ := patchTicket_eq_ok.mp h
    exact hs.putTicket _

/-- **In a reachable store** ids tell rows apart. -/
theorem Keyed.of_reachable (h : Reachable Allowed s) : s.Keyed := by
  induction h with
  | refl => exact ⟨List.nodup_nil, List.nodup_nil⟩
  | tail _ h ih => exact ih.step h

/-! ### Places -/

theorem Keyed.map_place_putTicket (hs : s.Keyed) (ht : s.ticket? id = some t)
    (hu : u.place = t.place) : (s.putTicket u).tickets.map Ticket.place = s.tickets.map Ticket.place := by
  obtain ⟨hmem, -⟩ := mem_of_ticket? ht
  refine map_putTicket Ticket.place fun r hr hid => ?_
  have hrt : r = t := hs.ticket_eq hr hmem (hid.trans (congrArg (·.2.id) hu))
  rw [hrt, hu]

/-- **A step that is no commit** leaves all places, dependencies and contexts alone. -/
theorem Step.rows_eq_or_commit (hs : s.Keyed) (h : Step Allowed s s') :
    (s'.tickets.map Ticket.place = s.tickets.map Ticket.place ∧ s'.edges = s.edges ∧
      s'.contexts = s.contexts) ∨ ∃ now c p, Allowed c ∧ s.commit now c = .ok (s', p) := by
  cases h with
  | create h =>
    obtain ⟨-, -, p, -, rfl⟩ := createProject_eq_ok.mp h
    exact Or.inl ⟨rfl, rfl, rfl⟩
  | beginAnalysis h =>
    obtain ⟨p, q, -, -, rfl⟩ := beginAnalysis_eq_ok.mp h
    exact Or.inl ⟨rfl, rfl, rfl⟩
  | failAnalysis h =>
    obtain ⟨p, q, -, -, rfl⟩ := failAnalysis_eq_ok.mp h
    exact Or.inl ⟨rfl, rfl, rfl⟩
  | moveProject h =>
    obtain ⟨p, q, -, -, -, rfl⟩ := moveProject_eq_ok.mp h
    exact Or.inl ⟨rfl, rfl, rfl⟩
  | @commit now c r hc h => exact Or.inr ⟨now, c, r.2, hc, h⟩
  | moveTicket h =>
    obtain ⟨t, u, ht, -, rfl, rfl⟩ := moveTicket_eq_ok.mp h
    refine Or.inl ?_
    dsimp only
    split_ifs
    · exact ⟨hs.map_place_putTicket ht rfl, rfl, rfl⟩
    · exact ⟨hs.map_place_putTicket ht rfl, rfl, rfl⟩
  | assignTicket h =>
    obtain ⟨t, u, ht, -, rfl, rfl⟩ := assignTicket_eq_ok.mp h
    exact Or.inl ⟨hs.map_place_putTicket ht rfl, rfl, rfl⟩
  | patchTicket h =>
    obtain ⟨-, t, u, ht, rfl, -, rfl⟩ := patchTicket_eq_ok.mp h
    exact Or.inl ⟨hs.map_place_putTicket ht rfl, rfl, rfl⟩

end Store

end Backlog
