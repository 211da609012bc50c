import Backlog.Proofs.Except
import Backlog.Store.Change

/-! # What the operations of a store do

One law for each operation: when it succeeds, and with what. An operation looks a row up by its id, checks
that the change is allowed and puts the changed row in the place of the old one.

* `mem_of_project?`, `mem_of_ticket?`: what is found is there, under the id asked for.
* `map_putProject`, `map_putTicket`: a column that the new row shares with the old one stays as it was. -/

namespace Backlog.Store

variable {s s' : Store} {now : Instant} {id : String} {p q : Project} {t u : Ticket}

/-! ### Looking up -/

theorem mem_of_project? (h : s.project? id = some p) : p ∈ s.projects ∧ p.id = id :=
  ⟨List.mem_of_find?_eq_some h, by simpa using List.find?_some h⟩

theorem exists_project?_iff : (∃ p, s.project? id = some p) ↔ id ∈ s.projects.map (·.id) := by
  simp [project?, ← Option.isSome_iff_exists]

theorem mem_of_ticket? (h : s.ticket? id = some t) : t ∈ s.tickets ∧ t.id = id :=
  ⟨List.mem_of_find?_eq_some h, by simpa using List.find?_some h⟩

theorem project_eq_ok : s.project id = .ok p ↔ s.project? id = some p := by
  unfold project
  cases s.project? id <;> simp

theorem project_eq_error {e : StoreError} :
    s.project id = .error e ↔ s.project? id = none ∧ e = .projectMissing id := by
  unfold project
  cases s.project? id <;> simp [eq_comm]

theorem ticket_eq_ok : s.ticket id = .ok t ↔ s.ticket? id = some t := by
  unfold ticket
  cases s.ticket? id <;> simp

/-! ### Replacing rows -/

theorem map_putProject {α : Type} (f : Project → α)
    (h : ∀ q ∈ s.projects, q.id = p.id → f q = f p) :
    (s.putProject p).projects.map f = s.projects.map f := by
  simp only [putProject, List.map_map, beq_iff_eq]
  refine List.map_congr_left fun q hq => ?_
  simp only [Function.comp_apply]
  split_ifs with hid
  · exact (h q hq hid).symm
  · rfl

theorem map_putTicket {α : Type} (f : Ticket → α) (h : ∀ u ∈ s.tickets, u.id = t.id → f u = f t) :
    (s.putTicket t).tickets.map f = s.tickets.map f := by
  simp only [putTicket, List.map_map, beq_iff_eq]
  refine List.map_congr_left fun u hu => ?_
  simp only [Function.comp_apply]
  split_ifs with hid
  · exact (h u hu hid).symm
  · rfl

theorem map_id_countCompleted (now : Instant) (project : String) :
    (s.countCompleted now project).projects.map (·.id) = s.projects.map (·.id) := by
  simp only [countCompleted, List.map_map]
  refine List.map_congr_left fun p _ => ?_
  simp only [Function.comp_apply]
  split_ifs <;> rfl

/-- Of two rows put in the same place the second stays. -/
theorem putProject_putProject (h : p.id = q.id) : (s.putProject p).putProject q = s.putProject q := by
  simp only [putProject, List.map_map, beq_iff_eq]
  congr 1
  refine List.map_congr_left fun r _ => ?_
  simp only [Function.comp_apply]
  split_ifs <;> simp_all

/-- Under the key of a row that is put in, this row is found, if one was found there before. -/
theorem find?_put {β : Type} (key : β → String) {rows : List β} {b c : β}
    (h : rows.find? (key · == key b) = some c) :
    (rows.map fun r => if key r == key b then b else r).find? (key · == key b) = some b := by
  have hkey : ((key · == key b) ∘ fun r => if key r == key b then b else r) = (key · == key b) := by
    funext r
    simp only [Function.comp_apply, beq_iff_eq]
    split_ifs with hr
    · simp [hr]
    · rfl
  have hc : (key c == key b) = true := by simpa using List.find?_some h
  rw [List.find?_map, hkey, h, Option.map_some, if_pos hc]

theorem project?_putProject (h : s.project? p.id = some q) :
    (s.putProject p).project? p.id = some p :=
  find?_put Project.id h

theorem ticket?_putTicket (ht : s.ticket? id = some t) (hid : u.id = t.id) : (s.putTicket u).ticket? id = some u := by
  have huid : u.id = id := hid.trans (mem_of_ticket? ht).2
  rw [← huid] at ht ⊢
  exact find?_put Ticket.id ht

/-! ### Projects -/

theorem createProject_eq_ok {name description : String} {r : Store × Project} :
    s.createProject now id name description = .ok r ↔
      Text.isBlankText name = false ∧ (∀ p ∈ s.projects, p.id ≠ id) ∧
        ∃ p : Project, p = ⟨id, name, description, .analyzing, 0, 0, none, none, none, now, now⟩ ∧
          r = ({ s with projects := s.projects ++ [p] }, p) := by
  simp only [createProject, ite_error_eq_ok, exists_eq_left, Bool.not_eq_true, List.any_eq_false,
    beq_iff_eq, Except.ok.injEq, eq_comm (b := r), ne_eq]

theorem beginAnalysis_eq_ok {r : Store × ProjectChange} :
    s.beginAnalysis now id = .ok r ↔ ∃ p q, s.project? id = some p ∧
      q = { p with status := .analyzing, failure := none, updatedAt := now } ∧
      r = (s.putProject q, ⟨p.status, q⟩) := by
  simp only [beginAnalysis, bind_eq_ok, project_eq_ok, pure_eq_ok, exists_and_left, exists_eq_left]

theorem failAnalysis_eq_ok {detail : String} {r : Store × Project} :
    s.failAnalysis now id detail = .ok r ↔ ∃ p q, s.project? id = some p ∧
      q = { p with status := .analyzing, failure := some detail, updatedAt := now } ∧
      r = (s.putProject q, q) := by
  simp only [failAnalysis, bind_eq_ok, project_eq_ok, pure_eq_ok, exists_and_left, exists_eq_left]

theorem moveProject_eq_ok {target : ProjectStatus} {r : Store × ProjectChange} :
    s.moveProject now id target = .ok r ↔ ∃ p q, s.project? id = some p ∧
      p.status.canMoveTo target ∧ q = { p with status := target, updatedAt := now } ∧
      r = (s.putProject q, ⟨p.status, q⟩) := by
  simp only [moveProject, bind_eq_ok, project_eq_ok, ite_eq_ok, pure_eq_ok, exists_and_left,
    exists_eq_left]

/-! ### Tickets -/

theorem moveTicket_eq_ok {target : TicketStatus} {r : Store × TicketChange} :
    s.moveTicket now id target = .ok r ↔ ∃ t u, s.ticket? id = some t ∧
      t.status.canMoveTo target ∧ u = { t with status := target, updatedAt := now } ∧
      r = (if target = .completed then (s.putTicket u).countCompleted now t.project
        else s.putTicket u, ⟨t.status, u⟩) := by
  simp only [moveTicket, bind_eq_ok, ticket_eq_ok, ite_eq_ok, pure_eq_ok, exists_and_left,
    exists_eq_left]

theorem assignTicket_eq_ok {assignee : String} {r : Store × TicketChange} :
    s.assignTicket now id assignee = .ok r ↔ ∃ t u, s.ticket? id = some t ∧
      t.status.isTerminal = false ∧
      u = { t with
        assignee := some assignee, status := assignedStatus t.status, updatedAt := now } ∧
      r = (s.putTicket u, ⟨t.status, u⟩) := by
  simp only [assignTicket, bind_eq_ok, ticket_eq_ok, ite_error_eq_ok, pure_eq_ok, exists_and_left,
    exists_eq_left, Bool.not_eq_true]

theorem patchTicket_eq_ok {patch : Patch} {r : Store × Ticket} :
    s.patchTicket now id patch = .ok r ↔ patch.isEmpty = false ∧ ∃ t u, s.ticket? id = some t ∧
      u = { patch.apply t with updatedAt := now } ∧ u.estimatedHours.isNaN = false ∧
      r = (s.putTicket (u.stored now), u) := by
  simp only [patchTicket, bind_eq_ok, ticket_eq_ok, ite_error_eq_ok, pure_eq_ok, exists_and_left,
    exists_eq_left, Bool.not_eq_true]

end Backlog.Store
