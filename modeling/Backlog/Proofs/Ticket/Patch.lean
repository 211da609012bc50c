import Backlog.Proofs.Json.Record
import Backlog.Proofs.Store.Lasting

/-! # What a patch sets

The names that a patch lists are those of the fields it has values for, in the order of the fields
(`changed_sublist`, `mem_changed`). A patched ticket, as it is stored, has these values in the fields of these names
and is as before in all others (`makes_stored`). -/

namespace Backlog

namespace Json

theorem names_sublist {σ : Type} (x : σ) : ∀ fields : List (RecordField σ),
    ((recordMembers fields x).map (·.1)).Sublist (fields.map (·.name))
  | [] => .slnil
  | f :: fields => by
    cases htake : f.take x with
    | none =>
      rw [recordMembers, List.filterMap_cons_none (by rw [htake]; rfl)]
      exact (names_sublist x fields).cons _
    | some v =>
      rw [recordMembers, List.filterMap_cons_some (by rw [htake]; rfl)]
      exact (names_sublist x fields).cons_cons _

end Json

namespace Patch

open Json (RecordField)

variable {α : Type} {p : Patch} {t : Ticket} {now : Instant}

/-! ### Names -/

theorem changed_sublist (p : Patch) : p.changed.Sublist (fields.map (·.name)) := Json.names_sublist p fields

theorem mem_changed {f : RecordField Patch} (hf : f ∈ fields) : f.name ∈ p.changed ↔ (f.take p).isSome := by
  have hnodup : (fields.map (·.name)).Nodup := by decide
  simp only [changed, List.mem_map, Json.mem_recordMembers]
  constructor
  · rintro ⟨m, ⟨g, hg, hname, htake⟩, hm⟩
    rw [← List.inj_on_of_nodup_map hnodup hg hf (hname.trans hm), htake]
    rfl
  · intro hsome
    obtain ⟨v, hv⟩ := Option.isSome_iff_exists.mp hsome
    exact ⟨(f.name, v), ⟨f, hf, rfl, hv⟩, rfl⟩

/-! ### Values -/

/-- **What becomes of a field**: it gets the value that is given if its name is listed, and is as before if not. -/
def Sets (changes : List String) (name : String) (given : Option α) (before after : α) : Prop :=
  if name ∈ changes then given = some after else after = before

/-- Hours that are given as they are kept. -/
def keptHours (p : Patch) : Option (Option Float) :=
  p.actualHours.map fun h => ((some h).filter fun h => !h.isNaN).map storedHours

/-- **What a patch makes of a ticket**, field by field: those that are listed have the values of the patch, as they are
kept, and all others are as before. -/
structure Makes (p : Patch) (changes : List String) (t u : Ticket) : Prop where
  names : changes.Sublist (fields.map (·.name))
  title : Sets changes "title" p.title t.title u.title
  description : Sets changes "description" p.description t.description u.description
  priority : Sets changes "priority" p.priority t.priority u.priority
  estimatedHours : Sets changes "estimated_hours" (p.estimatedHours.map storedHours) t.estimatedHours u.estimatedHours
  actualHours : Sets changes "actual_hours" p.keptHours t.actualHours u.actualHours
  branch : Sets changes "branch_name" (p.branch.map some) t.branch u.branch
  pullRequest : Sets changes "pr_url" (p.pullRequest.map some) t.pullRequest u.pullRequest
  commits : Sets changes "commit_count" p.commits t.commits u.commits
  rest : t = { u with
    title := t.title, description := t.description, priority := t.priority, estimatedHours := t.estimatedHours
    actualHours := t.actualHours, branch := t.branch, pullRequest := t.pullRequest, commits := t.commits
    updatedAt := t.updatedAt }

/-- A field that takes what the patch gives. -/
theorem sets_getD {f : RecordField Patch} (hf : f ∈ fields) {given : Option α}
    (hgiven : (f.take p).isSome = given.isSome) (before : α) :
    Sets p.changed f.name given before (given.getD before) := by
  rw [Sets, if_congr (mem_changed hf) rfl rfl, hgiven]
  cases given with
  | none => rfl
  | some a => rfl

/-- A field that may be absent, and takes what the patch gives. -/
theorem sets_orElse {f : RecordField Patch} (hf : f ∈ fields) {given : Option α}
    (hgiven : (f.take p).isSome = given.isSome) (before : Option α) :
    Sets p.changed f.name (given.map some) before (given <|> before) := by
  have hafter : (given <|> before) = (given.map some).getD before := by cases given <;> rfl
  rw [hafter]
  exact sets_getD hf (hgiven.trans Option.isSome_map.symm) before

/-- **A patched ticket has what the patch lists**, once it is stored. -/
theorem makes_stored (ht : t.Lasting) :
    p.Makes p.changed t (Ticket.stored now { p.apply t with updatedAt := now }) where
  names := p.changed_sublist
  title := sets_getD (f := fields[0]) (List.getElem_mem _) Option.isSome_map t.title
  description := sets_getD (f := fields[1]) (List.getElem_mem _) Option.isSome_map t.description
  priority := sets_getD (f := fields[2]) (List.getElem_mem _) Option.isSome_map t.priority
  estimatedHours := by
    have hafter : storedHours (p.estimatedHours.getD t.estimatedHours) =
        (p.estimatedHours.map storedHours).getD t.estimatedHours := by
      cases p.estimatedHours with
      | none => exact ht.durable.estimatedHours
      | some h => rfl
    show Sets _ _ _ _ (storedHours (p.estimatedHours.getD t.estimatedHours))
    rw [hafter]
    exact sets_getD (f := fields[3]) (List.getElem_mem _) (Option.isSome_map.trans Option.isSome_map.symm) _
  actualHours := by
    have hafter : ((p.actualHours <|> t.actualHours).filter fun h => !h.isNaN).map storedHours =
        p.keptHours.getD t.actualHours := by
      rw [keptHours]
      cases p.actualHours with
      | none => exact congrArg Ticket.actualHours (ht.durable.stored_eq now)
      | some h => rfl
    show Sets _ _ _ _ (((p.actualHours <|> t.actualHours).filter fun h => !h.isNaN).map storedHours)
    rw [hafter]
    exact sets_getD (f := fields[4]) (List.getElem_mem _) (Option.isSome_map.trans Option.isSome_map.symm) _
  branch := sets_orElse (f := fields[5]) (List.getElem_mem _) Option.isSome_map t.branch
  pullRequest := sets_orElse (f := fields[6]) (List.getElem_mem _) Option.isSome_map t.pullRequest
  commits := sets_getD (f := fields[7]) (List.getElem_mem _) Option.isSome_map t.commits
  rest := by
    have hcreated : t.createdAt.stored now = t.createdAt := if_pos ht.durable.createdAt
    simp only [Ticket.stored, apply, hcreated]

end Patch

end Backlog
