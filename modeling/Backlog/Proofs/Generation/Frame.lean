import Backlog.Proofs.Generation.Success

/-! # Runs with any enricher

Of each ticket an enricher has to keep the frame. Dependencies and ranks look at no more than that, so they
stay right whatever an enricher does. The rest it can change: not only texts, but also the project, the
status and the hours of a ticket.

`run_with_any_enricher` says what this means for a run that comes to enrichment: it succeeds if and only if
all tickets are still of its project and their hours are numbers, and then it stores them as they are. -/

namespace Backlog

variable {s : Store} {now : Instant} {mint : ℕ → String} {p : Planner} {b : Brief}
  {q : Project} {draft : Plan} {description : String}

namespace Planner

open Run

/-- What is made of a draft in the end. -/
def made (p : Planner) (description : String) (draft : Plan) : List Ticket :=
  enriched draft.commit.tickets (p.enricher draft.commit.tickets description).result

/-- **When an enriched draft is stored**: its tickets are still of their project, and their hours are
numbers. -/
theorem exists_commit_made_iff (htakes : s.Takes draft.commit) (p : Planner) (now : Instant)
    (description : String) :
    (∃ s' r, s.commit now (p.enrich description draft).result.commit = .ok (s', r)) ↔
      ∀ u ∈ p.made description draft,
        u.project = draft.commit.project ∧ u.estimatedHours.isNaN = false := by
  constructor
  · rintro ⟨s', r, hcommit⟩ u hu
    obtain ⟨hown, q, -, hfits, -⟩ := Store.commit_eq_ok.mp hcommit
    exact ⟨hown u hu, Bool.eq_false_iff.mpr (hfits.hours u hu)⟩
  · intro h
    have hframes := map_frame_enriched draft.commit.tickets
      (p.enricher draft.commit.tickets description).result
    have hids := congrArg (List.map Ticket.Frame.id) hframes
    have hranks := congrArg (List.map Ticket.Frame.rank) hframes
    simp only [List.map_map] at hids hranks
    exact (Store.exists_commit_iff fun u hu => (h u hu).2).mpr
      (htakes.of_columns hids hranks fun u hu => (h u hu).1)

/-- **Whatever an enricher does**, the frames of a draft stay as they are: its result is used if and only if
it has them. A run that comes to enrichment then succeeds if and only if all tickets are still of its project
and their hours are numbers; it stores them as the enricher left them, their statuses too. If one has strayed
to another project, the run fails. -/
theorem run_with_any_enricher (hp : p.analyzer = analyze) (hs : s.Fresh mint)
    (hq : s.project? b.project = some q) (hfiles : b.files ≠ [])
    (hdescription : description = b.description.getD q.description)
    (hdraft : p.draft now mint b.project description b.files (p.extract b.files description).result =
      .ok draft) :
    (∀ ts us, preservesStructure ts us = true ↔ us.map Ticket.frame = ts.map Ticket.frame) ∧
    (p.made description draft).map Ticket.frame = draft.commit.tickets.map Ticket.frame ∧
    ((p.run s now mint b).outcome.error = none ↔
      ∀ u ∈ p.made description draft, u.project = b.project ∧ u.estimatedHours.isNaN = false) ∧
    ((p.run s now mint b).outcome.error = none →
      (p.run s now mint b).outcome.tickets = p.made description draft ∧
      (p.run s now mint b).store.ticketsOf b.project = (p.made description draft).map (·.stored now)) ∧
    ∀ u ∈ p.made description draft, u.project ≠ b.project →
      ∃ v ∈ p.made description draft, v.project ≠ b.project ∧
        (p.run s now mint b).outcome.error = some (.refused (.strayTicket v.id v.project)) := by
  subst hdescription
  have hplan := plan_eq_ok.mpr ⟨hfiles, draft, hdraft, rfl⟩
  have hown : draft.commit.project = b.project := project_of_draft hdraft
  have htakes := takes_draft hp (hs.putProject (begun q now)) (mem_ids_begun hq now) hdraft
  have hiff := exists_commit_made_iff htakes p now (b.description.getD q.description)
  rw [hown] at hiff
  rw [outcome_run_of_plan hq hplan, store_run_of_plan hq hplan]
  refine ⟨fun _ _ => preservesStructure_iff, map_frame_enriched _ _, ?_, fun hnone => ?_,
    fun u hu hstray => ?_⟩
  · rw [← hiff]
    exact error_finish_eq_none_iff
  · obtain ⟨s', r, hcommit⟩ := error_finish_eq_none_iff.mp hnone
    obtain ⟨-, htickets, hstore⟩ := finish_of_commit hcommit b.project
    rw [htickets, hstore]
    exact ⟨rfl, (Store.ticketsOf_commit hcommit b.project).trans (if_pos hown.symm)⟩
  · obtain ⟨v, hv, hproject, hcommit⟩ := Store.commit_of_stray
      (c := (p.enrich (b.description.getD q.description) draft).result.commit) ⟨u, hu, hown ▸ hstray⟩
      (s.putProject (begun q now)) now
    exact ⟨v, hv, hown ▸ hproject, finish_of_commit_error hcommit⟩

/-- A planner whose enricher marks tickets as done. -/
def closing : Planner where
  enricher := fun ts _ => .pure (.ok (ts.map fun t => { t with status := .completed }))

/-- A planner whose enricher gives tickets to another project. -/
def straying : Planner where
  enricher := fun ts _ => .pure (.ok (ts.map fun t => { t with project := "q" }))

theorem run_with_any_enricher_closing :
    (closing.run oneProject default mintTally ⟨"p", ["a.ts"], none⟩).outcome.error = none ∧
    ∃ draft, closing.draft default mintTally "p" "sells books" ["a.ts"] none = .ok draft ∧
      ((closing.run oneProject default mintTally ⟨"p", ["a.ts"], none⟩).store.ticketsOf "p").map
        Ticket.frame = draft.commit.tickets.map Ticket.frame := by
  have hnone : (closing.run oneProject default mintTally ⟨"p", ["a.ts"], none⟩).outcome.error = none := by
    decide +kernel
  have hq : oneProject.project? "p" = some oneProject.projects.head! := rfl
  obtain ⟨draft, hdraft⟩ : ∃ draft, closing.draft default mintTally "p" "sells books" ["a.ts"] none =
      .ok draft := exists_draft rfl oneProject_fresh.injective rfl
  obtain ⟨-, hframes, -, hstored, -⟩ := run_with_any_enricher (b := ⟨"p", ["a.ts"], none⟩) rfl
    oneProject_fresh hq (by simp) rfl hdraft
  refine ⟨hnone, draft, hdraft, ?_⟩
  rw [(hstored hnone).2, ← hframes, List.map_map]
  rfl

/-- Tickets that keep their frames may have changed in more than their texts: what is stored may be done
already, and a run may fail because its tickets have strayed. -/
theorem frames_kept_and_more_changed :
    preservesStructure [default] [{ (default : Ticket) with status := .completed, project := "q" }] = true ∧
    (closing.run oneProject default mintTally ⟨"p", ["a.ts"], none⟩).outcome.error = none ∧
    ((closing.run oneProject default mintTally ⟨"p", ["a.ts"], none⟩).store.ticketsOf "p").map
      (·.status) = [.completed] ∧
    (straying.run oneProject default mintTally ⟨"p", ["a.ts"], none⟩).outcome.error =
      some (.refused (.strayTicket "" "q")) := by
  decide +kernel

end Planner

end Backlog
