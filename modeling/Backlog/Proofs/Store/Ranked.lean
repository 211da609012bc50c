import Backlog.Proofs.Store.Step
import Mathlib.Data.List.Range

/-! # Ranked backlogs

The tickets of a project are ranked if they are numbered from 0 in an execution order that starts with their
only setup ticket (`Ranked`). Work on tickets keeps them ranked, since it leaves their seats alone
(`Ranked.congr`), and so do commits of ranked tickets; hence in every store that such steps lead to the
tickets of each project are ranked (`Orderly.of_reachable`). -/

namespace Backlog

variable {ts us : List Ticket} {es : List Dependency}

/-- **Tickets in the order of their ranks.** -/
structure Ranked (ts : List Ticket) (es : List Dependency) : Prop where
  ranks : (ts.map (·.rank)).Perm ((List.range ts.length).map some)
  setup : (ts.filter (·.isSetup)).map (·.rank) = [some 0]
  loopless : ∀ e ∈ es, e.ticket ≠ e.dependsOn
  edges : ∀ e ∈ es, ∃ t ∈ ts, ∃ u ∈ ts, t.id = e.ticket ∧ u.id = e.dependsOn ∧
    ∃ i j, t.rank = some i ∧ u.rank = some j ∧ j < i

/-- Whether tickets are ranked can be told from their seats. -/
theorem Ranked.congr (h : Ranked ts es) (hs : us.map Ticket.seat = ts.map Ticket.seat) :
    Ranked us es where
  ranks := by
    have hranks := congrArg (List.map Ticket.Seat.rank) hs
    have hlen := congrArg List.length hs
    simp only [List.map_map, List.length_map] at hranks hlen
    rw [hlen]
    exact hranks ▸ h.ranks
  setup := by
    have hsetup := congrArg (fun seats => (seats.filter (·.type == .setup)).map Ticket.Seat.rank) hs
    simp only [List.filter_map, List.map_map] at hsetup
    exact hsetup.trans h.setup
  loopless := h.loopless
  edges := by
    have hseat : ∀ t ∈ ts, ∃ t' ∈ us, t'.seat = t.seat := by
      intro t ht
      rw [← List.mem_map, hs]
      exact List.mem_map_of_mem ht
    intro e he
    obtain ⟨t, ht, u, hu, hti, hui, i, j, hi, hj, hlt⟩ := h.edges e he
    obtain ⟨t', ht', htt⟩ := hseat t ht
    obtain ⟨u', hu', huu⟩ := hseat u hu
    exact ⟨t', ht', u', hu', (congrArg Ticket.Seat.id htt).trans hti,
      (congrArg Ticket.Seat.id huu).trans hui, i, j, (congrArg Ticket.Seat.rank htt).trans hi,
      (congrArg Ticket.Seat.rank huu).trans hj, hlt⟩

/-- **Ranked tickets never wait for themselves.** -/
theorem Ranked.acyclic (h : Ranked ts es) (hid : (ts.map (·.id)).Nodup) :
    (⟨ts.map (·.id), es⟩ : Graph).Acyclic := by
  refine Graph.acyclic_of_measure (fun t => t.rank.getD 0)
    (fun _ ht _ hu => List.inj_on_of_nodup_map hid ht hu) fun x y hxy => ?_
  obtain ⟨e, he, rfl, rfl⟩ := Graph.edge_iff.mp hxy
  obtain ⟨t, ht, u, hu, hti, hui, i, j, hi, hj, hlt⟩ := h.edges e he
  exact ⟨t, ht, u, hu, hti, hui, by simpa [hi, hj] using hlt⟩

/-- The tickets of a commit are ranked. -/
def Commit.Ranked (c : Commit) : Prop := Backlog.Ranked c.tickets c.edges

namespace Store

variable {s s' : Store} {project : String}

/-- **An orderly store**: what is stored for a project, if anything, is ranked. -/
def Orderly (s : Store) : Prop :=
  ∀ project, s.ticketsOf project = [] ∧ s.edgesOf project = [] ∨
    Ranked (s.ticketsOf project) (s.edgesOf project)

theorem map_seat_ticketsOf (s : Store) (project : String) :
    (s.ticketsOf project).map Ticket.seat =
      ((s.tickets.map Ticket.place).filter (·.1 == project)).map (·.2) := by
  rw [List.filter_map, List.map_map]
  rfl

theorem Orderly.step (h : s.Orderly) (hs : s.Keyed) (hstep : Step Commit.Ranked s s') :
    s'.Orderly := by
  intro project
  rcases hstep.rows_eq_or_commit hs with ⟨hplaces, hedges, -⟩ | ⟨now, c, p, hc, hcommit⟩
  · have hseats : (s'.ticketsOf project).map Ticket.seat = (s.ticketsOf project).map Ticket.seat := by
      rw [map_seat_ticketsOf, hplaces, ← map_seat_ticketsOf]
    have hes : s'.edgesOf project = s.edgesOf project := by rw [edgesOf, hedges]; rfl
    rw [hes]
    rcases h project with ⟨hts, hnone⟩ | hranked
    · rw [hts] at hseats
      exact Or.inl ⟨List.map_eq_nil_iff.mp hseats, hnone⟩
    · exact Or.inr (hranked.congr hseats)
  · rw [ticketsOf_commit hcommit, edgesOf_commit hcommit]
    split_ifs
    · refine Or.inr (Ranked.congr hc ?_)
      rw [List.map_map]
      rfl
    · exact h project

/-- **In a store that steps lead to**, with commits of ranked tickets only, all tickets are ranked. -/
theorem Orderly.of_reachable (h : Reachable Commit.Ranked s) : s.Orderly := by
  induction h with
  | refl => exact fun _ => Or.inl ⟨rfl, rfl⟩
  | tail hr hstep ih => exact ih.step (Keyed.of_reachable hr) hstep

end Store

end Backlog
