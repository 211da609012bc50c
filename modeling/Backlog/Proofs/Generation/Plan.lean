import Backlog.Proofs.Generation.Enrichment
import Backlog.Proofs.Graph.Rules
import Backlog.Proofs.Store.Ranked

/-! # What is planned

The steps of planning one by one: the tickets of features (`synthesize_eq_ok`), their ranks
(`rankAll_eq_ok`), the draft (`draft_eq_ok`) and the plan after enrichment (`plan_eq_ok`). Ranks have 32 bits as
long as the number of tickets has (`rank_mod_of_rankAll`).

If dependencies are analyzed by the rules, what is planned is ranked (`ranked_of_plan`): ranks are places in
an execution order, the setup ticket is first there, and enrichment leaves each ticket in its seat
(`map_seat_enriched`). -/

namespace Backlog

variable {now : Instant} {mint : Nat → String} {project description : String} {files : List String}
  {fs : List Feature} {ts us : List Ticket} {t u : Ticket}

namespace Synthesis

theorem synthesize_eq_ok :
    synthesize project description now mint fs = .ok ts ↔
      check [] fs = .ok () ∧ ts = setupTicket project description now (mint 0) ::
        fs.mapIdx fun i f => featureTicket project now (mint (i + 1)) f := by
  simp only [synthesize, bind_eq_ok, pure_eq_ok]
  constructor
  · rintro ⟨_, h, rfl⟩; exact ⟨h, rfl⟩
  · rintro ⟨h, rfl⟩; exact ⟨_, h, rfl⟩

/-- One of the tickets prepares the ground for the others. -/
theorem filter_isSetup (h : synthesize project description now mint fs = .ok ts) :
    ts.filter (·.isSetup) = [setupTicket project description now (mint 0)] := by
  obtain ⟨-, rfl⟩ := synthesize_eq_ok.mp h
  have hnone : (fs.mapIdx fun i f => featureTicket project now (mint (i + 1)) f).filter
      (·.isSetup) = [] := by
    refine List.filter_eq_nil_iff.mpr fun t ht => ?_
    obtain ⟨i, _, rfl⟩ := List.mem_mapIdx.mp ht
    simp [Ticket.isSetup, featureTicket]
  rw [List.filter_cons_of_pos (by rfl), hnone]

end Synthesis

namespace Planner

variable {sorted : List String}

/-! ### Ranks -/

theorem placeOf?_eq_none {id : String} : placeOf? id sorted = none ↔ id ∉ sorted := by
  induction sorted with
  | nil => simp [placeOf?]
  | cons x xs ih =>
    rw [List.mem_cons, not_or, ← ih, placeOf?]
    cases placeOf? id xs <;> simp [eq_comm (a := id)]

theorem placeOf?_of_nodup {id : String} (h : sorted.Nodup) (hid : id ∈ sorted) :
    placeOf? id sorted = some (sorted.idxOf id) := by
  induction sorted with
  | nil => cases hid
  | cons x xs ih =>
    obtain ⟨hx, hxs⟩ := List.nodup_cons.mp h
    rw [placeOf?]
    rcases List.mem_cons.mp hid with rfl | hid
    · rw [placeOf?_eq_none.mpr hx, List.idxOf_cons_self]
      exact if_pos (beq_self_eq_true _)
    · have hne : x ≠ id := fun heq => hx (heq ▸ hid)
      rw [ih hxs hid, List.idxOf_cons_ne _ hne]

/-- A ticket with its place in an order as rank. -/
def placed (sorted : List String) (t : Ticket) : Ticket := { t with rank := placeOf? t.id sorted }

theorem rankTicket_eq_ok (t u : Ticket) :
    rankTicket sorted t = .ok u ↔ t.id ∈ sorted ∧ u = placed sorted t := by
  unfold rankTicket placed
  cases h : placeOf? t.id sorted with
  | none =>
    have hnot : t.id ∉ sorted := placeOf?_eq_none.mp h
    simp [hnot]
  | some i =>
    have hmem : t.id ∈ sorted := by
      by_contra hnot
      rw [placeOf?_eq_none.mpr hnot] at h
      cases h
    simp [hmem, eq_comm]

theorem rankAll_eq_ok :
    rankAll sorted ts = .ok us ↔
      (∀ t ∈ ts, t.id ∈ sorted) ∧ us = (ts.map (placed sorted)).mergeSort rankAtMost := by
  simp only [rankAll, bind_eq_ok, pure_eq_ok, mapM_eq_ok rankTicket_eq_ok]
  constructor
  · rintro ⟨_, ⟨h, rfl⟩, rfl⟩; exact ⟨h, rfl⟩
  · rintro ⟨h, rfl⟩; exact ⟨_, ⟨h, rfl⟩, rfl⟩

theorem rankAll_eq_error {e : GenerationError} (h : rankAll sorted ts = .error e) :
    ∃ t ∈ ts, e = .unranked t.id := by
  rcases bind_eq_error.mp h with h | ⟨_, -, h⟩
  · obtain ⟨t, ht, h⟩ := mapM_eq_error h
    unfold rankTicket at h
    split at h
    · cases h
    · cases h
      exact ⟨t, ht, rfl⟩
  · cases h

theorem lt_length_of_placeOf? {id : String} {i : ℕ} (h : placeOf? id sorted = some i) : i < sorted.length := by
  induction sorted generalizing i with
  | nil => cases h
  | cons x xs ih =>
    rw [placeOf?] at h
    cases hplace : placeOf? id xs with
    | some j =>
      rw [hplace] at h
      cases h
      exact Nat.succ_lt_succ (ih hplace)
    | none =>
      rw [hplace] at h
      split_ifs at h
      cases h
      exact Nat.zero_lt_succ _

/-- **Ranks have 32 bits** if the order is no longer than that: cut to this size they are what they were. -/
theorem rank_mod_of_rankAll (h : rankAll sorted ts = .ok us) (hsize : sorted.length ≤ word32) :
    ∀ u ∈ us, u.rank.map (· % word32) = u.rank := by
  obtain ⟨-, rfl⟩ := rankAll_eq_ok.mp h
  intro u hu
  obtain ⟨t, -, rfl⟩ := List.mem_map.mp (List.mem_mergeSort.mp hu)
  show (placeOf? t.id sorted).map (· % word32) = placeOf? t.id sorted
  cases hplace : placeOf? t.id sorted with
  | none => rfl
  | some i => exact congrArg some (Nat.mod_eq_of_lt ((lt_length_of_placeOf? hplace).trans_le hsize))

theorem perm_of_rankAll (h : rankAll sorted ts = .ok us) : us.Perm (ts.map (placed sorted)) := by
  obtain ⟨-, rfl⟩ := rankAll_eq_ok.mp h
  exact List.mergeSort_perm _ _

theorem map_idxOf_self (h : sorted.Nodup) : sorted.map sorted.idxOf = List.range sorted.length := by
  refine List.ext_getElem (by simp) fun i hi _ => ?_
  rw [List.getElem_map, List.getElem_range, h.idxOf_getElem]

theorem rank_placed {g : Graph} (hg : Graph.ofTickets ts = .ok g) (ho : g.ExecutionOrder sorted) (ht : t ∈ ts) :
    (placed sorted t).rank = some (sorted.idxOf t.id) := by
  refine placeOf?_of_nodup (ho.nodup (Graph.wellFormed_ofTickets hg)) (ho.perm.mem_iff.mpr ?_)
  rw [Graph.nodes_ofTickets hg]
  exact List.mem_map_of_mem ht

/-- **Tickets in an execution order are ranked**, if one of them prepares the ground for the others. -/
theorem ranked_of_rankAll {g : Graph} (hg : Graph.ofTickets ts = .ok g)
    (hts : ts.filter (·.isSetup) = [t]) (ho : g.ExecutionOrder sorted)
    (h : rankAll sorted ts = .ok us) : Ranked us g.edges where
  ranks := by
    have hlen : us.length = sorted.length := by
      rw [(perm_of_rankAll h).length_eq, ho.perm.length_eq, Graph.nodes_ofTickets hg,
        List.length_map, List.length_map]
    have hnd := ho.nodup (Graph.wellFormed_ofTickets hg)
    have hids : (ts.map (·.id)).Perm sorted := Graph.nodes_ofTickets hg ▸ ho.perm.symm
    calc
      List.Perm (us.map (·.rank)) ((ts.map (placed sorted)).map (·.rank)) :=
        (perm_of_rankAll h).map _
      _ = (ts.map (·.id)).map (fun id => some (sorted.idxOf id)) := by
        rw [List.map_map, List.map_map]
        exact List.map_congr_left fun t ht => rank_placed hg ho ht
      List.Perm _ (sorted.map (fun id => some (sorted.idxOf id))) := hids.map _
      _ = (List.range us.length).map some := by
        rw [hlen, ← map_idxOf_self hnd, List.map_map]; rfl
  setup := by
    have hmem : t ∈ ts.filter (·.isSetup) := by rw [hts]; exact List.mem_singleton_self t
    obtain ⟨ht, hsetup⟩ := List.mem_filter.mp hmem
    have hfirst : sorted.idxOf t.id = 0 := by
      have hhead := Graph.head?_sorted hg ht hsetup ho
      cases sorted with
      | nil => cases hhead
      | cons x rest =>
        cases hhead
        exact List.idxOf_cons_self
    have hperm := ((perm_of_rankAll h).filter (·.isSetup)).map (·.rank)
    have hone : ((ts.map (placed sorted)).filter (·.isSetup)).map (·.rank) = [some 0] := by
      have hplace := rank_placed hg ho ht
      rw [hfirst] at hplace
      rw [List.filter_map, List.map_map]
      show (ts.filter (·.isSetup)).map (fun t => (placed sorted t).rank) = [some 0]
      rw [hts, List.map_singleton, hplace]
    rw [hone] at hperm
    exact List.perm_singleton.mp hperm
  loopless := by
    intro e he
    have hwf := Graph.wellFormed_ofTickets hg
    exact hwf.loopless e (hwf.mem_edges.mp he)
  edges := by
    have hwf := Graph.wellFormed_ofTickets hg
    have hplaced : ∀ id ∈ g.nodes, ∃ t ∈ us, t.id = id ∧ t.rank = some (sorted.idxOf id) := by
      intro id hid
      rw [Graph.nodes_ofTickets hg] at hid
      obtain ⟨t, ht, rfl⟩ := List.mem_map.mp hid
      exact ⟨placed sorted t, (perm_of_rankAll h).mem_iff.mpr (List.mem_map_of_mem ht), rfl,
        rank_placed hg ho ht⟩
    intro e he
    have hedge : g.Edge e.ticket e.dependsOn :=
      Graph.edge_iff.mpr ⟨e, hwf.mem_edges.mp he, rfl, rfl⟩
    obtain ⟨t, ht, hti, htr⟩ := hplaced _ (hwf.left_mem hedge)
    obtain ⟨u, hu, hui, hur⟩ := hplaced _ (hwf.right_mem hedge)
    exact ⟨t, ht, u, hu, hti, hui, _, _, htr, hur, ho.before _ _ hedge⟩

/-! ### Drafts and plans -/

theorem draft_eq_ok {p : Planner} {found : Option Findings} {plan : Plan} :
    p.draft now mint project description files found = .ok plan ↔
      ∃ ts a us, Synthesis.synthesize project description now mint
          ((found.map (·.features)).getD []) = .ok ts ∧
        p.analyzer ts = .ok a ∧ a.cyclic = false ∧ rankAll a.sorted ts = .ok us ∧
        plan = assemble project files found a us := by
  simp only [draft, bind_eq_ok, mapError_eq_ok, ite_error_eq_ok, pure_eq_ok, Bool.not_eq_true,
    exists_and_left]

/-- Why no draft is made: features are refused, the graph cannot be analyzed or has cycles, or a ticket
is missing in the order. -/
theorem draft_eq_error {p : Planner} {found : Option Findings} {e : GenerationError}
    (h : p.draft now mint project description files found = .error e) :
    (∃ r, e = .features r) ∨ (∃ e', e = .ofGraph e') ∨ (∃ a : Analysis, e = .cyclic a.cycles) ∨
      ∃ t, e = .unranked t := by
  simp only [draft, bind_eq_error, mapError_eq_error] at h
  rcases h with ⟨r, -, rfl⟩ | ⟨ts, -, ⟨e', -, rfl⟩ | ⟨a, -, h⟩⟩
  · exact Or.inl ⟨r, rfl⟩
  · exact Or.inr (Or.inl ⟨e', rfl⟩)
  · split_ifs at h
    · cases h
      exact Or.inr (Or.inr (Or.inl ⟨a, rfl⟩))
    · rcases bind_eq_error.mp h with h | ⟨us, -, h⟩
      · obtain ⟨t, -, rfl⟩ := rankAll_eq_error h
        exact Or.inr (Or.inr (Or.inr ⟨t.id, rfl⟩))
      · cases h

theorem map_seat_enriched (ts : List Ticket) (r : Except EnrichmentFailure (List Ticket)) :
    (enriched ts r).map Ticket.seat = ts.map Ticket.seat := by
  have hseats := congrArg (List.map fun f : Ticket.Frame => (⟨f.id, f.type, f.rank⟩ : Ticket.Seat))
    (map_frame_enriched ts r)
  rw [List.map_map, List.map_map] at hseats
  exact hseats

theorem result_plan {p : Planner} :
    (p.plan now mint project description files).result =
      if files = [] then .error .noFiles
      else (p.draft now mint project description files (p.extract files description).result).map
        fun draft => (p.enrich description draft).result := by
  unfold Planner.plan
  by_cases hfiles : files = []
  · simp [hfiles, Llm.Consultation.pure]
  · rw [if_neg (by simpa using hfiles), if_neg hfiles]
    dsimp only
    cases p.draft now mint project description files (p.extract files description).result <;> rfl

theorem plan_eq_ok {p : Planner} {plan : Plan} :
    (p.plan now mint project description files).result = .ok plan ↔
      files ≠ [] ∧ ∃ draft,
        p.draft now mint project description files (p.extract files description).result = .ok draft ∧
        plan = (p.enrich description draft).result := by
  simp only [result_plan, ite_error_eq_ok, map_eq_ok, ne_eq, eq_comm (b := plan)]

theorem project_of_draft {p : Planner} {found : Option Findings} {draft : Plan}
    (h : p.draft now mint project description files found = .ok draft) :
    draft.commit.project = project := by
  obtain ⟨ts, a, us, -, -, -, -, rfl⟩ := draft_eq_ok.mp h
  rfl

theorem project_of_plan {p : Planner} {plan : Plan}
    (h : (p.plan now mint project description files).result = .ok plan) :
    plan.commit.project = project := by
  obtain ⟨-, draft, hdraft, rfl⟩ := plan_eq_ok.mp h
  show draft.commit.project = project
  exact project_of_draft hdraft

theorem plan_eq_error {p : Planner} {e : GenerationError} :
    (p.plan now mint project description files).result = .error e ↔
      files = [] ∧ e = .noFiles ∨ files ≠ [] ∧
        p.draft now mint project description files (p.extract files description).result = .error e := by
  rw [result_plan]
  by_cases hfiles : files = []
  · simp [hfiles, eq_comm]
  · simp [hfiles, map_eq_error]

theorem plan_ne_projectMissing {p : Planner} (id : String) :
    (p.plan now mint project description files).result ≠ .error (.projectMissing id) := by
  intro h
  rcases plan_eq_error.mp h with ⟨-, h⟩ | ⟨-, h⟩
  · cases h
  · rcases draft_eq_error h with ⟨r, h⟩ | ⟨e, h⟩ | ⟨a, h⟩ | ⟨t, h⟩
    · cases h
    · cases e <;> cases h
    · cases h
    · cases h

/-- **What is planned is ranked**, whatever is extracted and however it is enriched. -/
theorem ranked_of_plan {p : Planner} (hp : p.analyzer = analyze) {plan : Plan}
    (h : (p.plan now mint project description files).result = .ok plan) : plan.commit.Ranked := by
  obtain ⟨-, draft, hdraft, rfl⟩ := plan_eq_ok.mp h
  obtain ⟨ts, a, us, hts, ha, -, hus, rfl⟩ := draft_eq_ok.mp hdraft
  rw [hp] at ha
  obtain ⟨g, hg, rfl⟩ := analyze_eq_ok.mp ha
  have ho := Graph.executionOrder_postOrder (Graph.wellFormed_ofTickets hg)
    (Graph.acyclic_ofTickets hg)
  have hranked := ranked_of_rankAll hg (Synthesis.filter_isSetup hts) ho hus
  exact hranked.congr (map_seat_enriched us _)

end Planner

end Backlog
