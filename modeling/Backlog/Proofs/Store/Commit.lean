import Backlog.Proofs.Graph.Built
import Backlog.Proofs.Store.Change
import Backlog.Store.Commit

/-! # What a commit does

The rows of a commit are put in one by one, and all are taken if and only if they fit the rows that are
there (`Fits`): the tickets and dependencies of other projects, since those of its own are taken out
before. `commit_eq_ok` says when a commit succeeds and which store it leaves. -/

namespace Backlog

/-- Two tickets that cannot stand in one store: they share an id, or a rank in one project. -/
def Ticket.Clash (t u : Ticket) : Prop :=
  t.id = u.id ∨ u.rank.isSome ∧ t.project = u.project ∧ t.rank = u.rank

namespace Store

variable {s s' : Store} {now : Instant} {c : Commit} {project : String}

/-! ### Rows of one kind -/

theorem insertTicket_eq_ok (rows : List Ticket) (t : Ticket) (r : List Ticket) :
    insertTicket now rows t = .ok r ↔
      ¬ t.estimatedHours.isNaN ∧ (∀ u ∈ rows, ¬ u.Clash t) ∧ r = rows ++ [t.stored now] := by
  simp only [insertTicket, ite_error_eq_ok, Except.ok.injEq, eq_comm (b := r), Bool.and_eq_true,
    List.any_eq_true, beq_iff_eq, Ticket.Clash]
  constructor
  · rintro ⟨hnan, hrank, hid, rfl⟩
    refine ⟨hnan, fun u hu hclash => ?_, rfl⟩
    rcases hclash with h | ⟨hsome, h⟩
    · exact hid ⟨u, hu, h⟩
    · exact hrank ⟨hsome, u, hu, h⟩
  · rintro ⟨hnan, hclash, rfl⟩
    refine ⟨hnan, ?_, ?_, rfl⟩
    · rintro ⟨hsome, u, hu, h⟩; exact hclash u hu (Or.inr ⟨hsome, h⟩)
    · rintro ⟨u, hu, h⟩; exact hclash u hu (Or.inl h)

theorem insertTickets_eq_ok {ts rows r : List Ticket} :
    ts.foldlM (insertTicket now) rows = .ok r ↔
      r = rows ++ ts.map (·.stored now) ∧ (∀ t ∈ ts, ¬ t.estimatedHours.isNaN) ∧
        (∀ u ∈ rows, ∀ t ∈ ts, ¬ u.Clash t) ∧ ts.Pairwise fun t u => ¬ t.Clash u :=
  foldlM_insert_eq_ok insertTicket_eq_ok ts rows r

theorem insertEdge_eq_ok (rows : List (String × Dependency)) (e : Dependency)
    (r : List (String × Dependency)) :
    insertEdge project rows e = .ok r ↔
      ¬ e.ticket = e.dependsOn ∧ (∀ f ∈ rows, ¬ Graph.SameEnds f.2 e) ∧
        r = rows ++ [(project, e)] := by
  simp only [insertEdge, ite_error_eq_ok, Except.ok.injEq, eq_comm (b := r), beq_iff_eq,
    List.any_eq_true, Bool.and_eq_true, Graph.SameEnds, not_exists, not_and]

theorem insertEdges_eq_ok {es : List Dependency} {rows r : List (String × Dependency)} :
    es.foldlM (insertEdge project) rows = .ok r ↔
      r = rows ++ es.map (project, ·) ∧ (∀ e ∈ es, ¬ e.ticket = e.dependsOn) ∧
        (∀ f ∈ rows, ∀ e ∈ es, ¬ Graph.SameEnds f.2 e) ∧
        es.Pairwise fun e f => ¬ Graph.SameEnds e f :=
  foldlM_insert_eq_ok insertEdge_eq_ok es rows r

theorem insertContext_eq_ok {rows r : List (String × Context)} {x : Context} :
    insertContext project rows x = .ok r ↔
      (∀ y ∈ rows, ¬ (y.1 = project ∧ y.2.kind = x.kind)) ∧ r = rows ++ [(project, x)] := by
  simp only [insertContext, ite_error_eq_ok, Except.ok.injEq, eq_comm (b := r), beq_iff_eq,
    List.any_eq_true, Bool.and_eq_true, not_exists, not_and]

theorem insertContexts_eq_ok {xs : List Context} {rows r : List (String × Context)} :
    xs.foldlM (insertContext project) rows = .ok r ↔
      r = rows ++ xs.map (project, ·) ∧
        (∀ y ∈ rows, ∀ x ∈ xs, ¬ (y.1 = project ∧ y.2.kind = x.kind)) ∧
        xs.Pairwise fun x y => x.kind ≠ y.kind := by
  have hput : ∀ (rows : List (String × Context)) (x : Context) (r : List (String × Context)),
      insertContext project rows x = .ok r ↔ ¬ False ∧
        (∀ y ∈ rows, ¬ (y.1 = project ∧ y.2.kind = x.kind)) ∧ r = rows ++ [(project, x)] := by
    simp only [insertContext_eq_ok, not_false_eq_true, true_and, implies_true]
  rw [foldlM_insert_eq_ok hput xs rows r]
  simp only [not_false_eq_true, implies_true, true_and, ne_eq]

/-! ### All rows of a commit -/

/-- **The rows of a commit fit a store.** -/
structure Fits (s : Store) (c : Commit) : Prop where
  hours : ∀ t ∈ c.tickets, ¬ t.estimatedHours.isNaN
  newTickets : ∀ u ∈ s.tickets, ∀ t ∈ c.tickets, ¬ u.Clash t
  tickets : c.tickets.Pairwise fun t u => ¬ t.Clash u
  loopless : ∀ e ∈ c.edges, ¬ e.ticket = e.dependsOn
  newEdges : ∀ f ∈ s.edges, ∀ e ∈ c.edges, ¬ Graph.SameEnds f.2 e
  edges : c.edges.Pairwise fun e f => ¬ Graph.SameEnds e f
  newContexts : ∀ y ∈ s.contexts, ∀ x ∈ c.contexts, ¬ (y.1 = c.project ∧ y.2.kind = x.kind)
  contexts : c.contexts.Pairwise fun x y => x.kind ≠ y.kind

/-- A store with the rows of a commit added. -/
def withRows (s : Store) (now : Instant) (c : Commit) : Store :=
  { s with
    tickets := s.tickets ++ c.tickets.map (·.stored now)
    edges := s.edges ++ c.edges.map (c.project, ·)
    contexts := s.contexts ++ c.contexts.map (c.project, ·) }

theorem insertAll_eq_ok : s.insertAll now c = .ok s' ↔ s.Fits c ∧ s' = s.withRows now c := by
  simp only [insertAll, bind_eq_ok, pure_eq_ok, insertTickets_eq_ok, insertEdges_eq_ok,
    insertContexts_eq_ok]
  constructor
  · rintro ⟨_, ⟨rfl, hhours, hnew, hts⟩, _, ⟨rfl, hloop, hnewe, hes⟩, _, ⟨rfl, hnewx, hxs⟩, rfl⟩
    exact ⟨⟨hhours, hnew, hts, hloop, hnewe, hes, hnewx, hxs⟩, rfl⟩
  · rintro ⟨h, rfl⟩
    exact ⟨_, ⟨rfl, h.hours, h.newTickets, h.tickets⟩, _, ⟨rfl, h.loopless, h.newEdges, h.edges⟩,
      _, ⟨rfl, h.newContexts, h.contexts⟩, rfl⟩

/-- A project for which a commit has been stored. -/
def reviewed (p : Project) (now : Instant) (c : Commit) : Project :=
  { p with
    status := .review, totalTickets := c.tickets.length, completedTickets := 0
    analyzedAt := some now, summary := some c.summary, failure := none, updatedAt := now }

/-- **A commit is stored** if and only if its tickets belong to its project, the project exists, and its
rows fit those of the other projects. -/
theorem commit_eq_ok {r : Store × Project} :
    s.commit now c = .ok r ↔
      (∀ t ∈ c.tickets, t.project = c.project) ∧ ∃ p, s.project? c.project = some p ∧
        (s.clear c.project).Fits c ∧
        r = (((s.clear c.project).withRows now c).putProject (reviewed p now c),
          reviewed p now c) := by
  unfold commit
  cases hstray : c.tickets.find? (·.project != c.project) with
  | some t =>
    have hbad := List.find?_some hstray
    simp only [bne_iff_ne] at hbad
    simp only [reduceCtorEq, false_iff, not_and]
    intro hall
    exact absurd (hall t (List.mem_of_find?_eq_some hstray)) hbad
  | none =>
    have hall : ∀ t ∈ c.tickets, t.project = c.project := by
      simpa using List.find?_eq_none.mp hstray
    simp only [bind_eq_ok, project_eq_ok, insertAll_eq_ok, pure_eq_ok]
    constructor
    · rintro ⟨p, hp, _, ⟨hfits, rfl⟩, rfl⟩; exact ⟨hall, p, hp, hfits, rfl⟩
    · rintro ⟨-, p, hp, hfits, rfl⟩; exact ⟨p, hp, _, ⟨hfits, rfl⟩, rfl⟩

/-! ### Commits that are not stored -/

section Refused
variable {e : StoreError}

theorem constraint_of_insertTicket {rows : List Ticket} {t : Ticket}
    (h : insertTicket now rows t = .error e) : ∃ k, e = .constraint k := by
  unfold insertTicket at h
  split_ifs at h <;> exact ⟨_, (Except.error.inj h).symm⟩

theorem constraint_of_insertEdge {rows : List (String × Dependency)} {d : Dependency}
    (h : insertEdge project rows d = .error e) : ∃ k, e = .constraint k := by
  unfold insertEdge at h
  split_ifs at h <;> exact ⟨_, (Except.error.inj h).symm⟩

theorem constraint_of_insertContext {rows : List (String × Context)} {x : Context}
    (h : insertContext project rows x = .error e) : ∃ k, e = .constraint k := by
  unfold insertContext at h
  split_ifs at h
  exact ⟨_, (Except.error.inj h).symm⟩

theorem constraint_of_insertAll (h : s.insertAll now c = .error e) : ∃ k, e = .constraint k := by
  simp only [insertAll, bind_eq_error] at h
  rcases h with h | ⟨_, -, h | ⟨_, -, h | ⟨_, -, h⟩⟩⟩
  · obtain ⟨t, -, rows, h⟩ := foldlM_eq_error h
    exact constraint_of_insertTicket h
  · obtain ⟨d, -, rows, h⟩ := foldlM_eq_error h
    exact constraint_of_insertEdge h
  · obtain ⟨x, -, rows, h⟩ := foldlM_eq_error h
    exact constraint_of_insertContext h
  · cases h

/-- **Why a commit is not stored**: a ticket of another project, no project, or a row that does not fit. -/
theorem commit_eq_error (h : s.commit now c = .error e) :
    (∃ t ∈ c.tickets, t.project ≠ c.project ∧ e = .strayTicket t.id t.project) ∨
      (s.project? c.project = none ∧ e = .projectMissing c.project) ∨ ∃ k, e = .constraint k := by
  unfold commit at h
  cases hstray : c.tickets.find? (·.project != c.project) with
  | some t =>
    rw [hstray] at h
    cases h
    exact Or.inl ⟨t, List.mem_of_find?_eq_some hstray, by simpa using List.find?_some hstray, rfl⟩
  | none =>
    rw [hstray] at h
    simp only [bind_eq_error, project_eq_error] at h
    rcases h with h | ⟨_, -, h | ⟨_, -, h⟩⟩
    · exact Or.inr (Or.inl h)
    · exact Or.inr (Or.inr (constraint_of_insertAll h))
    · cases h

/-- **A ticket of another project** is noticed before anything else. -/
theorem commit_of_stray (h : ∃ t ∈ c.tickets, t.project ≠ c.project) (s : Store) (now : Instant) :
    ∃ t ∈ c.tickets, t.project ≠ c.project ∧ s.commit now c = .error (.strayTicket t.id t.project) := by
  unfold commit
  cases hstray : c.tickets.find? (·.project != c.project) with
  | some t =>
    exact ⟨t, List.mem_of_find?_eq_some hstray, by simpa using List.find?_some hstray, rfl⟩
  | none =>
    obtain ⟨t, ht, hproject⟩ := h
    exact absurd (by simpa using List.find?_eq_none.mp hstray t ht) hproject

end Refused

/-! ### What is stored for a project -/

/-- The tickets of a project, in the order of writing. -/
def ticketsOf (s : Store) (project : String) : List Ticket :=
  s.tickets.filter (·.project == project)

/-- Rows of one project that take the place of its former ones. -/
theorem filter_replaced {β : Type} (key : β → String) {new : List β} {old : String}
    (hnew : ∀ b ∈ new, key b = old) (rows : List β) (project : String) :
    (rows.filter (key · != old) ++ new).filter (key · == project) =
      if project = old then new else rows.filter (key · == project) := by
  rw [List.filter_append, List.filter_filter]
  split_ifs with hp
  · subst hp
    rw [List.filter_eq_nil_iff.mpr (by simp), List.nil_append, List.filter_eq_self]
    simpa using hnew
  · have hnone : new.filter (key · == project) = [] := by
      refine List.filter_eq_nil_iff.mpr fun b hb => ?_
      rw [hnew b hb]
      simpa using fun h => hp h.symm
    rw [hnone, List.append_nil]
    refine List.filter_congr fun b _ => ?_
    by_cases hb : key b = project
    · simp [hb, hp]
    · simp [hb]

theorem map_snd_replaced {β : Type} (new : List β) (old : String) (rows : List (String × β))
    (project : String) :
    ((rows.filter (·.1 != old) ++ new.map (old, ·)).filter (·.1 == project)).map (·.2) =
      if project = old then new else (rows.filter (·.1 == project)).map (·.2) := by
  have hnew : ∀ b ∈ new.map (old, ·), b.1 = old := by simp
  rw [filter_replaced Prod.fst hnew rows project]
  split_ifs
  · simp [Function.comp_def]
  · rfl

section Committed
variable {p : Project} (h : s.commit now c = .ok (s', p))
include h

theorem ticketsOf_commit (project : String) :
    s'.ticketsOf project =
      if project = c.project then c.tickets.map (·.stored now) else s.ticketsOf project := by
  obtain ⟨hall, q, -, -, hr⟩ := commit_eq_ok.mp h
  cases hr
  refine filter_replaced Ticket.project (fun t ht => ?_) s.tickets project
  obtain ⟨u, hu, rfl⟩ := List.mem_map.mp ht
  exact hall u hu

theorem edgesOf_commit (project : String) :
    s'.edgesOf project = if project = c.project then c.edges else s.edgesOf project := by
  obtain ⟨-, q, -, -, hr⟩ := commit_eq_ok.mp h
  cases hr
  exact map_snd_replaced c.edges c.project s.edges project

theorem contextsOf_commit (project : String) :
    s'.contextsOf project = if project = c.project then c.contexts else s.contextsOf project := by
  obtain ⟨-, q, -, -, hr⟩ := commit_eq_ok.mp h
  cases hr
  exact map_snd_replaced c.contexts c.project s.contexts project

theorem project?_commit : s'.project? c.project = some p := by
  obtain ⟨-, q, hq, -, hr⟩ := commit_eq_ok.mp h
  cases hr
  have hid : (reviewed q now c).id = c.project := (mem_of_project? hq).2
  rw [← hid] at hq ⊢
  exact project?_putProject (s := (s.clear c.project).withRows now c) hq

theorem status_commit : p.status = .review := by
  obtain ⟨-, q, -, -, hr⟩ := commit_eq_ok.mp h
  cases hr
  rfl

end Committed

end Store

end Backlog
