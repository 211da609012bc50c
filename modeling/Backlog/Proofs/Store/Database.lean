import Backlog.Proofs.Store.Row
import Backlog.Proofs.Store.Transaction
import Backlog.Store.Database

/-! # The tables follow the store

What a commit does to the tables that hold a store is what it does to the store (`commit_ofStore`), but for the
number of its tickets, which the tables keep in 32 bits (`totalTickets_of_commit`); and a query answers what the
store holds (`ticket?_ofStore`, `edgesOf_ofStore` and the like). For each kind of row the rules of its table say
when the store takes a record (`insertRow_ticket` and the like); from there it goes by the recursion over the rows
of the commit (`foldlM_map`). -/

namespace Backlog

variable {s : Store} {now : Instant} {c : Commit}

/-! ### Rows put in -/

namespace Column

theorem same_text (s t : String) : (text s).same (text t) = (s == t) := rfl

theorem same_rank (m n : Option ℕ) : (ofOption ofNat m).same (ofOption ofNat n) = (n.isSome && m == n) := by
  rcases m with _ | m <;> rcases n with _ | n
  · rfl
  · rfl
  · rfl
  · simp [ofOption, ofNat, same]

end Column

open Column

theorem insertRow_cons {rules : List (Rule × Constraint)} {rule : Rule} {k : Constraint}
    {rows : List Row} {r : Row} :
    insertRow ((rule, k) :: rules) rows r =
      if rule.admits rows r then insertRow rules rows r else .error (.constraint k) := by
  rw [insertRow, List.find?_cons]
  cases rule.admits rows r <;> rfl

theorem insertRow_nil {rows : List Row} {r : Row} : insertRow [] rows r = .ok (rows ++ [r]) := rfl

theorem admits_unique {α : Type} {is : List ℕ} {row : α → Row} {as : List α} {r : Row} (same : α → Bool)
    (h : ∀ a, (is.all fun i => ((row a).getD i .null).same (r.getD i .null)) = same a) :
    (Rule.unique is).admits (as.map row) r = !as.any same := by
  rw [Rule.admits, List.any_map]
  exact congrArg (fun f => !as.any f) (funext h)

theorem admits_present_row (rows : List Row) (t : Ticket) :
    (Rule.present 9).admits rows t.row = !t.estimatedHours.isNaN := by
  have hcolumn : t.row.getD 9 .null = ofHours t.estimatedHours := rfl
  rw [Rule.admits, hcolumn, ofHours]
  cases t.estimatedHours.isNaN <;> rfl

theorem insertRow_ticket {t : Ticket} (ht : t.stored now = t) (rows : List Ticket) :
    insertRow Ticket.rules (rows.map Ticket.row) t.row =
      (Store.insertTicket now rows t).map (·.map Ticket.row) := by
  have hid : (Rule.unique [0]).admits (rows.map Ticket.row) t.row = !rows.any (·.id == t.id) :=
    admits_unique _ fun u => by simp [Ticket.row, same_text]
  have hrank : (Rule.unique [1, 11]).admits (rows.map Ticket.row) t.row =
      !(t.rank.isSome && rows.any fun u => u.project == t.project && u.rank == t.rank) := by
    rw [admits_unique (fun u => u.project == t.project && (t.rank.isSome && u.rank == t.rank))
      fun u => by simp [Ticket.row, same_text, same_rank]]
    cases t.rank.isSome <;> simp
  rw [Ticket.rules, insertRow_cons, insertRow_cons, insertRow_cons, insertRow_nil, hid, hrank, admits_present_row,
    Store.insertTicket, ht]
  cases t.estimatedHours.isNaN
  · cases (t.rank.isSome && rows.any fun u => u.project == t.project && u.rank == t.rank)
    · cases rows.any (·.id == t.id)
      · simp [Except.map]
      · rfl
    · rfl
  · rfl

theorem insertRow_edge (project : String) (e : Dependency) (rows : List (String × Dependency)) :
    insertRow Dependency.rules (rows.map fun r => r.2.row r.1) (e.row project) =
      (Store.insertEdge project rows e).map (·.map fun r => r.2.row r.1) := by
  have hloop : (Rule.distinct 1 2).admits (rows.map fun r => r.2.row r.1) (e.row project) =
      !(e.ticket == e.dependsOn) := rfl
  have hedge : (Rule.unique [1, 2]).admits (rows.map fun r => r.2.row r.1) (e.row project) =
      !rows.any fun r => r.2.ticket == e.ticket && r.2.dependsOn == e.dependsOn :=
    admits_unique _ fun r => by simp [Dependency.row, same_text]
  rw [Dependency.rules, insertRow_cons, insertRow_cons, insertRow_nil, hloop, hedge, Store.insertEdge]
  cases e.ticket == e.dependsOn
  · cases rows.any fun r => r.2.ticket == e.ticket && r.2.dependsOn == e.dependsOn
    · simp [Except.map]
    · rfl
  · rfl

theorem insertRow_context (project : String) (x : Context) (rows : List (String × Context)) :
    insertRow Context.rules (rows.map fun r => r.2.row r.1) (x.row project) =
      (Store.insertContext project rows x).map (·.map fun r => r.2.row r.1) := by
  have hkind : (Rule.unique [0, 1]).admits (rows.map fun r => r.2.row r.1) (x.row project) =
      !rows.any fun r => r.1 == project && r.2.kind == x.kind :=
    admits_unique _ fun r => by simp [Context.row, same_text]
  rw [Context.rules, insertRow_cons, insertRow_nil, hkind, Store.insertContext]
  cases rows.any fun r => r.1 == project && r.2.kind == x.kind
  · simp [Except.map]
  · rfl

/-! ### Commits -/

/-- **A commit that is read back as it was written.** -/
structure Commit.Kept (c : Commit) : Prop where
  durable : ∀ t ∈ c.tickets, t.Durable
  tickets : ∀ t ∈ c.tickets, t.Sized
  contexts : ∀ x ∈ c.contexts, x.Kept
  summary : c.summary.Sized

namespace Database

theorem clear_ofStore (s : Store) (project : String) : (ofStore s).clear project = ofStore (s.clear project) := by
  simp only [clear, ofStore, Store.clear, List.filter_map]
  rfl

theorem insertAll_ofStore (hc : c.Kept) (s : Store) (now : Instant) :
    (ofStore s).insertAll c = (s.insertAll now c).map ofStore := by
  have htickets := foldlM_map Ticket.row c.tickets (fun t ht =>
    insertRow_ticket ((hc.durable t ht).stored_eq now)) s.tickets
  have hedges := foldlM_map (fun e => e.row c.project) c.edges
    (fun e _ => insertRow_edge c.project e) s.edges
  have hcontexts := foldlM_map (fun x => x.row c.project) c.contexts
    (fun x _ => insertRow_context c.project x) s.contexts
  unfold insertAll Store.insertAll
  simp only [ofStore] at *
  rw [htickets, hedges, hcontexts]
  rcases c.tickets.foldlM (Store.insertTicket now) s.tickets with e | tickets
  · rfl
  · rcases c.edges.foldlM (Store.insertEdge c.project) s.edges with e | edges
    · rfl
    · rcases c.contexts.foldlM (Store.insertContext c.project) s.contexts with e | contexts <;> rfl

theorem project?_ofStore {id : String} (hp : ∀ p, s.project? id = some p → p.Sized) :
    (ofStore s).project? now id = .ok ((s.project? id).map (·.stored now)) := by
  have hfind : (ofStore s).projects.find? (·.holds 0 id) = (s.project? id).map Project.row := List.find?_map
  rw [project?, hfind]
  cases h : s.project? id with
  | none => rfl
  | some p =>
    simp only [Option.map_some, Project.ofRow_row (hp p h)]
    rfl

theorem project_ofStore {id : String} (hp : ∀ p, s.project? id = some p → p.Sized) :
    (ofStore s).project now id = ((s.project id).map (·.stored now)).mapError .refused := by
  rw [project, project?_ofStore hp, Store.project]
  cases s.project? id <;> rfl

theorem updateProject_ofStore (hs : s.Keyed) {p : Project} (hp : s.project? c.project = some p) :
    (ofStore s).updateProject c.project (reviewed now c) = ofStore (s.putProject (Store.reviewed p now c)) := by
  rw [hs.putProject_eq hp (Store.reviewed · now c) rfl]
  simp only [updateProject, ofStore, List.map_map]
  congr 1
  refine List.map_congr_left fun q _ => ?_
  have hholds : q.row.holds 0 c.project = (q.id == c.project) := rfl
  simp only [Function.comp_apply, hholds, beq_iff_eq]
  split_ifs
  · rfl
  · rfl

theorem project?_putProject_reviewed {p : Project} (hp : s.project? c.project = some p) (now : Instant) :
    (s.putProject (Store.reviewed p now c)).project? c.project = some (Store.reviewed p now c) := by
  have hid : (Store.reviewed p now c).id = c.project := (Store.mem_of_project? hp).2
  rw [← hid] at hp ⊢
  exact Store.project?_putProject hp

theorem sized_reviewed {p : Project} (hp : p.Sized) (hnow : now.Proper) (hc : c.Kept) :
    (Store.reviewed p now c).Sized where
  completedTickets := show 0 < word32 by decide
  analyzedAt t ht := Option.some.inj ht ▸ hnow
  summary s hs := Option.some.inj hs ▸ hc.summary
  createdAt := hp.createdAt
  updatedAt := hnow

/-- **A commit does to the tables what it does to the store.** -/
theorem commit_ofStore (hs : s.Keyed) (hp : ∀ p, s.project? c.project = some p → p.Sized) (hnow : now.Proper)
    (hc : c.Kept) :
    (ofStore s).commit now c =
      ((s.commit now c).map fun r => (ofStore r.1, r.2.stored now)).mapError .refused := by
  unfold commit Store.commit
  cases c.tickets.find? (·.project != c.project) with
  | some t => rfl
  | none =>
    dsimp only
    rw [project_ofStore hp, clear_ofStore, insertAll_ofStore hc (s.clear c.project) now]
    cases hproject : s.project c.project with
    | error e => rfl
    | ok p =>
      cases hrows : (s.clear c.project).insertAll now c with
      | error e => rfl
      | ok filled =>
        have hp' := Store.project_eq_ok.mp hproject
        obtain ⟨hfits, hfilled⟩ := Store.insertAll_eq_ok.mp hrows
        have hkeyed : filled.Keyed := hfilled ▸ (hs.clear c.project).withRows hfits now
        have hfind : filled.project? c.project = some p := hfilled ▸ hp'
        have hreviewed := project?_putProject_reviewed hfind now
        have hsized := sized_reviewed (hp p hp') hnow hc
        have hread : (ofStore (filled.putProject (Store.reviewed p now c))).project now c.project = _ :=
          project_ofStore fun q hq => Option.some.inj (hreviewed.symm.trans hq) ▸ hsized
        rw [Store.project_eq_ok.mpr hreviewed, ← updateProject_ofStore hkeyed hfind] at hread
        change (do
          let q ← ((ofStore filled).updateProject c.project (reviewed now c)).project now c.project
          pure ((ofStore filled).updateProject c.project (reviewed now c), q)) = _
        rw [hread, updateProject_ofStore hkeyed hfind]
        rfl

/-- **The tables count the tickets of a commit**, as long as their number has 32 bits. -/
theorem totalTickets_of_commit (hs : s.Keyed) (hp : ∀ p, s.project? c.project = some p → p.Sized)
    (hnow : now.Proper) (hc : c.Kept) (hsize : c.tickets.length < word32) {s' : Store} {p : Project}
    (h : s.commit now c = .ok (s', p)) :
    ∃ q, (ofStore s).commit now c = .ok (ofStore s', q) ∧ q.totalTickets = c.tickets.length := by
  refine ⟨p.stored now, by rw [commit_ofStore hs hp hnow hc, h]; rfl, ?_⟩
  obtain ⟨-, q, -, -, hr⟩ := Store.commit_eq_ok.mp h
  cases hr
  exact Nat.mod_eq_of_lt hsize

/-! ### Queries -/

theorem ticket?_ofStore {id : String} {t : Ticket} (h : s.ticket? id = some t) (hsized : t.Sized)
    (hhours : t.estimatedHours.isNaN = false) (later : Instant) :
    (ofStore s).ticket? later id = .ok (some (t.stored later)) := by
  have hfind : (ofStore s).tickets.find? (·.holds 0 id) = (s.ticket? id).map Ticket.row := List.find?_map
  rw [ticket?, hfind, h]
  simp only [Option.map_some, Ticket.ofRow_row hsized hhours]
  rfl

/-- The dependencies in the rows that hold a text in a column. -/
theorem mapM_dependencies (edges : List (String × Dependency)) {i : ℕ} {id : String}
    (chosen : String × Dependency → Bool) (h : ∀ e, (e.2.row e.1).holds i id = chosen e) :
    (((edges.map fun e => e.2.row e.1).filter (·.holds i id)).map (·.select Dependency.columns)).mapM
      Dependency.ofRow = .ok ((edges.filter chosen).map (·.2)) := by
  have hrows : (edges.map fun e => e.2.row e.1).filter (·.holds i id) =
      (edges.filter chosen).map fun e => e.2.row e.1 := by
    rw [List.filter_map]
    exact congrArg _ (congrArg (List.filter · edges) (funext h))
  rw [hrows, List.map_map]
  exact mapM_map_eq_ok fun e _ => Dependency.ofRow_row e.1 e.2

theorem edgesOf_ofStore (s : Store) (project : String) : (ofStore s).edgesOf project = .ok (s.edgesOf project) :=
  mapM_dependencies s.edges (·.1 == project) fun _ => rfl

theorem dependenciesOf_ofStore (s : Store) (id : String) :
    (ofStore s).dependenciesOf id = .ok (s.dependencies id) := by
  have hmap : s.dependencies id = (s.edges.filter (·.2.ticket == id)).map (·.2) := by
    rw [Store.dependencies, List.filter_map]
    rfl
  rw [hmap]
  exact mapM_dependencies s.edges (·.2.ticket == id) fun _ => rfl

theorem contextsOf_ofStore (s : Store) (project : String) :
    (ofStore s).contextsOf project = (s.readContexts project).mapError fun _ => .unfit 2 := by
  have hrows : (ofStore s).contexts.filter (·.holds 0 project) =
      (s.contexts.filter (·.1 == project)).map fun x => x.2.row x.1 := List.filter_map
  have hread (x : String × Context) :
      Context.ofRow (x.2.row x.1) = (Context.reread x.2).mapError fun _ => RowFault.unfit 2 :=
    Context.ofRow_row x.1 x.2
  rw [contextsOf, hrows, mapM_map_mapError hread, Store.readContexts, Store.contextsOf, List.mapM_map]
  rfl

end Database

end Backlog
