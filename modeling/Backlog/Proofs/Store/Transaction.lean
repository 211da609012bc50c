import Backlog.Proofs.Generation.Context
import Backlog.Proofs.Store.Step

/-! # Commits as transactions

A commit is a list of writes (`Commit.writes`): the former rows of its project are taken out table by
table, the new ones put in one by one, and at last the project is marked as reviewed. Each write goes into
the store that the former ones have left, and may fail there; `writeAll` stops at the first that does, with
what has been written so far. `transact` then rolls back to the store as it was.

* `foldlM_writes`: written one by one, the rows of a commit are those that `commit` puts in.
* `takes_iff_fits`: what a commit must be like to be stored, in terms of its own rows and those of others.
* `commit_all_or_nothing`: a commit is stored if and only if it is like that, it then stands in the place of
  all its project had, and otherwise a transaction leaves everything as it was. -/

namespace Backlog

/-- One write of a commit. -/
inductive Write where
  | clearEdges (project : String)
  | clearTickets (project : String)
  | clearContexts (project : String)
  | ticket (t : Ticket)
  | edge (project : String) (e : Dependency)
  | context (project : String) (x : Context)
  | project (p : Project)

/-- The writes of a commit for a project, in their order. -/
def Commit.writes (c : Commit) (now : Instant) (p : Project) : List Write :=
  [.clearEdges c.project, .clearTickets c.project, .clearContexts c.project] ++
    c.tickets.map .ticket ++ c.edges.map (.edge c.project) ++ c.contexts.map (.context c.project) ++
    [.project (Store.reviewed p now c)]

/-- **A ticket that is read back as it was written**: its instants are in years of four digits, its hours are
numbers, and none of them is a negative zero. -/
structure Ticket.Durable (t : Ticket) : Prop where
  createdAt : 0 ≤ t.createdAt.year ∧ t.createdAt.year ≤ 9999
  updatedAt : 0 ≤ t.updatedAt.year ∧ t.updatedAt.year ≤ 9999
  estimatedHours : storedHours t.estimatedHours = t.estimatedHours
  actualHours : ∀ h ∈ t.actualHours, h.isNaN = false ∧ storedHours h = h

theorem Ticket.Durable.stored_eq {t : Ticket} (h : t.Durable) (now : Instant) : t.stored now = t := by
  have hactual : (t.actualHours.filter fun h => !h.isNaN).map storedHours = t.actualHours := by
    cases ht : t.actualHours with
    | none => rfl
    | some a =>
      obtain ⟨hnan, hstored⟩ := h.actualHours a ht
      rw [Option.filter, if_pos (by rw [hnan]; rfl), Option.map_some, hstored]
  rw [Ticket.stored, hactual, h.estimatedHours, Instant.stored, if_pos h.createdAt, Instant.stored,
    if_pos h.updatedAt]

namespace Store

variable {Allowed : Commit → Prop} {s s' : Store} {now : Instant} {c : Commit} {p : Project}
  {e : StoreError}

/-! ### Transactions -/

/-- A store after one write. -/
def write (now : Instant) (s : Store) : Write → Except StoreError Store
  | .clearEdges project => .ok { s with edges := s.edges.filter (·.1 != project) }
  | .clearTickets project => .ok { s with tickets := s.tickets.filter (·.project != project) }
  | .clearContexts project => .ok { s with contexts := s.contexts.filter (·.1 != project) }
  | .ticket t => (insertTicket now s.tickets t).map fun rows => { s with tickets := rows }
  | .edge project d => (insertEdge project s.edges d).map fun rows => { s with edges := rows }
  | .context project x =>
    (insertContext project s.contexts x).map fun rows => { s with contexts := rows }
  | .project p => .ok (s.putProject p)

/-- **Writes one after another**, up to the first that fails: the store they leave, and the error. -/
def writeAll (now : Instant) (s : Store) : List Write → Store × Option StoreError
  | [] => (s, none)
  | w :: ws => match s.write now w with
    | .ok s' => s'.writeAll now ws
    | .error e => (s, some e)

/-- **A transaction**: what is written stays if nothing fails, else the store is as it was. -/
def transact (now : Instant) (s : Store) (ws : List Write) : Store × Option StoreError :=
  match s.writeAll now ws with
  | (s', none) => (s', none)
  | (_, some e) => (s, some e)

/-- What trying to store a commit leaves, and the error. Nothing is written for a ticket of another project
or without a project. -/
def attempt (s : Store) (now : Instant) (c : Commit) : Store × Option StoreError :=
  match c.tickets.find? (·.project != c.project) with
  | some t => (s, some (.strayTicket t.id t.project))
  | none =>
    match s.project? c.project with
    | none => (s, some (.projectMissing c.project))
    | some p => s.transact now (c.writes now p)

theorem writeAll_eq (ws : List Write) : ∀ s : Store,
    ws.foldlM (write now) s = match s.writeAll now ws with
      | (s', none) => .ok s'
      | (_, some e) => .error e := by
  induction ws with
  | nil => intro s; rfl
  | cons w ws ih =>
    intro s
    rw [List.foldlM_cons, writeAll]
    cases s.write now w with
    | error e => rfl
    | ok s' => exact ih s'

theorem transact_eq (ws : List Write) :
    s.transact now ws = match ws.foldlM (write now) s with
      | .ok s' => (s', none)
      | .error e => (s, some e) := by
  rw [transact, writeAll_eq]
  rcases s.writeAll now ws with ⟨s', _ | e⟩
  · rfl
  · rfl

/-! ### The writes of a commit -/

theorem foldlM_table {σ β α ω ε : Type} {act : σ → ω → Except ε σ} {put : β → α → Except ε β}
    {mk : α → ω} (set : β → σ) (h : ∀ b a, act (set b) (mk a) = (put b a).map set) :
    ∀ (as : List α) (b : β), (as.map mk).foldlM act (set b) = (as.foldlM put b).map set
  | [], b => rfl
  | a :: as, b => by
    rw [List.map_cons, List.foldlM_cons, List.foldlM_cons, h]
    cases put b a with
    | error e => rfl
    | ok b' => exact foldlM_table set h as b'

theorem foldlM_insertTicket (s : Store) (ts : List Ticket) :
    (ts.map Write.ticket).foldlM (write now) s =
      (ts.foldlM (insertTicket now) s.tickets).map fun rows => { s with tickets := rows } :=
  foldlM_table (fun rows => { s with tickets := rows }) (fun _ _ => rfl) ts s.tickets

theorem foldlM_insertEdge (s : Store) (project : String) (es : List Dependency) :
    (es.map (Write.edge project)).foldlM (write now) s =
      (es.foldlM (insertEdge project) s.edges).map fun rows => { s with edges := rows } :=
  foldlM_table (fun rows => { s with edges := rows }) (fun _ _ => rfl) es s.edges

theorem foldlM_insertContext (s : Store) (project : String) (xs : List Context) :
    (xs.map (Write.context project)).foldlM (write now) s =
      (xs.foldlM (insertContext project) s.contexts).map fun rows => { s with contexts := rows } :=
  foldlM_table (fun rows => { s with contexts := rows }) (fun _ _ => rfl) xs s.contexts

/-- **Written one by one**, the rows of a commit are those that are put in at once. -/
theorem foldlM_writes :
    (c.writes now p).foldlM (write now) s =
      ((s.clear c.project).insertAll now c).map (·.putProject (reviewed p now c)) := by
  have hclear : [Write.clearEdges c.project, .clearTickets c.project, .clearContexts c.project].foldlM
      (write now) s = .ok (s.clear c.project) := rfl
  simp only [Commit.writes, List.foldlM_append, hclear, foldlM_insertTicket, insertAll, bind,
    Except.bind]
  cases c.tickets.foldlM (insertTicket now) (s.clear c.project).tickets with
  | error e => rfl
  | ok ts =>
    dsimp only [Except.map]
    rw [foldlM_insertEdge]
    dsimp only
    cases c.edges.foldlM (insertEdge c.project) (s.clear c.project).edges with
    | error e => rfl
    | ok es =>
      dsimp only [Except.map]
      rw [foldlM_insertContext]
      dsimp only
      cases c.contexts.foldlM (insertContext c.project) (s.clear c.project).contexts with
      | error e => rfl
      | ok xs => rfl

/-- **Trying to store a commit** leaves what `commit` gives, or the store as it was. -/
theorem attempt_eq (s : Store) (now : Instant) (c : Commit) :
    s.attempt now c = match s.commit now c with
      | .ok (s', _) => (s', none)
      | .error e => (s, some e) := by
  unfold attempt commit project
  cases c.tickets.find? (·.project != c.project) with
  | some t => rfl
  | none =>
    dsimp only
    cases s.project? c.project with
    | none => rfl
    | some p =>
      dsimp only
      rw [transact_eq, foldlM_writes]
      simp only [bind, Except.bind]
      cases (s.clear c.project).insertAll now c with
      | error e => rfl
      | ok s' => rfl

/-! ### Commits that are stored -/

/-- **A commit that a store takes**: its rows agree with each other and with those of other projects. -/
structure Takes (s : Store) (c : Commit) : Prop where
  own : ∀ t ∈ c.tickets, t.project = c.project
  project : c.project ∈ s.projects.map (·.id)
  ids : (c.tickets.map (·.id)).Nodup
  newIds : ∀ t ∈ c.tickets, ∀ u ∈ s.tickets, u.id = t.id → u.project = c.project
  ranks : (c.tickets.filterMap (·.rank)).Nodup
  loopless : ∀ d ∈ c.edges, d.ticket ≠ d.dependsOn
  edges : (c.edges.map fun d => (d.ticket, d.dependsOn)).Nodup
  newEdges : ∀ d ∈ c.edges, ∀ f ∈ s.edges,
    f.2.ticket = d.ticket → f.2.dependsOn = d.dependsOn → f.1 = c.project
  contexts : (c.contexts.map (·.kind)).Nodup

/-- Tickets of one project stand side by side if neither ids nor ranks repeat. -/
theorem pairwise_not_clash_iff {ts : List Ticket} {project : String}
    (hown : ∀ t ∈ ts, t.project = project) :
    (ts.Pairwise fun t u => ¬ t.Clash u) ↔
      (ts.map (·.id)).Nodup ∧ (ts.filterMap (·.rank)).Nodup := by
  have hclash : ∀ {t u : Ticket}, t ∈ ts → u ∈ ts →
      (¬ t.Clash u ↔ t.id ≠ u.id ∧ ∀ i ∈ t.rank, ∀ j ∈ u.rank, i ≠ j) := by
    intro t u ht hu
    simp only [Ticket.Clash, hown t ht, hown u hu, not_or, true_and, ne_eq]
    refine and_congr_right fun _ => ?_
    cases t.rank <;> cases u.rank <;> simp
  rw [List.Pairwise.iff_of_mem hclash, List.pairwise_and_iff, List.nodup_iff_pairwise_ne,
    List.nodup_iff_pairwise_ne, List.pairwise_map, List.pairwise_filterMap]
  rfl

/-- **What a store takes** are the commits for a project that is there whose rows fit. -/
theorem takes_iff_fits (hhours : ∀ t ∈ c.tickets, t.estimatedHours.isNaN = false) :
    s.Takes c ↔ (∀ t ∈ c.tickets, t.project = c.project) ∧ (∃ p, s.project? c.project = some p) ∧
      (s.clear c.project).Fits c := by
  constructor
  · intro h
    refine ⟨h.own, exists_project?_iff.mpr h.project, ?_⟩
    obtain hside := (pairwise_not_clash_iff h.own).mpr ⟨h.ids, h.ranks⟩
    refine ⟨by simpa using hhours, ?_, hside, h.loopless, ?_, ?_, ?_, ?_⟩
    · intro u hu t ht hclash
      obtain ⟨hu, hother⟩ := List.mem_filter.mp hu
      rcases hclash with hid | ⟨-, hproject, -⟩
      · simp [h.newIds t ht u hu hid] at hother
      · simp [hproject, h.own t ht] at hother
    · intro f hf d hd hsame
      obtain ⟨hf, hother⟩ := List.mem_filter.mp hf
      simp [h.newEdges d hd f hf hsame.1 hsame.2] at hother
    · have hedges := h.edges
      rw [List.nodup_iff_pairwise_ne, List.pairwise_map] at hedges
      exact hedges.imp fun hne hsame => hne (Prod.ext hsame.1 hsame.2)
    · intro y hy x _ hsame
      have hother := (List.mem_filter.mp hy).2
      simp [hsame.1] at hother
    · have hkinds := h.contexts
      rwa [List.nodup_iff_pairwise_ne, List.pairwise_map] at hkinds
  · rintro ⟨hown, hproject, hfits⟩
    obtain ⟨hids, hranks⟩ := (pairwise_not_clash_iff hown).mp hfits.tickets
    refine ⟨hown, exists_project?_iff.mp hproject, hids, ?_, hranks, hfits.loopless, ?_, ?_, ?_⟩
    · intro t ht u hu hid
      by_contra hother
      exact hfits.newTickets u (List.mem_filter.mpr ⟨hu, by simpa using hother⟩) t ht (Or.inl hid)
    · rw [List.nodup_iff_pairwise_ne, List.pairwise_map]
      exact hfits.edges.imp fun hne hpair => hne (Prod.mk.inj hpair)
    · intro d hd f hf hx hy
      by_contra hother
      exact hfits.newEdges f (List.mem_filter.mpr ⟨hf, by simpa using hother⟩) d hd ⟨hx, hy⟩
    · rw [List.nodup_iff_pairwise_ne, List.pairwise_map]
      exact hfits.contexts

theorem exists_commit_iff (hhours : ∀ t ∈ c.tickets, t.estimatedHours.isNaN = false) :
    (∃ s' p, s.commit now c = .ok (s', p)) ↔ s.Takes c := by
  rw [takes_iff_fits hhours]
  constructor
  · rintro ⟨s', p, h⟩
    obtain ⟨hown, q, hq, hfits, -⟩ := commit_eq_ok.mp h
    exact ⟨hown, ⟨q, hq⟩, hfits⟩
  · rintro ⟨hown, ⟨q, hq⟩, hfits⟩
    exact ⟨_, _, commit_eq_ok.mpr ⟨hown, q, hq, hfits, rfl⟩⟩

/-- **A commit in the place of what its project had**: `s'` holds its rows and no others for the project,
the project is up for review, and all rows of other projects are those of `s`. -/
structure Replaced (s s' : Store) (now : Instant) (c : Commit) : Prop where
  tickets : s'.ticketsOf c.project = c.tickets.map (·.stored now)
  edges : s'.edgesOf c.project = c.edges
  contexts : s'.contextsOf c.project = c.contexts
  readContexts : s'.readContexts c.project = c.contexts.mapM Context.reread
  projects : s'.projects = s.projects.map fun p =>
    if p.id = c.project then
      { p with
        status := .review, totalTickets := c.tickets.length, completedTickets := 0
        analyzedAt := some now, summary := some c.summary, failure := none, updatedAt := now }
    else p
  otherTickets : s'.tickets.filter (·.project != c.project) =
    s.tickets.filter (·.project != c.project)
  otherEdges : s'.edges.filter (·.1 != c.project) = s.edges.filter (·.1 != c.project)
  otherContexts : s'.contexts.filter (·.1 != c.project) = s.contexts.filter (·.1 != c.project)

/-- Rows of a project that take the place of its former ones leave those of others. -/
theorem filter_others {β : Type} (key : β → String) {new : List β} {old : String}
    (hnew : ∀ b ∈ new, key b = old) (rows : List β) :
    (rows.filter (key · != old) ++ new).filter (key · != old) = rows.filter (key · != old) := by
  have hnone : new.filter (key · != old) = [] :=
    List.filter_eq_nil_iff.mpr fun b hb => by simp [hnew b hb]
  rw [List.filter_append, hnone, List.append_nil, List.filter_filter]
  simp only [Bool.and_self]

theorem readContexts_commit (h : s.commit now c = .ok (s', p)) (hkept : ∀ x ∈ c.contexts, x.Kept) :
    s'.readContexts c.project = .ok c.contexts := by
  have hwritten := contextsOf_commit h c.project
  rw [if_pos rfl] at hwritten
  have hread : (c.contexts.map id).mapM Context.reread = .ok (c.contexts.map id) :=
    mapM_map_eq_ok fun x hx => Context.reread_eq (hkept x hx)
  rw [List.map_id] at hread
  rwa [readContexts, hwritten]

theorem replaced_of_commit (hs : s.Keyed) (h : s.commit now c = .ok (s', p)) :
    s.Replaced s' now c := by
  have htickets := ticketsOf_commit h c.project
  have hedges := edgesOf_commit h c.project
  have hcontexts := contextsOf_commit h c.project
  rw [if_pos rfl] at htickets hedges hcontexts
  obtain ⟨hown, q, hq, hfits, hr⟩ := commit_eq_ok.mp h
  have hkeyed : ((s.clear c.project).withRows now c).Keyed := (hs.clear _).withRows hfits now
  have hfind : ((s.clear c.project).withRows now c).project? c.project = some q := hq
  have hput := hkeyed.putProject_eq hfind (reviewed · now c) rfl
  cases hr
  refine ⟨htickets, hedges, hcontexts, congrArg (List.mapM Context.reread) hcontexts,
    congrArg Store.projects hput, ?_, ?_, ?_⟩
  · refine filter_others Ticket.project (fun t ht => ?_) s.tickets
    obtain ⟨u, hu, rfl⟩ := List.mem_map.mp ht
    exact hown u hu
  · exact filter_others Prod.fst (by simp) s.edges
  · exact filter_others Prod.fst (by simp) s.contexts

/-- **A commit is stored as a whole or not at all.** It is stored if and only if its rows agree with each other
and with those of other projects; its rows are then all that its project has, and tickets and contexts that can be
read back as they were written are. If it is not stored, whichever write fails, the store is as it was. -/
theorem commit_all_or_nothing (hs : Reachable Allowed s) (now : Instant) (c : Commit)
    (hhours : ∀ t ∈ c.tickets, t.estimatedHours.isNaN = false) :
    ((∃ s' p, s.commit now c = .ok (s', p)) ↔ s.Takes c) ∧
    (∀ s' p, s.commit now c = .ok (s', p) →
      s.attempt now c = (s', none) ∧ s.Replaced s' now c ∧ s'.project? c.project = some p ∧
        ((∀ t ∈ c.tickets, t.Durable) → s'.ticketsOf c.project = c.tickets) ∧
        ((∀ x ∈ c.contexts, x.Kept) → s'.readContexts c.project = .ok c.contexts)) ∧
    ∀ e, s.commit now c = .error e → s.attempt now c = (s, some e) := by
  have hkeyed := Keyed.of_reachable hs
  refine ⟨exists_commit_iff hhours, fun s' p h => ?_, fun e h => by rw [attempt_eq, h]⟩
  have hreplaced := replaced_of_commit hkeyed h
  refine ⟨by rw [attempt_eq, h], hreplaced, project?_commit h, fun hdurable => ?_, readContexts_commit h⟩
  rw [hreplaced.tickets, List.map_congr_left fun t ht => (hdurable t ht).stored_eq now, List.map_id']

/-- A ticket of a shop with a rank. -/
def shopTicket (id : String) (rank : ℕ) : Ticket :=
  { (default : Ticket) with id := id, project := "p", rank := some rank }

/-- The first plan of the shop. -/
def firstPlan : Commit :=
  ⟨"p", [shopTicket "a" 0, shopTicket "b" 1], [⟨"b", "a", .blocks⟩], [.techStack [] none], default⟩

/-- A later plan that keeps a ticket and adds one. -/
def secondPlan : Commit :=
  ⟨"p", [shopTicket "b" 0, shopTicket "c" 1], [⟨"c", "b", .blocks⟩], [.techStack [] none], default⟩

/-- A plan that repeats a rank at its end. -/
def crowdedPlan : Commit :=
  ⟨"p", [shopTicket "b" 0, shopTicket "c" 1, shopTicket "d" 1], [], [], default⟩

/-- The store after the first plan. -/
def shopStore : Store :=
  ((({} : Store).createProject default "p" "Shop" "").toOption.bind fun r =>
    (r.1.commit default firstPlan).toOption.map (·.1)).getD {}

theorem commit_all_or_nothing_shop :
    Reachable (fun _ => True) shopStore ∧
    (∃ s' p, shopStore.commit default secondPlan = .ok (s', p) ∧
      (s'.ticketsOf "p").map (·.id) = ["b", "c"] ∧ s'.edgesOf "p" = [⟨"c", "b", .blocks⟩] ∧
      s'.readContexts "p" = .ok secondPlan.contexts) ∧
    ¬ shopStore.Takes crowdedPlan ∧
      shopStore.attempt default crowdedPlan = (shopStore, some (.constraint .rank)) := by
  have hshop : ({} : Store).createProject default "p" "Shop" "" = .ok (_, _) := rfl
  have hreach : Reachable (fun _ => True) shopStore :=
    .tail (.single (.create hshop)) (.commit (c := firstPlan) trivial rfl)
  have hsecond : shopStore.Takes secondPlan :=
    ⟨by decide, by decide, by decide, by decide, by decide, by decide, by decide, by decide, by decide⟩
  have hcrowded : ¬ shopStore.Takes crowdedPlan := fun h => absurd h.ranks (by decide)
  obtain ⟨hiff, hstored, -⟩ := commit_all_or_nothing hreach default secondPlan (by decide)
  obtain ⟨s', p, h⟩ := hiff.mpr hsecond
  obtain ⟨-, hreplaced, -, -, hcontexts⟩ := hstored s' p h
  have hkept : ∀ x ∈ secondPlan.contexts, x.Kept := List.forall_mem_singleton.mpr nofun
  refine ⟨hreach, ⟨s', p, h, ?_, hreplaced.edges, hcontexts hkept⟩, hcrowded, ?_⟩
  · exact (congrArg (List.map (·.id)) hreplaced.tickets).trans rfl
  · exact (commit_all_or_nothing hreach default crowdedPlan (by decide)).2.2 _ rfl

end Store

end Backlog
