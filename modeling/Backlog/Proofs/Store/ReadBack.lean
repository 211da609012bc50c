import Backlog.Proofs.Store.Database

/-! # What is committed is read back

After a commit the queries return what was committed, from the store and from the tables that hold it
(`commit_read_back`): each ticket with all its fields, the dependencies and contexts of the project in order, and
the summary. The dependencies of a ticket are looked up by its id alone; those that other projects have stored for
the same id come first (`strangers`). -/

namespace Backlog

/-- The queries about what is stored. -/
structure Queries where
  ticket? : String → Except RowFault (Option Ticket)
  project? : String → Except RowFault (Option Project)
  dependencies : String → Except RowFault (List Dependency)
  edgesOf : String → Except RowFault (List Dependency)
  contextsOf : String → Except RowFault (List Context)

/-- The queries of a store. -/
def Store.queries (s : Store) : Queries where
  ticket? id := .ok (s.ticket? id)
  project? id := .ok (s.project? id)
  dependencies id := .ok (s.dependencies id)
  edgesOf project := .ok (s.edgesOf project)
  contextsOf project := (s.readContexts project).mapError fun _ => .unfit 2

/-- The queries of the tables, asked at some time. -/
def Database.queries (d : Database) (now : Instant) : Queries where
  ticket? := d.ticket? now
  project? := d.project? now
  dependencies := d.dependenciesOf
  edgesOf := d.edgesOf
  contextsOf := d.contextsOf

/-- **The queries return a commit**, and for a ticket first what `others` says. -/
structure Queries.Return (q : Queries) (c : Commit) (others : String → List Dependency) : Prop where
  tickets : ∀ t ∈ c.tickets, q.ticket? t.id = .ok (some t)
  edges : q.edgesOf c.project = .ok c.edges
  dependencies : ∀ id, q.dependencies id = .ok (others id ++ c.edges.filter (·.ticket == id))
  contexts : q.contextsOf c.project = .ok c.contexts
  summary : ∃ p, q.project? c.project = .ok (some p) ∧ p.summary = some c.summary

namespace Store

variable {Allowed : Commit → Prop} {s s' : Store} {now : Instant} {c : Commit} {p : Project} {t : Ticket}

/-- What other projects have stored for a ticket. -/
def strangers (s : Store) (project id : String) : List Dependency :=
  ((s.edges.filter (·.1 != project)).map (·.2)).filter (·.ticket == id)

theorem Keyed.ticket?_of_mem (hs : s.Keyed) (ht : t ∈ s.tickets) : s.ticket? t.id = some t := by
  cases hfind : s.ticket? t.id with
  | none => exact absurd (List.find?_eq_none.mp hfind t ht) (by simp)
  | some u =>
    obtain ⟨hu, hid⟩ := mem_of_ticket? hfind
    rw [hs.ticket_eq hu ht hid]

theorem dependencies_commit (h : s.commit now c = .ok (s', p)) (id : String) :
    s'.dependencies id = s.strangers c.project id ++ c.edges.filter (·.ticket == id) := by
  obtain ⟨-, q, -, -, hr⟩ := commit_eq_ok.mp h
  cases hr
  have hedges : (c.edges.map (c.project, ·)).map (·.2) = c.edges := by
    rw [List.map_map]
    exact List.map_id c.edges
  change (((s.edges.filter (·.1 != c.project)) ++ c.edges.map (c.project, ·)).map (·.2)).filter
    (·.ticket == id) = _
  rw [List.map_append, List.filter_append, hedges]
  rfl

theorem mem_tickets_commit (hc : c.Kept) (h : s.commit now c = .ok (s', p)) (ht : t ∈ c.tickets) :
    t ∈ s'.tickets := by
  have htickets := ticketsOf_commit h c.project
  rw [if_pos rfl] at htickets
  have hstored : t ∈ s'.ticketsOf c.project := by
    rw [htickets]
    exact List.mem_map.mpr ⟨t, ht, (hc.durable t ht).stored_eq now⟩
  exact List.mem_of_mem_filter hstored

theorem return_of_commit (hs : s'.Keyed) (hc : c.Kept) (h : s.commit now c = .ok (s', p)) :
    s'.queries.Return c (s.strangers c.project) where
  tickets t ht := congrArg _ (hs.ticket?_of_mem (mem_tickets_commit hc h ht))
  edges := congrArg _ ((edgesOf_commit h c.project).trans (if_pos rfl))
  dependencies id := congrArg _ (dependencies_commit h id)
  contexts := mapError_eq_ok.mpr (readContexts_commit h hc.contexts)
  summary := by
    refine ⟨p, congrArg _ (project?_commit h), ?_⟩
    obtain ⟨-, q, -, -, hr⟩ := commit_eq_ok.mp h
    cases hr
    rfl

end Store

namespace Database

variable {Allowed : Commit → Prop} {s s' : Store} {now : Instant} {c : Commit} {p : Project}

/-- **The tables that hold a store return what it returns.** -/
theorem return_ofStore {others : String → List Dependency} (hc : c.Kept)
    (hp : ∀ q, s.project? c.project = some q → q.Sized)
    (hhours : ∀ t ∈ c.tickets, t.estimatedHours.isNaN = false) (h : s.queries.Return c others) (later : Instant) :
    ((ofStore s).queries later).Return c others where
  tickets t ht := by
    have hread := ticket?_ofStore (Except.ok.inj (h.tickets t ht)) (hc.tickets t ht) (hhours t ht) later
    rwa [(hc.durable t ht).stored_eq later] at hread
  edges := (edgesOf_ofStore s c.project).trans h.edges
  dependencies id := (dependenciesOf_ofStore s id).trans (h.dependencies id)
  contexts := (contextsOf_ofStore s c.project).trans h.contexts
  summary := by
    obtain ⟨q, hq, hsummary⟩ := h.summary
    refine ⟨q.stored later, ?_, hsummary⟩
    have hfind : s.project? c.project = some q := Except.ok.inj hq
    exact (project?_ofStore hp).trans (by rw [hfind]; rfl)

/-- **What is committed is read back.** After a commit that the store takes, its queries return every ticket with
all its fields, the dependencies and contexts in order and the summary; for a ticket they return what other
projects have stored for its id before the dependencies of the commit. The commit does the same to the tables
that hold the store, and at any later time these return the same. -/
theorem commit_read_back (hs : Store.Reachable Allowed s) (hp : ∀ q, s.project? c.project = some q → q.Sized)
    (hnow : now.Proper) (hc : c.Kept) (h : s.commit now c = .ok (s', p)) :
    s'.queries.Return c (s.strangers c.project) ∧
    (ofStore s).commit now c = .ok (ofStore s', p.stored now) ∧
    ∀ later, ((ofStore s').queries later).Return c (s.strangers c.project) := by
  have hkeyed := Store.Keyed.of_reachable hs
  have hstep : Store.Step (fun _ => True) s s' := .commit trivial h
  have hkeyed' : s'.Keyed := hkeyed.step hstep
  have hreturn := Store.return_of_commit hkeyed' hc h
  obtain ⟨-, q, hq, hfits, hr⟩ := Store.commit_eq_ok.mp h
  have hsized : ∀ r, s'.project? c.project = some r → r.Sized := by
    intro r hfind
    have hp' := Store.project?_commit h
    cases hr
    exact Option.some.inj (hp'.symm.trans hfind) ▸ sized_reviewed (hp q hq) hnow hc
  refine ⟨hreturn, ?_, return_ofStore hc hsized (fun t ht => by simpa using hfits.hours t ht) hreturn⟩
  rw [commit_ofStore hkeyed hp hnow hc, h]
  rfl

/-- A ticket at the limits: the first and the last second of the years of four digits, the latter a leap second,
the largest count, fractions of hours, and texts to be escaped. -/
def fullTicket : Ticket :=
  { Store.shopTicket "b" 1 with
    title := "\"Cart\"\n", category := some "", estimatedHours := 1.5, actualHours := some 0.1
    files := [⟨"src/cart.ts", "", .create⟩], criteria := [⟨"works\\", true⟩], assignee := some "kim"
    commits := 4294967295, createdAt := ⟨-62167219200, 0⟩, updatedAt := ⟨253402300799, 1999999999⟩ }

/-- A plan with contexts of all kinds. -/
def fullPlan : Commit :=
  ⟨"p", [Store.shopTicket "a" 0, fullTicket], [⟨"b", "a", .blocks⟩],
    [.dependencies 2 1 ["a", "b"], .features [⟨"f", "Cart", 255, true, 1, 0.1⟩], .techStack ["ts"] (some 5),
      .fileStructure 2 [(".", 1), ("src", 1)] [("", 1), ("ts", 1)]],
    ⟨2, 1, ["a", "b"], ["ts"], some 5, false⟩⟩

/-- A plan of another project that names a ticket it does not have. -/
def strangePlan : Commit := ⟨"q", [], [⟨"b", "z", .related⟩], [], default⟩

/-- The store after the plan of the other project. -/
def strangeStore : Store :=
  ((({} : Store).createProject default "p" "Shop" "").toOption.bind fun r =>
    (r.1.createProject default "q" "Blog" "").toOption.bind fun r =>
      (r.1.commit default strangePlan).toOption.map (·.1)).getD {}

theorem reachable_strangeStore : Store.Reachable (fun _ => True) strangeStore := by
  have hshop : ({} : Store).createProject default "p" "Shop" "" = .ok (_, _) := rfl
  exact .tail (.tail (.single (.create hshop)) (@Store.Step.create _ _ default "q" "Blog" "" _ rfl))
    (.commit (c := strangePlan) trivial rfl)

theorem sized_of_strangeStore (q : Project) (h : strangeStore.project? "p" = some q) : q.Sized := by
  have hq : strangeStore.project? "p" = some _ := rfl
  cases hq.symm.trans h
  exact ⟨by decide, nofun, nofun, by decide, by decide⟩

theorem kept_fullPlan : fullPlan.Kept where
  durable := by
    intro t ht
    rcases List.mem_pair.mp ht with rfl | rfl
    · exact ⟨by decide, by decide, by decide, nofun⟩
    · refine ⟨by decide, by decide, by decide, ?_⟩
      rintro h ⟨⟩
      decide
  tickets := by
    intro t ht
    rcases List.mem_pair.mp ht with rfl | rfl
    · exact ⟨by rintro n ⟨⟩; decide, by decide, by decide, by decide⟩
    · exact ⟨by rintro n ⟨⟩; decide, by decide, by decide, by decide⟩
  contexts := by
    intro x hx
    simp only [fullPlan, List.mem_cons, List.not_mem_nil, or_false] at hx
    rcases hx with rfl | rfl | rfl | rfl
    · exact ⟨by decide, by decide⟩
    · intro b hb
      rw [List.mem_singleton.mp hb]
      exact ⟨by decide, by decide, by unfold Json.Keeps; decide⟩
    · rintro n ⟨⟩
      decide
    · exact ⟨by decide, ⟨by decide, by decide⟩, ⟨by decide, by decide⟩⟩
  summary := ⟨by decide, by decide, by rintro n ⟨⟩; decide⟩

/-- A plan at the limits is read back, behind a dependency that a stranger has stored for one of its tickets. -/
theorem commit_read_back_full :
    Store.Reachable (fun _ => True) strangeStore ∧ fullPlan.Kept ∧
    ∃ s' p, strangeStore.commit ⟨1, 0⟩ fullPlan = .ok (s', p) ∧ s'.ticket? "b" = some fullTicket ∧
      (ofStore s').ticket? ⟨2, 0⟩ "b" = .ok (some fullTicket) ∧
      (ofStore s').contextsOf "p" = .ok fullPlan.contexts ∧
      (ofStore s').dependenciesOf "b" = .ok [⟨"b", "z", .related⟩, ⟨"b", "a", .blocks⟩] := by
  have h : strangeStore.commit ⟨1, 0⟩ fullPlan = .ok (_, _) := rfl
  obtain ⟨hstore, -, htables⟩ := commit_read_back reachable_strangeStore sized_of_strangeStore (by decide)
    kept_fullPlan h
  have hmem : fullTicket ∈ fullPlan.tickets := List.mem_cons_of_mem _ List.mem_cons_self
  exact ⟨reachable_strangeStore, kept_fullPlan, _, _, h, Except.ok.inj (hstore.tickets fullTicket hmem),
    (htables ⟨2, 0⟩).tickets fullTicket hmem, (htables ⟨2, 0⟩).contexts, (htables ⟨2, 0⟩).dependencies "b"⟩

/-- **Strangers come first**: the dependencies of a ticket that has just been committed are not always those that
were committed. -/
theorem dependencies_of_strangers :
    Store.Reachable (fun _ => True) strangeStore ∧ fullPlan.Kept ∧
    ∃ s' p, strangeStore.commit ⟨1, 0⟩ fullPlan = .ok (s', p) ∧
      s'.dependencies "b" ≠ fullPlan.edges.filter (·.ticket == "b") := by
  have h : strangeStore.commit ⟨1, 0⟩ fullPlan = .ok (_, _) := rfl
  exact ⟨reachable_strangeStore, kept_fullPlan, _, _, h, by decide⟩

end Database

end Backlog
