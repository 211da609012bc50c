import Backlog.Proofs.Generation.Extraction
import Backlog.Proofs.Graph.Star
import Backlog.Proofs.Store.Listing
import Backlog.Proofs.Ticket.Same

/-! # What a run makes

With an enricher that leaves tickets as they are or fails (`Enricher.Idle`) all that a run makes can be told from
the features alone. The tickets are drafted in execution order (`Graph.analysis_of_features`), so each gets its
place as rank and none is moved (`rankAll_of_order`), and enrichment keeps them (`enriched_of_idle`):
`plan_eq_closed` gives the whole plan. A run that succeeds has committed it (`commit_of_run`), the project is
listed in the order of ranks (`list_of_ranked`), and so `backlog_of_run` says **what a run leaves**. -/

namespace Backlog

variable {s s' : Store} {now : Instant} {mint : ℕ → String} {project description : String}
  {files : List String} {fs : List Feature} {ts us : List Ticket} {t : Ticket} {p : Planner} {b : Brief}
  {q : Project} {found : Option Findings} {plan : Plan}

/-! ### Enrichers that change nothing -/

/-- **An enricher that leaves tickets as they are**, or fails. -/
def Enricher.Idle (e : Enricher) : Prop :=
  ∀ ts description, (e ts description).result = .ok ts ∨
    ∃ failure, (e ts description).result = .error failure

theorem Enricher.idle_failing : Enricher.failing.Idle := fun _ _ => Or.inr ⟨_, rfl⟩

theorem Planner.enriched_of_idle (he : p.enricher.Idle) (ts : List Ticket) (description : String) :
    enriched ts (p.enricher ts description).result = ts := by
  unfold enriched
  rcases he ts description with h | ⟨failure, h⟩
  · rw [h]
    exact ite_self ts
  · rw [h]

/-! ### Tickets in order -/

/-- **Tickets with their places as ranks.** -/
def inOrder (ts : List Ticket) : List Ticket := ts.mapIdx fun i t => { t with rank := some i }

@[simp] theorem length_inOrder (ts : List Ticket) : (inOrder ts).length = ts.length := List.length_mapIdx

theorem rank_getElem_inOrder {i : ℕ} (hi : i < (inOrder ts).length) : (inOrder ts)[i].rank = some i := by
  simp [inOrder]

namespace Planner

/-- **Tickets that stand in execution order** get their places as ranks, and stay where they are. -/
theorem rankAll_of_order (hids : (ts.map (·.id)).Nodup) : rankAll (ts.map (·.id)) ts = .ok (inOrder ts) := by
  have hplaced : ts.map (placed (ts.map (·.id))) = inOrder ts := by
    refine List.ext_getElem (by simp) fun i hi _ => ?_
    have hbound : i < ts.length := by simpa using hi
    have hplace : placeOf? ts[i].id (ts.map (·.id)) = some i := by
      have hself := hids.idxOf_getElem i (by simpa using hi)
      rw [List.getElem_map] at hself
      rw [placeOf?_of_nodup hids (List.mem_map_of_mem (List.getElem_mem hbound)), hself]
    simp only [List.getElem_map, inOrder, List.getElem_mapIdx, placed, hplace]
  have hsorted : (inOrder ts).Pairwise fun t u => rankAtMost t u = true := by
    refine List.pairwise_iff_getElem.mpr fun i j hi hj hij => ?_
    simp only [rankAtMost, rank_getElem_inOrder, Option.getD_some, decide_eq_true_eq]
    exact hij.le
  rw [rankAll_eq_ok]
  exact ⟨fun t ht => List.mem_map_of_mem ht, by rw [hplaced, List.mergeSort_of_pairwise hsorted]⟩

/-! ### The plan -/

/-- The tickets that a run makes of features. -/
def backlog (project description : String) (now : Instant) (mint : ℕ → String) (fs : List Feature) :
    List Ticket :=
  inOrder (Synthesis.drafted project description now mint fs)

/-- **The plan of a run** with an enricher that changes nothing. -/
theorem plan_eq_closed (hp : p.analyzer = analyze) (he : p.enricher.Idle)
    (h : (p.plan now mint project description files).result = .ok plan) :
    ∃ a : Analysis,
      plan = assemble project files (p.extract files description).result a
        (backlog project description now mint (featuresOf (p.extract files description).result)) ∧
      a.graph.edges = (List.range (featuresOf (p.extract files description).result).length).map
        (fun i => ⟨mint (i + 1), mint 0, .blocks⟩) ∧
      a.criticalPath = mint 0 ::
        (if featuresOf (p.extract files description).result = [] then [] else [mint 1]) := by
  obtain ⟨-, draft, hdraft, rfl⟩ := plan_eq_ok.mp h
  obtain ⟨ts, a, us, hts, ha, -, hus, rfl⟩ := draft_eq_ok.mp hdraft
  obtain ⟨-, hdrafted⟩ := Synthesis.synthesize_eq_ok.mp hts
  change ts = Synthesis.drafted project description now mint
    (featuresOf (p.extract files description).result) at hdrafted
  generalize hfs : featuresOf (p.extract files description).result = fs at hdrafted ⊢
  rw [hp, hdrafted, Synthesis.drafted] at ha
  have hfeature : ∀ u ∈ fs.mapIdx fun i f => Synthesis.featureTicket project now (mint (i + 1)) f,
      u.type = .feature := by
    intro u hu
    obtain ⟨i, _, rfl⟩ := List.mem_mapIdx.mp hu
    rfl
  obtain ⟨hedges, hsorted, hpath⟩ := Graph.analysis_of_features rfl hfeature ha
  obtain ⟨g, hg, -⟩ := analyze_eq_ok.mp ha
  have hids := (Graph.ofTickets_eq_ok.mp hg).1
  rw [hsorted, hdrafted, Synthesis.drafted, rankAll_of_order hids] at hus
  cases hus
  refine ⟨a, ?_, ?_, ?_⟩
  · simp only [Planner.enrich, assemble, enriched_of_idle he]
    rfl
  · rw [hedges]
    refine List.ext_getElem (by simp) fun i _ _ => ?_
    simp [Synthesis.featureTicket, Synthesis.setupTicket]
  · rw [hpath]
    cases fs <;> simp [Synthesis.featureTicket, Synthesis.setupTicket]

theorem commit_of_run (hq : s.project? b.project = some q)
    (h : (p.run s now mint b).outcome.error = none) :
    ∃ plan r, (p.plan now mint b.project (b.description.getD q.description) b.files).result = .ok plan ∧
      (s.putProject (Run.begun q now)).commit now plan.commit = .ok ((p.run s now mint b).store, r) ∧
      (p.run s now mint b).outcome =
        ⟨r.id, r.status, plan.commit.tickets, plan.criticalPath, plan.fallback, none⟩ := by
  obtain ⟨plan, hplan, -⟩ := exists_plan_of_run hq h
  rw [outcome_run_of_plan hq hplan] at h
  obtain ⟨s', r, hcommit⟩ := Run.error_finish_eq_none_iff.mp h
  refine ⟨plan, r, hplan, ?_, ?_⟩
  · rw [store_run_of_plan hq hplan, (Run.finish_of_commit hcommit _).2.2]
    exact hcommit
  · rw [outcome_run_of_plan hq hplan, Run.finish, hcommit]

end Planner

/-! ### Listing -/

namespace Store

/-- **Tickets of a project that are stored in the order of their ranks** are listed so, if the limit leaves room for
all of them. -/
theorem list_of_ranked (hstored : s.ticketsOf project = ts)
    (hranks : ∀ i (hi : i < ts.length), ts[i].rank = some i) {limit : Int} (hlimit : (ts.length : Int) ≤ limit) :
    s.list { project := some project, limit := limit } = ts := by
  have haccepts : s.tickets.filter (Filter.accepts { project := some project, limit := limit }) = ts := by
    rw [← hstored, ticketsOf]
    refine List.filter_congr fun t _ => ?_
    simp [Filter.accepts, eq_comm]
  have hsorted : ts.Pairwise fun t u => t.listedBefore u = true := by
    refine List.pairwise_iff_getElem.mpr fun i j hi hj hij => ?_
    simp [Ticket.listedBefore, hranks, hij]
  have hmatching : s.matching { project := some project, limit := limit } = ts := by
    rw [matching, haccepts, List.mergeSort_of_pairwise hsorted]
  rw [list_eq_take s (show 0 ≤ limit by omega), hmatching]
  exact List.take_of_length_le (show ts.length ≤ limit.toNat by omega)

end Store

/-! ### What a run leaves -/

/-- **A ticket made from a feature.** -/
structure Ticket.MadeFrom (f : Feature) (t : Ticket) : Prop where
  type : t.type = .feature
  status : t.status = .pending
  feature : t.feature = some f.id
  title : t.title = f.name
  hours : t.estimatedHours = f.hours
  files : t.paths = f.files
  priority : t.priority = Synthesis.priorityOf f.complexity
  category : t.category = some (if f.userFacing then "Frontend" else "Backend")

/-- **A run that has made a setup ticket and others from features**: the tickets in execution order, each of the others
waiting for the first; what is listed and what the project tells of itself are what the outcome says. -/
structure Run.Makes (r : Run) (project : String) (fs : List Feature) (setup : Ticket) (others : List Ticket) :
    Prop where
  tickets : r.outcome.tickets = setup :: others
  first : setup.type = .setup ∧ setup.status = .pending
  made : List.Forall₂ Ticket.MadeFrom fs others
  ranks : (setup :: others).map (·.rank) = (List.range (fs.length + 1)).map some
  edges : r.store.edgesOf project = others.map fun t => ⟨t.id, setup.id, .blocks⟩
  criticalPath : r.outcome.criticalPath = setup.id :: (others.head?.map (·.id)).toList
  listed : ∀ limit : Int, (fs.length : Int) + 1 ≤ limit →
    List.Forall₂ Ticket.SameAs (r.store.list { project := some project, limit := limit }) r.outcome.tickets
  /-- Zero hours with a sign are the only ones that are listed otherwise. -/
  listedAsMade : (∀ f ∈ fs, storedHours f.hours = f.hours) → ∀ limit : Int, (fs.length : Int) + 1 ≤ limit →
    r.store.list { project := some project, limit := limit } = r.outcome.tickets
  summary : ∃ q summary, r.store.project? project = some q ∧ q.summary = some summary ∧
    q.totalTickets = fs.length + 1 ∧ summary.tickets = fs.length + 1 ∧ summary.features = fs.length ∧
    summary.criticalPath = r.outcome.criticalPath ∧ summary.fallback = r.outcome.fallback

namespace Planner

theorem backlog_eq_cons (project description : String) (now : Instant) :
    backlog project description now mint fs =
      { Synthesis.setupTicket project description now (mint 0) with rank := some 0 } ::
        fs.mapIdx fun i f =>
          { Synthesis.featureTicket project now (mint (i + 1)) f with rank := some (i + 1) } := by
  rw [backlog, inOrder, Synthesis.drafted, List.mapIdx_cons, List.mapIdx_mapIdx]
  rfl

theorem forall₂_madeFrom (project : String) (now : Instant) (mint : ℕ → String) (fs : List Feature) :
    List.Forall₂ Ticket.MadeFrom fs (fs.mapIdx fun i f =>
      { Synthesis.featureTicket project now (mint (i + 1)) f with rank := some (i + 1) }) := by
  refine List.forall₂_iff_get.mpr ⟨by simp, fun i hi _ => ?_⟩
  simp only [List.get_eq_getElem, List.getElem_mapIdx]
  refine ⟨rfl, rfl, rfl, rfl, rfl, ?_, rfl, rfl⟩
  simp only [Ticket.paths, Synthesis.featureTicket, List.map_map, Function.comp_def, List.map_id']

/-- Tickets of a backlog are dated now, nobody has worked on them yet, and their hours are those of features. -/
theorem of_mem_backlog (ht : t ∈ backlog project description now mint fs) :
    t.createdAt = now ∧ t.updatedAt = now ∧ t.actualHours = none ∧
      (t.estimatedHours = 2 ∨ ∃ f ∈ fs, t.estimatedHours = f.hours) := by
  rw [backlog_eq_cons] at ht
  rcases List.mem_cons.mp ht with rfl | ht
  · exact ⟨rfl, rfl, rfl, Or.inl rfl⟩
  · obtain ⟨i, hi, rfl⟩ := List.mem_mapIdx.mp ht
    exact ⟨rfl, rfl, rfl, Or.inr ⟨fs[i], List.getElem_mem hi, rfl⟩⟩

theorem stored_of_mem_backlog (hhours : ∀ f ∈ fs, storedHours f.hours = f.hours)
    (ht : t ∈ backlog project description now mint fs) : t.stored now = t := by
  obtain ⟨hcreated, hupdated, hactual, hestimated⟩ := of_mem_backlog ht
  have hkept : storedHours t.estimatedHours = t.estimatedHours := by
    rcases hestimated with h | ⟨f, hf, h⟩
    · rw [h]
      decide
    · rw [h, hhours f hf]
  rw [Ticket.stored, hkept, hactual, hcreated, hupdated, Instant.stored_self]
  cases t
  simp_all

/-- **A backlog that has been committed** is what its run makes of the features. -/
theorem makes_of_commit {r : Run} {a : Analysis} {q : Project}
    (hcommit : s.commit now
      (assemble project files found a (backlog project description now mint (featuresOf found))).commit =
        .ok (r.store, q))
    (htickets : r.outcome.tickets = backlog project description now mint (featuresOf found))
    (hpath : r.outcome.criticalPath = a.criticalPath) (hfallback : r.outcome.fallback = found.isNone)
    (hedges : a.graph.edges = (List.range (featuresOf found).length).map
      fun i => ⟨mint (i + 1), mint 0, .blocks⟩)
    (hlongest : a.criticalPath = mint 0 :: if featuresOf found = [] then [] else [mint 1]) :
    ∃ setup others, r.Makes project (featuresOf found) setup others := by
  have hlength : (backlog project description now mint (featuresOf found)).length =
      (featuresOf found).length + 1 := by simp [backlog_eq_cons]
  have hstored : r.store.ticketsOf project =
      (backlog project description now mint (featuresOf found)).map (·.stored now) :=
    (Store.ticketsOf_commit hcommit project).trans (if_pos rfl)
  have hlist : ∀ limit : Int, ((featuresOf found).length : Int) + 1 ≤ limit →
      r.store.list { project := some project, limit := limit } =
        (backlog project description now mint (featuresOf found)).map (·.stored now) := by
    intro limit hlimit
    refine Store.list_of_ranked hstored (fun i hi => ?_) (by rw [List.length_map, hlength]; omega)
    rw [List.getElem_map]
    rw [List.length_map] at hi
    exact rank_getElem_inOrder hi
  obtain ⟨-, q', -, hfits, hresult⟩ := Store.commit_eq_ok.mp hcommit
  have hnumber := fun t ht => Bool.eq_false_iff.mpr (hfits.hours t ht)
  refine ⟨_, _, htickets.trans (backlog_eq_cons _ _ _), ⟨rfl, rfl⟩, forall₂_madeFrom _ _ _ _, ?_, ?_, ?_, ?_, ?_, ?_⟩
  · rw [← backlog_eq_cons project description]
    refine List.ext_getElem (by simp [hlength]) fun i hi _ => ?_
    rw [List.getElem_map, List.getElem_map, List.getElem_range]
    rw [List.length_map] at hi
    exact rank_getElem_inOrder hi
  · refine (Store.edgesOf_commit hcommit project).trans ((if_pos rfl).trans (hedges.trans ?_))
    refine List.ext_getElem (by simp) fun i _ _ => ?_
    simp [Synthesis.featureTicket, Synthesis.setupTicket]
  · rw [hpath, hlongest]
    cases featuresOf found <;> simp [Synthesis.featureTicket, Synthesis.setupTicket]
  · intro limit hlimit
    rw [hlist limit hlimit, htickets, List.forall₂_map_left_iff, List.forall₂_same]
    intro t ht
    obtain ⟨hcreated, hupdated, hactual, -⟩ := of_mem_backlog ht
    have hmeasured : t.Measured := ⟨hnumber t ht, by simp [hactual]⟩
    exact hmeasured.sameAs_stored (by rw [hcreated, Instant.stored_self]) (by rw [hupdated, Instant.stored_self])
  · intro hhours limit hlimit
    rw [hlist limit hlimit, htickets]
    exact (List.map_congr_left fun t ht => stored_of_mem_backlog hhours ht).trans (List.map_id _)
  · obtain ⟨-, rfl⟩ := Prod.mk.inj hresult
    exact ⟨_, _, Store.project?_commit hcommit, rfl, hlength, hlength, rfl, hpath.symm, hfallback.symm⟩

/-- **What a run leaves** that succeeds, with an enricher that leaves tickets as they are or fails: all of it is told
by the features. -/
theorem backlog_of_run (hp : p.analyzer = analyze) (he : p.enricher.Idle)
    (h : (p.run s now mint b).outcome.error = none) :
    ∃ q, s.project? b.project = some q ∧
      ∃ found, (p.extract b.files (b.description.getD q.description)).result = found ∧
        (p.run s now mint b).outcome.fallback = found.isNone ∧
        (found = none → featuresOf found = []) ∧
        (p.run s now mint b).outcome.tickets =
          backlog b.project (b.description.getD q.description) now mint (featuresOf found) ∧
        ∃ setup others, (p.run s now mint b).Makes b.project (featuresOf found) setup others := by
  obtain ⟨q, hq⟩ : ∃ q, s.project? b.project = some q := by
    cases hq : s.project? b.project with
    | some q => exact ⟨q, rfl⟩
    | none =>
      rw [run_of_missing hq] at h
      cases h
  obtain ⟨plan, r, hplan, hcommit, houtcome⟩ := commit_of_run hq h
  obtain ⟨a, rfl, hedges, hpath⟩ := plan_eq_closed hp he hplan
  refine ⟨q, hq, _, rfl, by rw [houtcome]; rfl, fun hnone => by rw [hnone]; rfl, by rw [houtcome]; rfl, ?_⟩
  exact makes_of_commit hcommit (by rw [houtcome]; rfl) (by rw [houtcome]; rfl) (by rw [houtcome]; rfl) hedges
    hpath

/-- Two features are found, and the enricher fails. -/
def findingTwo : Planner := { finding ["a", "b"] with enricher := .failing }

theorem backlog_of_run_two :
    (findingTwo.run oneProject default mintTally ⟨"p", ["a.ts"], none⟩).outcome.error = none ∧
    ∃ setup others, (findingTwo.run oneProject default mintTally ⟨"p", ["a.ts"], none⟩).Makes "p"
      [shopFeature "a", shopFeature "b"] setup others := by
  have hq : oneProject.project? "p" = some oneProject.projects.head! := rfl
  have hrewords : findingTwo.enricher.Rewords := Enricher.Standard.rewords (Or.inr (Or.inl rfl))
  obtain ⟨plan, hplan⟩ : ∃ plan, (findingTwo.plan default mintTally "p" "sells books" ["a.ts"]).result = .ok plan :=
    exists_plan rfl oneProject_fresh.injective (by simp) (acceptable_iff.mpr rfl)
  have hhours : ∀ f ∈ featuresOf (findingTwo.extract ["a.ts"] "sells books").result, f.hours.isNaN = false := by
    intro f hf
    obtain ⟨id, -, rfl⟩ := List.mem_map.mp (show f ∈ ["a", "b"].map shopFeature from hf)
    show (2 : Float).isNaN = false
    decide
  have hnone := error_run_of_plan (b := ⟨"p", ["a.ts"], none⟩) rfl hrewords oneProject_fresh hq hhours hplan
  obtain ⟨_, -, _, rfl, -, -, -, hmakes⟩ := backlog_of_run rfl Enricher.idle_failing hnone
  exact ⟨hnone, hmakes⟩

end Planner

end Backlog
