import Backlog.Proofs.Generation.Enrichment
import Backlog.Proofs.Generation.Run
import Backlog.Proofs.Store.Transaction

/-! # When generation runs succeed

What is extracted is acceptable if nothing is known, or if every feature has a name, a complexity from 1 to 10
and an id of its own (`Extraction.Acceptable`). From such features a draft is always made: the rules never
make a circle and the order has every ticket (`exists_draft`). Its rows agree with each other, and with
those of any store that knows none of the new ids (`takes_draft`), and enrichers that only reword keep it
so. Hence a run for a project that is there with some files succeeds if and only if the features are
acceptable (`run_succeeds_iff`). -/

namespace Backlog

variable {s s' : Store} {now : Instant} {mint : ℕ → String} {project description : String}
  {files : List String} {fs : List Feature} {ts us : List Ticket} {p : Planner} {b : Brief}
  {q : Project}

/-! ### Features -/

/-- A feature that a ticket can be made from. -/
structure Feature.Sound (f : Feature) : Prop where
  name : Text.isBlankText f.name = false
  complexity : 1 ≤ f.complexity ∧ f.complexity ≤ 10

namespace Synthesis

theorem check_eq_ok : ∀ {fs : List Feature} {seen : List String},
    check seen fs = .ok () ↔
      (∀ f ∈ fs, f.Sound) ∧ (∀ f ∈ fs, f.id ∉ seen) ∧ (fs.map (·.id)).Nodup
  | [], seen => by simp [check]
  | f :: fs, seen => by
    simp only [check, ite_error_eq_ok, check_eq_ok, List.forall_mem_cons, List.map_cons,
      List.nodup_cons, List.contains_iff_mem, Bool.not_eq_true]
    constructor
    · rintro ⟨hname, hrange, hseen, hsound, hfresh, hnodup⟩
      refine ⟨⟨⟨hname, by omega⟩, hsound⟩, ⟨hseen, fun g hg => ?_⟩, fun hid => ?_, hnodup⟩
      · exact List.not_mem_of_not_mem_cons (hfresh g hg)
      · obtain ⟨g, hg, hgf⟩ := List.mem_map.mp hid
        exact List.ne_of_not_mem_cons (hfresh g hg) hgf
    · rintro ⟨⟨hf, hsound⟩, ⟨hseen, hfresh⟩, hid, hnodup⟩
      obtain ⟨hlow, hhigh⟩ := hf.complexity
      refine ⟨hf.name, by omega, hseen, hsound, fun g hg => ?_, hnodup⟩
      exact List.not_mem_cons_of_ne_of_not_mem (fun hgf => hid (hgf ▸ List.mem_map_of_mem hg))
        (hfresh g hg)

/-- Why one feature is refused, given the ids that are taken. -/
def Refusal.Of (seen : List String) (f : Feature) : Refusal → Prop
  | .nameless id => Text.isBlankText f.name = true ∧ id = f.id
  | .complexityOutside id c => (f.complexity < 1 ∨ 10 < f.complexity) ∧ id = f.id ∧ c = f.complexity
  | .duplicateId id => f.id ∈ seen ∧ id = f.id

/-- **The first feature that is refused**, and why: all before it are accepted. -/
theorem check_eq_error {r : Refusal} : ∀ {fs : List Feature} {seen : List String},
    check seen fs = .error r → ∃ before f after, fs = before ++ f :: after ∧
      check seen before = .ok () ∧ r.Of (before.map (·.id) ++ seen) f
  | [], seen, h => by cases h
  | f :: fs, seen, h => by
    rw [check] at h
    by_cases hname : Text.isBlankText f.name = true
    · rw [if_pos hname] at h
      cases h
      exact ⟨[], f, fs, rfl, rfl, hname, rfl⟩
    by_cases hrange : f.complexity < 1 ∨ 10 < f.complexity
    · rw [if_neg hname, if_pos hrange] at h
      cases h
      exact ⟨[], f, fs, rfl, rfl, hrange, rfl, rfl⟩
    by_cases hseen : seen.contains f.id = true
    · rw [if_neg hname, if_neg hrange, if_pos hseen] at h
      cases h
      exact ⟨[], f, fs, rfl, rfl, List.contains_iff_mem.mp hseen, rfl⟩
    · rw [if_neg hname, if_neg hrange, if_neg hseen] at h
      obtain ⟨before, g, after, rfl, hok, hrefused⟩ := check_eq_error h
      refine ⟨f :: before, g, after, rfl, ?_, ?_⟩
      · rw [check, if_neg hname, if_neg hrange, if_neg hseen, hok]
      · cases r with
        | nameless id => exact hrefused
        | complexityOutside id c => exact hrefused
        | duplicateId id => exact ⟨by simpa [or_left_comm] using hrefused.1, hrefused.2⟩

/-- The tickets of a project before they are ranked. -/
def drafted (project description : String) (now : Instant) (mint : ℕ → String) (fs : List Feature) :
    List Ticket :=
  setupTicket project description now (mint 0) ::
    fs.mapIdx fun i f => featureTicket project now (mint (i + 1)) f

theorem map_id_drafted (project description : String) (now : Instant) :
    (drafted project description now mint fs).map (·.id) = (List.range (fs.length + 1)).map mint := by
  refine List.ext_getElem (by simp [drafted]) fun i _ _ => ?_
  rcases i with _ | i
  · simp [drafted, setupTicket]
  · simp [drafted, featureTicket]

theorem project_of_mem_drafted {t : Ticket} (ht : t ∈ drafted project description now mint fs) :
    t.project = project := by
  rcases List.mem_cons.mp ht with rfl | ht
  · rfl
  · obtain ⟨i, _, rfl⟩ := List.mem_mapIdx.mp ht
    rfl

theorem pending_of_mem_drafted {t : Ticket} (ht : t ∈ drafted project description now mint fs) :
    t.status = .pending ∧ ∃ i, mint i = t.id := by
  rcases List.mem_cons.mp ht with rfl | ht
  · exact ⟨rfl, 0, rfl⟩
  · obtain ⟨i, _, rfl⟩ := List.mem_mapIdx.mp ht
    exact ⟨rfl, i + 1, rfl⟩

theorem hours_of_mem_drafted (hhours : ∀ f ∈ fs, f.hours.isNaN = false) {t : Ticket}
    (ht : t ∈ drafted project description now mint fs) : t.estimatedHours.isNaN = false := by
  rcases List.mem_cons.mp ht with rfl | ht
  · show (2 : Float).isNaN = false
    decide
  · obtain ⟨i, hi, rfl⟩ := List.mem_mapIdx.mp ht
    exact hhours _ (List.getElem_mem hi)

end Synthesis

/-! ### What is extracted -/

/-- **What can be made into tickets**: nothing, or features that are sound and have ids of their own. -/
def Extraction.Acceptable : Extraction → Prop
  | .extracted found => (∀ f ∈ found.features, f.Sound) ∧ (found.features.map (·.id)).Nodup
  | .unavailable | .failed _ => True

namespace Store

/-- **New ids**: no two are the same and none is known to a store. -/
structure Fresh (s : Store) (mint : ℕ → String) : Prop where
  injective : Function.Injective mint
  tickets : ∀ t ∈ s.tickets, ∀ i, t.id ≠ mint i
  edges : ∀ e ∈ s.edges, ∀ i, e.2.ticket ≠ mint i

theorem Fresh.putProject (hs : s.Fresh mint) (q : Project) : (s.putProject q).Fresh mint :=
  ⟨hs.injective, hs.tickets, hs.edges⟩

/-- Of tickets that stay in their project a store looks at ids and ranks. -/
theorem Takes.of_columns {c : Commit} (h : s.Takes c) (hids : us.map (·.id) = c.tickets.map (·.id))
    (hranks : us.map (·.rank) = c.tickets.map (·.rank)) (hown : ∀ u ∈ us, u.project = c.project) :
    s.Takes { c with tickets := us } := by
  refine ⟨hown, h.project, ?_, ?_, ?_, h.loopless, h.edges, h.newEdges, h.contexts⟩
  · exact hids ▸ h.ids
  · intro u hu v hv hid
    have hmem : u.id ∈ c.tickets.map (·.id) := hids ▸ List.mem_map_of_mem hu
    obtain ⟨t, ht, htu⟩ := List.mem_map.mp hmem
    exact h.newIds t ht v hv (hid.trans htu.symm)
  · have hnodup := h.ranks
    have hcolumn : ∀ ts : List Ticket, ts.filterMap (·.rank) = (ts.map (·.rank)).filterMap id :=
      fun ts => by rw [List.filterMap_map]; rfl
    rw [hcolumn, ← hranks, ← hcolumn] at hnodup
    exact hnodup

/-- Whether a store takes a commit can be told without the texts of its tickets. -/
theorem Takes.of_bare {c : Commit} (h : s.Takes c)
    (hbare : us.map Ticket.bare = c.tickets.map Ticket.bare) : s.Takes { c with tickets := us } := by
  refine h.of_columns (map_eq_of_map_bare (fun _ => rfl) hbare) (map_eq_of_map_bare (fun _ => rfl) hbare)
    fun u hu => ?_
  have hmem : u.bare ∈ c.tickets.map Ticket.bare := hbare ▸ List.mem_map_of_mem hu
  obtain ⟨t, ht, htu⟩ := List.mem_map.mp hmem
  exact (congrArg Ticket.project htu).symm.trans (h.own t ht)

end Store

namespace Planner

open Run

/-- How the extraction of features ends; without an extractor they are unavailable. -/
def extraction (p : Planner) (files : List String) (description : String) : Extraction :=
  match p.extractor with
  | none => .unavailable
  | some e => (e files description).result

/-- The features that tickets are made from. -/
def featuresOf (found : Option Findings) : List Feature := (found.map (·.features)).getD []

theorem result_extract :
    (p.extract files description).result = findings? (p.extraction files description) := by
  unfold extract extraction
  cases p.extractor <;> rfl

theorem acceptable_iff {x : Extraction} :
    x.Acceptable ↔ Synthesis.check [] (featuresOf (findings? x)) = .ok () := by
  cases x with
  | extracted found => simp [Extraction.Acceptable, findings?, featuresOf, Synthesis.check_eq_ok]
  | unavailable => simp [Extraction.Acceptable, findings?, featuresOf, Synthesis.check]
  | failed _ => simp [Extraction.Acceptable, findings?, featuresOf, Synthesis.check]

/-! ### Drafts -/

variable {found : Option Findings} {plan : Plan}

/-- **From acceptable features a draft is made.** -/
theorem exists_draft (hp : p.analyzer = analyze) (hmint : Function.Injective mint)
    (h : Synthesis.check [] (featuresOf found) = .ok ()) :
    ∃ plan, p.draft now mint project description files found = .ok plan := by
  have hts : Synthesis.synthesize project description now mint (featuresOf found) =
      .ok (Synthesis.drafted project description now mint (featuresOf found)) :=
    Synthesis.synthesize_eq_ok.mpr ⟨h, rfl⟩
  have hids : ((Synthesis.drafted project description now mint (featuresOf found)).map (·.id)).Nodup := by
    rw [Synthesis.map_id_drafted]
    exact List.nodup_range.map hmint
  obtain ⟨g, hg⟩ : ∃ g, Graph.ofTickets
      (Synthesis.drafted project description now mint (featuresOf found)) = .ok g :=
    ⟨_, Graph.ofTickets_eq_ok.mpr ⟨hids, by rw [Synthesis.filter_isSetup hts]; rfl, rfl⟩⟩
  have ho := Graph.executionOrder_postOrder (Graph.wellFormed_ofTickets hg) (Graph.acyclic_ofTickets hg)
  have hanalyzed := analyze_of_ofTickets hg
  rw [← hp] at hanalyzed
  refine ⟨_, draft_eq_ok.mpr ⟨_, _, _, hts, hanalyzed, rfl, rankAll_eq_ok.mpr ⟨fun t ht => ?_, rfl⟩, rfl⟩⟩
  exact ho.mem_iff.mpr (Graph.mem_nodes_ofTickets hg ht)

theorem draft_of_check_error {r : Synthesis.Refusal}
    (h : Synthesis.check [] (featuresOf found) = .error r) :
    p.draft now mint project description files found = .error (.features r) := by
  have hts : Synthesis.synthesize project description now mint (featuresOf found) = .error r := by
    rw [Synthesis.synthesize, h]
    rfl
  show ((Synthesis.synthesize project description now mint (featuresOf found)).mapError _ >>= _) = _
  rw [hts]
  rfl

theorem nodup_kind_stage (files : List String) (found : Option Findings) (a : Analysis) :
    ((Context.stage files found a).map (·.kind)).Nodup := by
  cases found <;> simp [Context.stage, Context.kind, Context.ofFiles]

theorem map_id_of_rankAll {sorted : List String}
    (h : rankAll sorted (Synthesis.drafted project description now mint fs) = .ok us) :
    (us.map (·.id)).Perm ((List.range (fs.length + 1)).map mint) := by
  rw [← Synthesis.map_id_drafted project description now]
  have hperm := (perm_of_rankAll h).map (·.id)
  rwa [List.map_map] at hperm

/-- **The rows of a draft fit together**, and they fit in any store that knows none of the new ids. -/
theorem takes_draft (hp : p.analyzer = analyze) (hs : s.Fresh mint)
    (hproject : project ∈ s.projects.map (·.id))
    (h : p.draft now mint project description files found = .ok plan) : s.Takes plan.commit := by
  obtain ⟨ts, a, us, hts, ha, -, hus, rfl⟩ := draft_eq_ok.mp h
  rw [hp] at ha
  obtain ⟨g, hg, rfl⟩ := analyze_eq_ok.mp ha
  have hwf := Graph.wellFormed_ofTickets hg
  have ho := Graph.executionOrder_postOrder hwf (Graph.acyclic_ofTickets hg)
  have hranked := ranked_of_rankAll hg (Synthesis.filter_isSetup hts) ho hus
  obtain ⟨-, hdrafted⟩ := Synthesis.synthesize_eq_ok.mp hts
  change ts = Synthesis.drafted project description now mint (featuresOf found) at hdrafted
  subst hdrafted
  have hids := map_id_of_rankAll hus
  have hminted : ∀ id ∈ us.map (·.id), ∃ i, mint i = id := by
    intro id hid
    obtain ⟨i, -, hi⟩ := List.mem_map.mp (hids.mem_iff.mp hid)
    exact ⟨i, hi⟩
  refine ⟨?_, hproject, ?_, ?_, ?_, hranked.loopless, ?_, ?_, nodup_kind_stage _ _ _⟩
  · intro t ht
    obtain ⟨u, hu, rfl⟩ := List.mem_map.mp ((perm_of_rankAll hus).mem_iff.mp ht)
    show u.project = project
    exact Synthesis.project_of_mem_drafted hu
  · exact hids.nodup_iff.mpr (List.nodup_range.map hs.injective)
  · intro t ht u hu hid
    obtain ⟨i, hi⟩ := hminted t.id (List.mem_map_of_mem ht)
    exact absurd (hid.trans hi.symm) (hs.tickets u hu i)
  -- the ranks are 0, 1, 2 and so on in some order
  · have hranks := hranked.ranks.filterMap id
    rw [List.filterMap_map, List.filterMap_map] at hranks
    exact hranks.nodup_iff.mpr (by simpa using List.nodup_range)
  · rw [List.nodup_iff_pairwise_ne, List.pairwise_map]
    exact hwf.pairwise_edges.imp fun hne hpair => hne (Prod.mk.inj hpair)
  -- an edge starts at a new ticket, which no stored edge does
  · intro d hd f hf hticket _
    have hnode := (hwf.ends d (hwf.mem_edges.mp hd)).1
    rw [Graph.nodes_ofTickets hg, Synthesis.map_id_drafted, ← hids.mem_iff] at hnode
    obtain ⟨i, hi⟩ := hminted _ hnode
    exact absurd (hticket.trans hi.symm) (hs.edges f hf i)

/-! ### Plans and runs -/

/-- **What is planned is taken** by any store that has the project and knows none of the new ids. -/
theorem takes_plan (hp : p.analyzer = analyze) (he : p.enricher.Rewords) (hs : s.Fresh mint)
    (hproject : project ∈ s.projects.map (·.id))
    (h : (p.plan now mint project description files).result = .ok plan) : s.Takes plan.commit := by
  obtain ⟨-, draft, hdraft, rfl⟩ := plan_eq_ok.mp h
  exact (takes_draft hp hs hproject hdraft).of_bare (map_bare_enriched he _ _)

theorem bare_of_mem_plan (he : p.enricher.Rewords) {t : Ticket}
    (h : (p.plan now mint project description files).result = .ok plan) (ht : t ∈ plan.commit.tickets) :
    ∃ u ∈ Synthesis.drafted project description now mint (featuresOf (p.extract files description).result),
      ∃ sorted, t.bare = (placed sorted u).bare := by
  obtain ⟨-, draft, hdraft, rfl⟩ := plan_eq_ok.mp h
  obtain ⟨ts, a, us, hts, -, -, hus, rfl⟩ := draft_eq_ok.mp hdraft
  obtain ⟨-, rfl⟩ := Synthesis.synthesize_eq_ok.mp hts
  have hmem : t.bare ∈ us.map Ticket.bare := map_bare_enriched he us description ▸ List.mem_map_of_mem ht
  obtain ⟨v, hv, hvt⟩ := List.mem_map.mp hmem
  obtain ⟨u, hu, rfl⟩ := List.mem_map.mp ((perm_of_rankAll hus).mem_iff.mp hv)
  exact ⟨u, hu, a.sorted, hvt.symm⟩

theorem pending_of_plan (he : p.enricher.Rewords)
    (h : (p.plan now mint project description files).result = .ok plan) :
    ∀ t ∈ plan.commit.tickets, t.status = .pending ∧ ∃ i, mint i = t.id := by
  intro t ht
  obtain ⟨u, hu, sorted, hbare⟩ := bare_of_mem_plan he h ht
  obtain ⟨hstatus, i, hi⟩ := Synthesis.pending_of_mem_drafted hu
  exact ⟨(congrArg Ticket.status hbare).trans hstatus, i, hi.trans (congrArg Ticket.id hbare).symm⟩

/-- The hours of what is planned are numbers if those of the features are. -/
theorem hours_of_plan (he : p.enricher.Rewords)
    (hhours : ∀ f ∈ featuresOf (p.extract files description).result, f.hours.isNaN = false)
    (h : (p.plan now mint project description files).result = .ok plan) :
    ∀ t ∈ plan.commit.tickets, t.estimatedHours.isNaN = false := by
  intro t ht
  obtain ⟨u, hu, sorted, hbare⟩ := bare_of_mem_plan he h ht
  have hnumber := Synthesis.hours_of_mem_drafted hhours hu
  exact (congrArg (·.estimatedHours.isNaN) hbare).trans hnumber

theorem exists_plan (hp : p.analyzer = analyze) (hmint : Function.Injective mint) (hfiles : files ≠ [])
    (h : (p.extraction files description).Acceptable) :
    ∃ plan, (p.plan now mint project description files).result = .ok plan := by
  rw [acceptable_iff, ← result_extract] at h
  obtain ⟨draft, hdraft⟩ : ∃ draft, p.draft now mint project description files
      (p.extract files description).result = .ok draft := exists_draft hp hmint h
  exact ⟨_, plan_eq_ok.mpr ⟨hfiles, draft, hdraft, rfl⟩⟩

theorem plan_of_not_acceptable (hfiles : files ≠ []) (h : ¬ (p.extraction files description).Acceptable) :
    ∃ r, (p.plan now mint project description files).result = .error (.features r) := by
  rw [acceptable_iff, ← result_extract] at h
  cases hcheck : Synthesis.check [] (featuresOf (p.extract files description).result) with
  | ok _ => exact absurd hcheck h
  | error r => exact ⟨r, plan_eq_error.mpr (Or.inr ⟨hfiles, draft_of_check_error hcheck⟩)⟩

theorem mem_ids_begun {id : String} (hq : s.project? id = some q) (now : Instant) :
    id ∈ (s.putProject (begun q now)).projects.map (·.id) := by
  rw [Store.map_putProject (·.id) fun _ _ hid => hid]
  exact Store.exists_project?_iff.mp ⟨q, hq⟩

theorem error_run_of_plan_error {e : GenerationError} (hq : s.project? b.project = some q)
    (h : (p.plan now mint b.project (b.description.getD q.description) b.files).result = .error e) :
    (p.run s now mint b).outcome.error = some e := by
  rw [outcome_run_of_plan hq h]
  rfl

theorem error_run_of_plan (hp : p.analyzer = analyze) (he : p.enricher.Rewords) (hs : s.Fresh mint)
    (hq : s.project? b.project = some q)
    (hhours : ∀ f ∈ featuresOf (p.extract b.files (b.description.getD q.description)).result,
      f.hours.isNaN = false)
    (h : (p.plan now mint b.project (b.description.getD q.description) b.files).result = .ok plan) :
    (p.run s now mint b).outcome.error = none := by
  obtain ⟨s', r, hcommit⟩ := (Store.exists_commit_iff (hours_of_plan he hhours h)).mpr
    (takes_plan hp he (hs.putProject _) (mem_ids_begun hq now) h)
  rw [outcome_run_of_plan hq h]
  exact (finish_of_commit hcommit _).1

/-- **When runs succeed**: if the project is there, there are files, and what is extracted is acceptable. A
run for no project, without files or with other features fails for that reason and no other; so no run
is refused by the store, and none ends in a circle. -/
theorem run_succeeds_iff (hp : p.analyzer = analyze) (he : p.enricher.Standard) (hs : s.Fresh mint)
    (hhours : ∀ description found, p.extraction b.files description = .extracted found →
      ∀ f ∈ found.features, f.hours.isNaN = false) (now : Instant) :
    ((p.run s now mint b).outcome.error = none ↔
      ∃ q, s.project? b.project = some q ∧ b.files ≠ [] ∧
        (p.extraction b.files (b.description.getD q.description)).Acceptable) ∧
    (s.project? b.project = none →
      (p.run s now mint b).outcome.error = some (.projectMissing b.project)) ∧
    (∀ q, s.project? b.project = some q → b.files = [] →
      (p.run s now mint b).outcome.error = some .noFiles) ∧
    (∀ q, s.project? b.project = some q → b.files ≠ [] →
      ¬ (p.extraction b.files (b.description.getD q.description)).Acceptable →
      ∃ r, (p.run s now mint b).outcome.error = some (.features r)) ∧
    ∀ e, (p.run s now mint b).outcome.error = some e →
      (∀ cycles, e ≠ .cyclic cycles) ∧ ∀ e', e ≠ .store e' := by
  have hmissing : s.project? b.project = none →
      (p.run s now mint b).outcome.error = some (.projectMissing b.project) := by
    intro hq
    rw [run_of_missing hq]
    rfl
  have hempty : ∀ q, s.project? b.project = some q → b.files = [] →
      (p.run s now mint b).outcome.error = some .noFiles :=
    fun q hq hfiles => error_run_of_plan_error hq (plan_eq_error.mpr (Or.inl ⟨hfiles, rfl⟩))
  have hrefused : ∀ q, s.project? b.project = some q → b.files ≠ [] →
      ¬ (p.extraction b.files (b.description.getD q.description)).Acceptable →
      ∃ r, (p.run s now mint b).outcome.error = some (.features r) := by
    intro q hq hfiles hbad
    obtain ⟨r, hplan⟩ := plan_of_not_acceptable hfiles hbad
    exact ⟨r, error_run_of_plan_error hq hplan⟩
  have hdone : ∀ q, s.project? b.project = some q → b.files ≠ [] →
      (p.extraction b.files (b.description.getD q.description)).Acceptable →
      (p.run s now mint b).outcome.error = none := by
    intro q hq hfiles hgood
    obtain ⟨plan, hplan⟩ := exists_plan hp hs.injective hfiles hgood
    refine error_run_of_plan hp he.rewords hs hq (fun f hf => ?_) hplan
    rw [result_extract] at hf
    cases hx : p.extraction b.files (b.description.getD q.description) with
    | extracted found =>
      rw [hx] at hf
      exact hhours _ found hx f hf
    | unavailable => rw [hx] at hf; cases hf
    | failed _ => rw [hx] at hf; cases hf
  refine ⟨⟨fun hnone => ?_, fun ⟨q, hq, hfiles, hgood⟩ => hdone q hq hfiles hgood⟩, hmissing, hempty,
    hrefused, fun e herror => ?_⟩
  · cases hq : s.project? b.project with
    | none => simp [hmissing hq] at hnone
    | some q =>
      by_cases hfiles : b.files = []
      · simp [hempty q hq hfiles] at hnone
      · refine ⟨q, rfl, hfiles, ?_⟩
        by_contra hbad
        obtain ⟨r, hr⟩ := hrefused q hq hfiles hbad
        simp [hr] at hnone
  · have hcause : e = .projectMissing b.project ∨ e = .noFiles ∨ ∃ r, e = .features r := by
      cases hq : s.project? b.project with
      | none => exact Or.inl (Option.some.inj (herror.symm.trans (hmissing hq)))
      | some q =>
        by_cases hfiles : b.files = []
        · exact Or.inr (Or.inl (Option.some.inj (herror.symm.trans (hempty q hq hfiles))))
        · by_cases hgood : (p.extraction b.files (b.description.getD q.description)).Acceptable
          · rw [hdone q hq hfiles hgood] at herror
            cases herror
          · obtain ⟨r, hr⟩ := hrefused q hq hfiles hgood
            exact Or.inr (Or.inr ⟨r, Option.some.inj (herror.symm.trans hr)⟩)
    rcases hcause with rfl | rfl | ⟨r, rfl⟩ <;> simp

/-- A feature of a shop. -/
def shopFeature (id : String) : Feature := ⟨id, "Login", "", 3, [], true, 2⟩

/-- A planner that finds the features with some ids in every prototype. -/
def finding (ids : List String) : Planner where
  extractor := some (.fixed (.extracted ⟨ids.map shopFeature, [], none⟩))

/-- Ids that are told apart by their lengths. -/
def mintTally (i : ℕ) : String := String.ofList (List.replicate i 't')

theorem oneProject_fresh : oneProject.Fresh mintTally := by
  refine ⟨fun i j hij => ?_, by simp [oneProject], by simp [oneProject]⟩
  have hlength := congrArg String.length hij
  simpa [mintTally] using hlength

theorem run_succeeds_iff_shop :
    Store.Reachable (fun _ => True) oneProject ∧
    ((finding ["a", "b"]).run oneProject default mintTally ⟨"p", ["a.ts"], none⟩).outcome.error = none ∧
    ∃ r, ((finding ["a", "a"]).run oneProject default mintTally ⟨"p", ["a.ts"], none⟩).outcome.error =
      some (.features r) := by
  have hcreate : ({} : Store).createProject default "p" "Shop" "sells books" =
      .ok (oneProject, oneProject.projects.head!) := rfl
  have hhours : ∀ ids, ∀ description found,
      (finding ids).extraction ["a.ts"] description = .extracted found →
        ∀ f ∈ found.features, f.hours.isNaN = false := by
    rintro ids description _ ⟨⟩ f hf
    obtain ⟨id, -, rfl⟩ := List.mem_map.mp hf
    show (2 : Float).isNaN = false
    decide
  have hq : oneProject.project? "p" = some oneProject.projects.head! := rfl
  refine ⟨.single (.create hcreate), ?_, ?_⟩
  · refine (run_succeeds_iff rfl (Or.inl rfl) oneProject_fresh (hhours ["a", "b"]) default).1.mpr
      ⟨_, hq, by simp, ?_⟩
    exact acceptable_iff.mpr rfl
  · refine (run_succeeds_iff rfl (Or.inl rfl) oneProject_fresh (hhours ["a", "a"]) default).2.2.2.1 _ hq
      (by simp) fun h => ?_
    cases acceptable_iff.mp h

end Planner

end Backlog
