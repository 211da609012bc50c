import Backlog.Generation.Run
import Backlog.Proofs.Generation.Plan

/-! # Generation runs

A run for a project that does not exist does nothing (`run_of_missing`). Any other takes the project into
analysis and then commits a plan or notes an error (`run_of_project`, `finish_of_error`).

* `steps_of_run`: a run is a sequence of steps of the store, with the commit of its plan if any.
* `failed_run_keeps_rows`: a run that fails changes nothing but the row of its project. -/

namespace Backlog

variable {p : Planner} {s : Store} {now : Instant} {mint : Nat → String} {b : Brief} {q : Project}
  {id : String} {planned : Except GenerationError Plan} {e : GenerationError}

namespace Run

/-- A project that is taken into analysis. -/
def begun (q : Project) (now : Instant) : Project :=
  { q with status := .analyzing, failure := none, updatedAt := now }

/-- A project whose analysis has failed. -/
def failedProject (e : GenerationError) (now : Instant) (q : Project) : Project :=
  { q with status := .analyzing, failure := some e.message, updatedAt := now }

/-! ### How a run ends -/

/-- An error is noted, unless it says that there is no project. -/
theorem store_fail (hq : s.project? id = some q) (he : ∀ id', e ≠ .projectMissing id') :
    (fail s now id e).store = s.putProject (failedProject e now q) := by
  have hfail : s.failAnalysis now id e.message = .ok (s.putProject (failedProject e now q),
      failedProject e now q) := Store.failAnalysis_eq_ok.mpr ⟨q, _, hq, rfl, rfl⟩
  unfold fail
  split
  · exact absurd rfl (he _)
  · rw [hfail]

/-- **A run that fails** failed in planning or in storing its plan. -/
theorem finish_of_error (h : (finish s now id planned).outcome.error = some e) :
    finish s now id planned = fail s now id e ∧
      (planned = .error e ∨ ∃ plan e', planned = .ok plan ∧ s.commit now plan.commit = .error e' ∧
        e = .ofStore e') := by
  unfold finish at h ⊢
  cases planned with
  | error e' =>
    cases h
    exact ⟨rfl, Or.inl rfl⟩
  | ok plan =>
    dsimp only at h ⊢
    cases hc : s.commit now plan.commit with
    | error e' =>
      rw [hc] at h
      cases h
      exact ⟨rfl, Or.inr ⟨plan, e', rfl, hc, rfl⟩⟩
    | ok r =>
      rw [hc] at h
      cases h

theorem finish_of_commit {plan : Plan} {r : Store × Project} (h : s.commit now plan.commit = .ok r)
    (id : String) : (finish s now id (.ok plan)).outcome.error = none ∧
      (finish s now id (.ok plan)).outcome.tickets = plan.commit.tickets ∧
      (finish s now id (.ok plan)).store = r.1 := by
  rw [finish, h]
  exact ⟨rfl, rfl, rfl⟩

theorem finish_of_commit_error {plan : Plan} {e' : StoreError}
    (h : s.commit now plan.commit = .error e') :
    (finish s now id (.ok plan)).outcome.error = some (.ofStore e') := by
  rw [finish, h]
  rfl

theorem error_finish_eq_none_iff {plan : Plan} :
    (finish s now id (.ok plan)).outcome.error = none ↔ ∃ s' r, s.commit now plan.commit = .ok (s', r) := by
  cases hcommit : s.commit now plan.commit with
  | error e' => simp [finish_of_commit_error hcommit]
  | ok r => exact ⟨fun _ => ⟨r.1, r.2, rfl⟩, fun _ => (finish_of_commit hcommit id).1⟩

theorem ofStore_ne_projectMissing {c : Commit} {e' : StoreError} (hq : s.project? c.project = some q)
    (h : s.commit now c = .error e') (id' : String) :
    GenerationError.ofStore e' ≠ .projectMissing id' := by
  rcases Store.commit_eq_error h with ⟨t, -, -, rfl⟩ | ⟨hnone, -⟩ | ⟨k, rfl⟩
  · intro h; cases h
  · rw [hq] at hnone; cases hnone
  · intro h; cases h

theorem steps_of_fail (Allowed : Commit → Prop) :
    Relation.ReflTransGen (Store.Step Allowed) s (fail s now id e).store := by
  unfold fail
  split
  · exact .refl
  · split
    · rename_i hfail
      exact .single (.failAnalysis hfail)
    · exact .refl

theorem steps_of_finish {Allowed : Commit → Prop} (hplan : ∀ plan, planned = .ok plan → Allowed plan.commit) :
    Relation.ReflTransGen (Store.Step Allowed) s (finish s now id planned).store := by
  unfold finish
  cases planned with
  | error e => exact steps_of_fail Allowed
  | ok plan =>
    dsimp only
    cases hc : s.commit now plan.commit with
    | error e => exact steps_of_fail Allowed
    | ok r => exact .single (.commit (hplan plan rfl) hc)

end Run

namespace Planner

open Run

/-! ### Whole runs -/

theorem run_of_missing (h : s.project? b.project = none) :
    p.run s now mint b = fail s now b.project (.projectMissing b.project) := by
  simp [run, start, Store.beginAnalysis, Store.project, h, bind, Except.bind, GenerationError.ofStore]

theorem run_of_project (hq : s.project? b.project = some q) :
    p.run s now mint b =
      let planned := p.plan now mint b.project (b.description.getD q.description) b.files
      let r := finish (s.putProject (begun q now)) now b.project planned.result
      { r with
        events := ProjectChange.tell ⟨q.status, begun q now⟩ ++ r.events
        counts := planned.counts ++ r.counts
        requests := planned.requests } := by
  have hbegin : s.beginAnalysis now b.project =
      .ok (s.putProject (begun q now), ⟨q.status, begun q now⟩) :=
    Store.beginAnalysis_eq_ok.mpr ⟨q, _, hq, rfl, rfl⟩
  have hid : (begun q now).id = b.project := (Store.mem_of_project? hq).2
  simp only [run, start, hbegin, hid]
  rfl

theorem store_run_of_plan (hq : s.project? b.project = some q)
    (hplan : (p.plan now mint b.project (b.description.getD q.description) b.files).result = planned) :
    (p.run s now mint b).store =
      (finish (s.putProject (begun q now)) now b.project planned).store := by
  rw [run_of_project hq, ← hplan]

theorem outcome_run_of_plan (hq : s.project? b.project = some q)
    (hplan : (p.plan now mint b.project (b.description.getD q.description) b.files).result = planned) :
    (p.run s now mint b).outcome =
      (finish (s.putProject (begun q now)) now b.project planned).outcome := by
  rw [run_of_project hq, ← hplan]

/-- **A run is a sequence of steps**: the project is taken into analysis, then a plan is committed or an
error noted. -/
theorem steps_of_run {Allowed : Commit → Prop}
    (hplan : ∀ description plan,
      (p.plan now mint b.project description b.files).result = .ok plan → Allowed plan.commit) :
    Relation.ReflTransGen (Store.Step Allowed) s (p.run s now mint b).store := by
  cases hq : s.project? b.project with
  | none =>
    rw [run_of_missing hq]
    exact .refl
  | some q =>
    have hbegin : s.beginAnalysis now b.project =
        .ok (s.putProject (begun q now), ⟨q.status, begun q now⟩) :=
      Store.beginAnalysis_eq_ok.mpr ⟨q, _, hq, rfl, rfl⟩
    refine .head (.beginAnalysis hbegin) ?_
    rw [store_run_of_plan hq rfl]
    exact steps_of_finish (hplan _)

/-- **A run that fails changes nothing but the row of its project**, where it notes the error. If there is
no such project it changes nothing at all and tells nobody. -/
theorem failed_run_keeps_rows {Allowed : Commit → Prop} (hs : Store.Reachable Allowed s)
    (h : (p.run s now mint b).outcome.error = some e) :
    (p.run s now mint b).outcome.tickets = [] ∧
    ((∃ id, e = .projectMissing id) →
      (p.run s now mint b).store = s ∧ (p.run s now mint b).events = []) ∧
    ((¬ ∃ id, e = .projectMissing id) → b.project ∈ s.projects.map (·.id) ∧
      (p.run s now mint b).store = { s with
        projects := s.projects.map fun q =>
          if q.id = b.project then
            { q with status := .analyzing, failure := some e.message, updatedAt := now }
          else q }) := by
  have hkeyed := Store.Keyed.of_reachable hs
  cases hq : s.project? b.project with
  | none =>
    rw [run_of_missing hq] at h ⊢
    cases h
    exact ⟨rfl, fun _ => ⟨rfl, rfl⟩, fun hne => absurd ⟨_, rfl⟩ hne⟩
  | some q =>
    obtain ⟨hmem, hid⟩ := Store.mem_of_project? hq
    rw [run_of_project hq] at h ⊢
    have hbegun : (s.putProject (begun q now)).project? b.project = some (begun q now) :=
      hid ▸ Store.project?_putProject (hid ▸ hq)
    obtain ⟨hfail, hcause⟩ := finish_of_error h
    have hne : ∀ id', e ≠ .projectMissing id' := by
      intro id'
      rcases hcause with hplan | ⟨plan, e', hplan, hcommit, rfl⟩
      · rintro rfl
        exact plan_ne_projectMissing id' hplan
      · exact ofStore_ne_projectMissing (project_of_plan hplan ▸ hbegun) hcommit id'
    dsimp only
    rw [hfail]
    refine ⟨rfl, fun ⟨id', he⟩ => absurd he (hne id'), fun _ => ⟨?_, ?_⟩⟩
    · exact List.mem_map.mpr ⟨q, hmem, hid⟩
    · have hsame : (begun q now).id = (failedProject e now (begun q now)).id := rfl
      rw [store_fail hbegun hne, Store.putProject_putProject hsame]
      exact hkeyed.putProject_eq hq (failedProject e now) rfl

/-- A store with one project. -/
def oneProject : Store where
  projects := [⟨"p", "Shop", "sells books", .analyzing, 0, 0, none, none, none, default, default⟩]

/-- A planner that finds two tickets waiting for each other, whatever it is given. -/
def circular : Planner where
  analyzer := fun _ => .ok ⟨default, [], [], true, [["a", "b", "a"]]⟩

theorem failed_run_keeps_rows_circular :
    Store.Reachable (fun _ => True) oneProject ∧
      (circular.run oneProject default (fun _ => "t") ⟨"p", ["a.ts"], none⟩).store.projects.map
          (·.failure) = [some "cyclic dependency detected: a -> b -> a"] := by
  have hcreate : ({} : Store).createProject default "p" "Shop" "sells books" =
      .ok (oneProject, oneProject.projects.head!) := rfl
  have hs : Store.Reachable (fun _ => True) oneProject := .single (.create hcreate)
  have herror : (circular.run oneProject default (fun _ => "t") ⟨"p", ["a.ts"], none⟩).outcome.error =
      some (.cyclic [["a", "b", "a"]]) := rfl
  refine ⟨hs, ?_⟩
  rw [((failed_run_keeps_rows hs herror).2.2 (by simp)).2]
  rfl

end Planner

end Backlog
