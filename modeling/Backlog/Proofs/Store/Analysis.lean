import Backlog.Proofs.Store.Operation
import Mathlib.Data.List.Induction

/-! # The analysis of projects

Four operations write the status of a project, when it was analyzed, what the analysis found and what went
wrong, each of them some of these. Together they keep one rule (`Project.OnRecord`): a project that is not in
analysis has been analyzed, its summary is on record, and no failure is.

What one operation can make of a row is said once (`Project.Turn`), and of the whole list of projects once
(`Keyed.turned_perform`); the rule, and who may take a project into analysis or out of it
(`analysis_along_operations`), are read off there. -/

namespace Backlog

/-- **The record of a project agrees with its status.** -/
def Project.OnRecord (p : Project) : Prop :=
  p.status ≠ .analyzing → p.analyzedAt.isSome ∧ p.summary.isSome ∧ p.failure = none

/-- **What an operation makes of a project** of the store on which it is tried. -/
inductive Project.Turn (s : Store) (now : Instant) (op : Operation) (p : Project) : Project → Prop
  | stay : p.Turn s now op p
  | begun : op = .beginAnalysis p.id →
    p.Turn s now op { p with status := .analyzing, failure := none, updatedAt := now }
  | failed (detail : String) : op = .failAnalysis p.id detail →
    p.Turn s now op { p with status := .analyzing, failure := some detail, updatedAt := now }
  | moved (target : ProjectStatus) : op = .moveProject p.id target → p.status.canMoveTo target →
    p.Turn s now op { p with status := target, updatedAt := now }
  | committed (c : Commit) (r : Store × Project) : op = .commit c → c.project = p.id →
    s.commit now c = .ok r → p.Turn s now op (Store.reviewed p now c)
  | counted : p.Turn s now op
    { p with completedTickets := p.completedTickets + 1, updatedAt := now }

namespace Project.Turn

variable {s : Store} {now : Instant} {op : Operation} {p q : Project}

theorem id_eq (h : p.Turn s now op q) : q.id = p.id := by
  cases h <;> rfl

theorem onRecord (h : p.Turn s now op q) (hp : p.OnRecord) : q.OnRecord := by
  cases h with
  | stay => exact hp
  | begun => exact fun h => absurd rfl h
  | failed => exact fun h => absurd rfl h
  | moved target _ hmove =>
    -- a project in analysis cannot be moved by hand, so the rule held before
    rintro -
    have hout : p.status ≠ .analyzing := by
      simp only [ProjectStatus.canMoveTo, Bool.and_eq_true, bne_iff_ne] at hmove
      exact hmove.1
    exact hp hout
  | committed => exact fun _ => ⟨rfl, rfl, rfl⟩
  | counted => exact hp

/-- **Into analysis** leads its begin, or a failure of it. -/
theorem of_enters (h : p.Turn s now op q) (hp : p.status ≠ .analyzing) (hq : q.status = .analyzing) :
    op = .beginAnalysis p.id ∨ ∃ detail, op = .failAnalysis p.id detail := by
  cases h with
  | stay => exact absurd hq hp
  | begun hop => exact Or.inl hop
  | failed detail hop => exact Or.inr ⟨detail, hop⟩
  | moved target _ hmove =>
    obtain rfl : target = .analyzing := hq
    simp [ProjectStatus.canMoveTo] at hmove
  | committed => cases hq
  | counted => exact absurd hq hp

/-- **Out of analysis** leads a commit that is stored. -/
theorem of_leaves (h : p.Turn s now op q) (hp : p.status = .analyzing) (hq : q.status ≠ .analyzing) :
    ∃ c r, op = .commit c ∧ c.project = p.id ∧ s.commit now c = .ok r := by
  cases h with
  | stay => exact absurd hp hq
  | begun => exact absurd rfl hq
  | failed => exact absurd rfl hq
  | moved target _ hmove => simp [ProjectStatus.canMoveTo, hp] at hmove
  | committed c r hop hproject hr => exact ⟨c, r, hop, hproject, hr⟩
  | counted => exact absurd hp hq

end Project.Turn

namespace Store

variable {s s' : Store} {now : Instant} {op : Operation} {id : String} {p q : Project}

/-! ### The list of projects -/

/-- **What an operation makes of the projects**: each takes a turn, and at most one is added, which waits to
be analyzed. -/
def Turned (s : Store) (now : Instant) (op : Operation) (s' : Store) : Prop :=
  ∃ f new, s'.projects = s.projects.map f ++ new ∧ (∀ p ∈ s.projects, p.Turn s now op (f p)) ∧
    (new = [] ∨ ∃ id name description, op = .createProject id name description ∧
      (∀ p ∈ s.projects, p.id ≠ id) ∧
      new = [⟨id, name, description, .analyzing, 0, 0, none, none, none, now, now⟩])

theorem Turned.map (f : Project → Project) (h : s'.projects = s.projects.map f)
    (hf : ∀ p ∈ s.projects, p.Turn s now op (f p)) : s.Turned now op s' :=
  ⟨f, [], by rw [h, List.append_nil], hf, Or.inl rfl⟩

theorem Turned.of_projects_eq (h : s'.projects = s.projects) : s.Turned now op s' :=
  .map id (by rw [h, List.map_id]) fun _ _ => .stay

theorem Turned.settled {α : Type} {r : Except StoreError (Store × α)}
    (h : ∀ v, r = .ok v → s.Turned now op v.1) : s.Turned now op (s.settled r) := by
  cases r with
  | error e => exact .of_projects_eq rfl
  | ok v => exact h v rfl

theorem Turned.putProject (hs : s.Keyed) (hp : s.project? id = some p)
    (hprojects : s'.projects = (s.putProject q).projects) (hturn : p.Turn s now op q) :
    s.Turned now op s' := by
  refine .map (fun r => if r.id == q.id then q else r) hprojects fun r hr => ?_
  split_ifs with hrow
  · have heq : r = p :=
      hs.project_eq hr (mem_of_project? hp).1 ((beq_iff_eq.mp hrow).trans hturn.id_eq)
    exact heq ▸ hturn
  · exact .stay

/-- **An operation gives each project its turn.** -/
theorem Keyed.turned_perform (hs : s.Keyed) (now : Instant) (op : Operation) :
    s.Turned now op (s.perform now op) := by
  cases op with
  | createProject id name description =>
    refine .settled fun v hv => ?_
    obtain ⟨-, hnew, p, rfl, rfl⟩ := createProject_eq_ok.mp hv
    exact ⟨fun p => p, _, by rw [List.map_id'], fun _ _ => .stay,
      Or.inr ⟨id, name, description, rfl, hnew, rfl⟩⟩
  | beginAnalysis id =>
    refine .settled fun v hv => ?_
    obtain ⟨p, q, hp, rfl, rfl⟩ := beginAnalysis_eq_ok.mp hv
    obtain ⟨-, rfl⟩ := mem_of_project? hp
    exact .putProject hs hp rfl (.begun rfl)
  | failAnalysis id detail =>
    refine .settled fun v hv => ?_
    obtain ⟨p, q, hp, rfl, rfl⟩ := failAnalysis_eq_ok.mp hv
    obtain ⟨-, rfl⟩ := mem_of_project? hp
    exact .putProject hs hp rfl (.failed detail rfl)
  | moveProject id target =>
    refine .settled fun v hv => ?_
    obtain ⟨p, q, hp, hmove, rfl, rfl⟩ := moveProject_eq_ok.mp hv
    obtain ⟨-, rfl⟩ := mem_of_project? hp
    exact .putProject hs hp rfl (.moved target rfl hmove)
  | commit c =>
    rw [perform_commit]
    refine .settled fun v hv => ?_
    obtain ⟨-, p, hp, -, rfl⟩ := commit_eq_ok.mp hv
    exact .putProject hs hp rfl (.committed c _ rfl (mem_of_project? hp).2.symm hv)
  | moveTicket id target =>
    refine .settled fun v hv => ?_
    obtain ⟨t, u, -, -, -, rfl⟩ := moveTicket_eq_ok.mp hv
    dsimp only
    split_ifs
    · refine .map _ rfl fun r _ => ?_
      split_ifs
      · exact .counted
      · exact .stay
    · exact .of_projects_eq rfl
  | assignTicket id assignee =>
    refine .settled fun v hv => ?_
    obtain ⟨t, u, -, -, -, rfl⟩ := assignTicket_eq_ok.mp hv
    exact .of_projects_eq rfl
  | patchTicket id patch =>
    refine .settled fun v hv => ?_
    obtain ⟨-, t, u, -, -, -, rfl⟩ := patchTicket_eq_ok.mp hv
    exact .of_projects_eq rfl

/-! ### Any operations -/

theorem Turned.forall_onRecord (h : s.Turned now op s') (hs : ∀ p ∈ s.projects, p.OnRecord) :
    ∀ q ∈ s'.projects, q.OnRecord := by
  obtain ⟨f, new, hprojects, hf, hnew⟩ := h
  intro q hq
  rw [hprojects, List.mem_append] at hq
  rcases hq with hq | hq
  · obtain ⟨p, hp, rfl⟩ := List.mem_map.mp hq
    exact (hf p hp).onRecord (hs p hp)
  · rcases hnew with rfl | ⟨id, name, description, -, -, rfl⟩
    · exact absurd hq List.not_mem_nil
    · obtain rfl := List.mem_singleton.mp hq
      exact fun h => absurd rfl h

theorem Turned.exists_turn (h : s.Turned now op s') (hp : p ∈ s.projects) :
    ∃ q ∈ s'.projects, q.id = p.id ∧ p.Turn s now op q := by
  obtain ⟨f, new, hprojects, hf, -⟩ := h
  refine ⟨f p, ?_, (hf p hp).id_eq, hf p hp⟩
  rw [hprojects]
  exact List.mem_append_left new (List.mem_map_of_mem hp)

theorem keyed_performAll (ops : List (Instant × Operation)) : (performAll {} ops).Keyed :=
  Keyed.of_reachable (reachable_performAll fun o _ => o.2.within_true)

theorem onRecord_performAll (ops : List (Instant × Operation)) :
    ∀ p ∈ (performAll {} ops).projects, p.OnRecord := by
  induction ops using List.reverseRecOn with
  | nil => exact fun p hp => absurd hp List.not_mem_nil
  | append_singleton ops o ih =>
    rw [performAll_concat]
    exact ((keyed_performAll ops).turned_perform o.1 o.2).forall_onRecord ih

/-- **After any operations**, failed ones among them, a project that is not in analysis has been analyzed,
its summary is on record and no failure is, so that a project with a failure is in analysis. **One more
operation** takes a project into analysis only if it begins its analysis or records a failure of it, and
takes it out only if it is a commit for it that is stored; and then the project is up for review. -/
theorem analysis_along_operations (ops : List (Instant × Operation)) :
    (∀ p ∈ (performAll {} ops).projects,
      (p.status ≠ .analyzing → p.analyzedAt.isSome ∧ p.summary.isSome ∧ p.failure = none) ∧
      (p.failure.isSome → p.status = .analyzing)) ∧
    ∀ now op id p, (performAll {} ops).project? id = some p →
      ∃ q, ((performAll {} ops).perform now op).project? id = some q ∧
        (p.status ≠ .analyzing → q.status = .analyzing →
          op = .beginAnalysis id ∨ ∃ detail, op = .failAnalysis id detail) ∧
        (p.status = .analyzing → q.status ≠ .analyzing →
          ∃ c r, op = .commit c ∧ c.project = id ∧ (performAll {} ops).commit now c = .ok r) ∧
        ∀ c r, op = .commit c → c.project = id → (performAll {} ops).commit now c = .ok r →
          q.status = .review := by
  refine ⟨fun p hp => ⟨onRecord_performAll ops p hp, fun hfailure => ?_⟩, fun now op id p hp => ?_⟩
  · by_contra hout
    obtain ⟨-, -, hnone⟩ := onRecord_performAll ops p hp hout
    rw [hnone] at hfailure
    cases hfailure
  · have hs := keyed_performAll ops
    have hs' := keyed_performAll (ops ++ [(now, op)])
    rw [performAll_concat] at hs'
    obtain ⟨hmem, rfl⟩ := mem_of_project? hp
    obtain ⟨q, hq, hid, hturn⟩ := (hs.turned_perform now op).exists_turn hmem
    have hfound := hs'.project?_eq_some.mpr ⟨hq, hid⟩
    refine ⟨q, hfound, hturn.of_enters, hturn.of_leaves, ?_⟩
    rintro c r rfl hproject hr
    rw [perform_commit, hr, ← hproject] at hfound
    obtain rfl : r.2 = q := Option.some.inj ((project?_commit hr).symm.trans hfound)
    exact status_commit hr

/-- An approved project whose next analysis fails is back in analysis and keeps the former summary. -/
example :
    (performAll {} ([.createProject "p" "Shop" "", .commit firstPlan, .moveProject "p" .approved,
      .beginAnalysis "p", .commit crowdedPlan, .failAnalysis "p" Constraint.rank.text,
      .moveProject "p" .approved].map (default, ·))).projects.map
        (fun p => (p.status, p.summary, p.failure)) =
      [(.analyzing, some firstPlan.summary, some Constraint.rank.text)] := by
  decide

end Store

end Backlog
