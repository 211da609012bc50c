import Backlog.Proofs.Store.Operation

/-! # Counters of tickets

A project counts its tickets and those that are completed. The counters are written by few operations: a
commit sets both, and completing a ticket adds one to the second. They are right in every store that
operations lead to, if no commit brings tickets that are completed already
(`counters_after_operations`).

`Counted` is the invariant. Besides the counters it says that every ticket belongs to a project that is
there, so that a new project starts with none. An operation keeps it if it leaves two columns alone
(`Counted.congr`): the counters of projects, and of tickets the project and whether they are completed.
-/

namespace Backlog

/-- The id of a project and its counters. -/
def Project.counters (p : Project) : String × Nat × Nat := (p.id, p.totalTickets, p.completedTickets)

/-- The project of a ticket, and whether the ticket is completed. -/
def Ticket.standing (t : Ticket) : String × Bool := (t.project, t.status == .completed)

/-- A commit of tickets that are still to be done. -/
def Commit.Open (c : Commit) : Prop := ∀ t ∈ c.tickets, t.status ≠ .completed

theorem TicketStatus.ne_completed_of_canMoveTo {a b : TicketStatus} (h : a.canMoveTo b) :
    a ≠ .completed := by
  rintro rfl
  simp [canMoveTo, isTerminal] at h

namespace Store

variable {Allowed : Commit → Prop} {s s' : Store} {now : Instant} {c : Commit} {id project : String}
  {t u : Ticket} {p q : Project}

theorem assignedStatus_beq_completed {a : TicketStatus} (h : a.isTerminal = false) :
    (assignedStatus a == .completed) = (a == .completed) := by
  cases a <;> simp_all [assignedStatus, TicketStatus.isTerminal]

/-- How many tickets of a project are completed. -/
def completedOf (s : Store) (project : String) : Nat :=
  (s.ticketsOf project).countP (·.status == .completed)

/-- **Counters that are right.** -/
structure Counted (s : Store) : Prop where
  housed : ∀ t ∈ s.tickets, t.project ∈ s.projects.map (·.id)
  total : ∀ p ∈ s.projects, p.totalTickets = (s.ticketsOf p.id).length
  completed : ∀ p ∈ s.projects, p.completedTickets = s.completedOf p.id

/-! ### Columns -/

theorem length_ticketsOf (s : Store) (project : String) :
    (s.ticketsOf project).length = (s.tickets.map (·.project)).count project := by
  rw [List.count, List.countP_map, ticketsOf, ← List.countP_eq_length_filter]
  rfl

theorem completedOf_eq (s : Store) (project : String) :
    s.completedOf project = (s.tickets.map Ticket.standing).count (project, true) := by
  rw [List.count, List.countP_map, completedOf, ticketsOf, List.countP_filter]
  refine List.countP_congr fun t _ => ?_
  simp only [Function.comp_apply, Ticket.standing, Bool.and_eq_true, beq_iff_eq, Prod.mk.injEq]
  exact and_comm

theorem Keyed.map_putTicket {α : Type} (hs : s.Keyed) (ht : s.ticket? id = some t) (hid : u.id = t.id)
    (f : Ticket → α) (hf : f u = f t) : (s.putTicket u).tickets.map f = s.tickets.map f := by
  refine Store.map_putTicket f fun r hr hru => ?_
  rw [hs.ticket_eq hr (mem_of_ticket? ht).1 (hru.trans hid), hf]

/-- **Whether counters are right** can be told from two columns. -/
theorem Counted.congr (h : s.Counted)
    (hp : s'.projects.map Project.counters = s.projects.map Project.counters)
    (ht : s'.tickets.map Ticket.standing = s.tickets.map Ticket.standing) : s'.Counted := by
  have hids : s'.projects.map (·.id) = s.projects.map (·.id) := by
    have hcolumn := congrArg (List.map Prod.fst) hp
    simpa only [List.map_map, Function.comp_def, Project.counters] using hcolumn
  have hhouses : s'.tickets.map (·.project) = s.tickets.map (·.project) := by
    have hcolumn := congrArg (List.map Prod.fst) ht
    simpa only [List.map_map, Function.comp_def, Ticket.standing] using hcolumn
  have hrow : ∀ p' ∈ s'.projects, ∃ p ∈ s.projects,
      p.id = p'.id ∧ p.totalTickets = p'.totalTickets ∧ p.completedTickets = p'.completedTickets := by
    intro p' hp'
    have hmem : p'.counters ∈ s.projects.map Project.counters := hp ▸ List.mem_map_of_mem hp'
    obtain ⟨p, hold, heq⟩ := List.mem_map.mp hmem
    exact ⟨p, hold, by simpa only [Project.counters, Prod.mk.injEq] using heq⟩
  refine ⟨fun t' ht' => ?_, fun p' hp' => ?_, fun p' hp' => ?_⟩
  · have hmem : t'.project ∈ s.tickets.map (·.project) := hhouses ▸ List.mem_map_of_mem ht'
    obtain ⟨t, hold, heq⟩ := List.mem_map.mp hmem
    rw [hids, ← heq]
    exact h.housed t hold
  · obtain ⟨p, hold, hid, htotal, -⟩ := hrow p' hp'
    rw [length_ticketsOf, hhouses, ← length_ticketsOf, ← hid, ← htotal]
    exact h.total p hold
  · obtain ⟨p, hold, hid, -, hcompleted⟩ := hrow p' hp'
    rw [completedOf_eq, ht, ← completedOf_eq, ← hid, ← hcompleted]
    exact h.completed p hold

theorem Counted.putProject (h : s.Counted) (hs : s.Keyed) (hp : s.project? id = some p)
    (hq : q.counters = p.counters) : (s.putProject q).Counted := by
  refine h.congr (map_putProject Project.counters fun r hr hid => ?_) rfl
  have hpq : q.id = p.id := congrArg Prod.fst hq
  rw [hs.project_eq hr (mem_of_project? hp).1 (hid.trans hpq), hq]

theorem Counted.putTicket (h : s.Counted) (hs : s.Keyed) (ht : s.ticket? id = some t) (hid : u.id = t.id)
    (hu : u.standing = t.standing) : (s.putTicket u).Counted :=
  h.congr rfl (hs.map_putTicket ht hid Ticket.standing hu)

/-! ### Operations that count -/

theorem Counted.create (h : s.Counted) (hnew : ∀ q ∈ s.projects, q.id ≠ p.id)
    (htotal : p.totalTickets = 0) (hcompleted : p.completedTickets = 0) :
    ({ s with projects := s.projects ++ [p] } : Store).Counted := by
  have hnone : s.ticketsOf p.id = [] := by
    refine List.filter_eq_nil_iff.mpr fun t ht => ?_
    obtain ⟨q, hq, hqt⟩ := List.mem_map.mp (h.housed t ht)
    have hne := hnew q hq
    simpa [← hqt] using hne
  refine ⟨fun t ht => ?_, fun q hq => ?_, fun q hq => ?_⟩
  · rw [List.map_append]
    exact List.mem_append_left _ (h.housed t ht)
  · rcases List.mem_append.mp hq with hq | hq
    · exact h.total q hq
    · obtain rfl := List.mem_singleton.mp hq
      show q.totalTickets = (s.ticketsOf q.id).length
      rw [hnone, htotal, List.length_nil]
  · rcases List.mem_append.mp hq with hq | hq
    · exact h.completed q hq
    · obtain rfl := List.mem_singleton.mp hq
      show q.completedTickets = (s.ticketsOf q.id).countP _
      rw [hnone, hcompleted, List.countP_nil]

/-- **A commit counts anew**: its project has its tickets, none of them completed. -/
theorem Counted.commit (h : s.Counted) (hs : s.Keyed) (hc : c.Open)
    (hcommit : s.commit now c = .ok (s', p)) : s'.Counted := by
  have hr := replaced_of_commit hs hcommit
  have htickets := ticketsOf_commit hcommit
  obtain ⟨hown, q, hq, -, -⟩ := commit_eq_ok.mp hcommit
  have hids : s'.projects.map (·.id) = s.projects.map (·.id) := by
    rw [hr.projects, List.map_map]
    refine List.map_congr_left fun r _ => ?_
    simp only [Function.comp_apply]
    split_ifs <;> rfl
  refine ⟨fun t ht => ?_, fun r hrow => ?_, fun r hrow => ?_⟩
  · rw [hids]
    by_cases hown' : t.project = c.project
    · rw [hown']
      exact exists_project?_iff.mp ⟨q, hq⟩
    · have hother : t ∈ s'.tickets.filter (·.project != c.project) :=
        List.mem_filter.mpr ⟨ht, by simpa using hown'⟩
      rw [hr.otherTickets] at hother
      exact h.housed t (List.mem_of_mem_filter hother)
  · rw [hr.projects] at hrow
    obtain ⟨r, hold, rfl⟩ := List.mem_map.mp hrow
    rw [htickets]
    split_ifs with hid
    · exact (List.length_map _).symm
    · exact h.total r hold
  · rw [hr.projects] at hrow
    obtain ⟨r, hold, rfl⟩ := List.mem_map.mp hrow
    rw [completedOf, htickets]
    split_ifs with hid
    · have hnone : (c.tickets.map (·.stored now)).countP (·.status == .completed) = 0 := by
        rw [List.countP_map, List.countP_eq_zero]
        intro t ht
        simpa [Ticket.stored] using hc t ht
      exact hnone.symm
    · exact h.completed r hold

theorem Keyed.completedOf_putTicket (hs : s.Keyed) (ht : s.ticket? id = some t) (hid : u.id = t.id)
    (hopen : t.status ≠ .completed) (hu : u.standing = (t.project, true)) (project : String) :
    (s.putTicket u).completedOf project = s.completedOf project + if t.project = project then 1 else 0 := by
  obtain ⟨before, after, hsplit⟩ := List.append_of_mem (mem_of_ticket? ht).1
  have hids := hs.tickets
  rw [hsplit, List.map_append, List.map_cons, List.nodup_middle, ← List.map_append, List.nodup_cons] at hids
  -- all other rows have other ids and stay
  have hkeep : ∀ r ∈ before ++ after, (if r.id == u.id then u else r).standing = r.standing := by
    intro r hr
    have hne : r.id ≠ u.id := fun h => hids.1 (hid ▸ h ▸ List.mem_map_of_mem hr)
    rw [if_neg (by simpa using hne)]
  have hnew : (s.putTicket u).tickets.map Ticket.standing =
      before.map Ticket.standing ++ (t.project, true) :: after.map Ticket.standing := by
    rw [Store.putTicket, hsplit, List.map_map, List.map_append, List.map_cons]
    congr 1
    · exact List.map_congr_left fun r hr => hkeep r (List.mem_append_left _ hr)
    · rw [Function.comp_apply, if_pos (by simp [hid]), hu]
      congr 1
      exact List.map_congr_left fun r hr => hkeep r (List.mem_append_right _ hr)
  have hold : s.tickets.map Ticket.standing =
      before.map Ticket.standing ++ (t.project, false) :: after.map Ticket.standing := by
    have hstanding : t.standing = (t.project, false) := by simp [Ticket.standing, hopen]
    rw [hsplit, List.map_append, List.map_cons, hstanding]
  rw [completedOf_eq, completedOf_eq, hnew, hold, List.count_append, List.count_append, List.count_cons,
    List.count_cons]
  simp [Nat.add_assoc]

/-- **Completing a ticket** counts it in its project and in no other. -/
theorem Counted.complete (h : s.Counted) (hs : s.Keyed) (ht : s.ticket? id = some t) (hid : u.id = t.id)
    (hopen : t.status ≠ .completed) (hu : u.standing = (t.project, true)) :
    ((s.putTicket u).countCompleted now t.project).Counted := by
  have hproject : u.project = t.project := congrArg Prod.fst hu
  have hhouses : (s.putTicket u).tickets.map (·.project) = s.tickets.map (·.project) :=
    hs.map_putTicket ht hid (·.project) hproject
  refine ⟨fun r hr => ?_, fun p hp => ?_, fun p hp => ?_⟩
  · have hmem : r.project ∈ s.tickets.map (·.project) := hhouses ▸ List.mem_map_of_mem hr
    obtain ⟨r', hold, heq⟩ := List.mem_map.mp hmem
    rw [map_id_countCompleted, ← heq]
    exact h.housed r' hold
  · obtain ⟨p, hold, rfl⟩ := List.mem_map.mp hp
    have hlength : ((s.putTicket u).ticketsOf p.id).length = (s.ticketsOf p.id).length := by
      rw [length_ticketsOf, hhouses, ← length_ticketsOf]
    have htotal := (h.total p hold).trans hlength.symm
    split_ifs
    · exact htotal
    · exact htotal
  · obtain ⟨p, hold, rfl⟩ := List.mem_map.mp hp
    have hcount := hs.completedOf_putTicket ht hid hopen hu p.id
    rw [← h.completed p hold] at hcount
    split_ifs with hp
    · rw [if_pos (beq_iff_eq.mp hp).symm] at hcount
      exact hcount.symm
    · rw [if_neg fun heq => hp (beq_iff_eq.mpr heq.symm)] at hcount
      exact hcount.symm

/-! ### Any operations -/

theorem Counted.step (h : s.Counted) (hs : s.Keyed) (hstep : Step Commit.Open s s') : s'.Counted := by
  cases hstep with
  | create hr =>
    obtain ⟨-, hnew, p, rfl, rfl⟩ := createProject_eq_ok.mp hr
    exact h.create hnew rfl rfl
  | beginAnalysis hr =>
    obtain ⟨p, q, hp, rfl, rfl⟩ := beginAnalysis_eq_ok.mp hr
    exact h.putProject hs hp rfl
  | failAnalysis hr =>
    obtain ⟨p, q, hp, rfl, rfl⟩ := failAnalysis_eq_ok.mp hr
    exact h.putProject hs hp rfl
  | moveProject hr =>
    obtain ⟨p, q, hp, -, rfl, rfl⟩ := moveProject_eq_ok.mp hr
    exact h.putProject hs hp rfl
  | commit hc hr => exact h.commit hs hc hr
  | @moveTicket now id target r hr =>
    obtain ⟨t, u, ht, hmove, rfl, rfl⟩ := moveTicket_eq_ok.mp hr
    have hopen := TicketStatus.ne_completed_of_canMoveTo hmove
    dsimp only
    split_ifs with htarget
    · exact h.complete hs ht rfl hopen (by simp [Ticket.standing, htarget])
    · exact h.putTicket hs ht rfl (by simp [Ticket.standing, htarget, hopen])
  | assignTicket hr =>
    obtain ⟨t, u, ht, hstatus, rfl, rfl⟩ := assignTicket_eq_ok.mp hr
    exact h.putTicket hs ht rfl (congrArg (t.project, ·) (assignedStatus_beq_completed hstatus))
  | patchTicket hr =>
    obtain ⟨-, t, u, ht, rfl, -, rfl⟩ := patchTicket_eq_ok.mp hr
    exact h.putTicket hs ht rfl rfl

theorem Counted.of_reachable (h : Reachable Commit.Open s) : s.Counted := by
  induction h with
  | refl => exact ⟨by simp, by simp, by simp⟩
  | tail hr hstep ih => exact ih.step (Keyed.of_reachable hr) hstep

/-- **After any operations**, failed ones among them, every project has the right number of tickets and
of completed tickets on record, if no commit brought tickets that were completed already. -/
theorem counters_after_operations (ops : List (Instant × Operation))
    (hops : ∀ o ∈ ops, o.2.Within Commit.Open) :
    ∀ p ∈ (performAll {} ops).projects,
      p.totalTickets = ((performAll {} ops).ticketsOf p.id).length ∧
      p.completedTickets =
        (((performAll {} ops).ticketsOf p.id).filter (·.status == .completed)).length ∧
      p.completedTickets ≤ p.totalTickets := by
  intro p hp
  have hcounted := Counted.of_reachable (reachable_performAll hops)
  have htotal := hcounted.total p hp
  have hcompleted := hcounted.completed p hp
  rw [completedOf, List.countP_eq_length_filter] at hcompleted
  refine ⟨htotal, hcompleted, ?_⟩
  rw [htotal, hcompleted]
  exact List.length_filter_le _ _

/-- Work on the shop: of its two tickets one is completed, then a new analysis is begun and fails, and
the completed ticket cannot be reopened. -/
def shopWork : List (Instant × Operation) :=
  [.createProject "p" "Shop" "", .commit firstPlan, .assignTicket "a" "kim", .moveTicket "a" .completed,
    .beginAnalysis "p", .commit crowdedPlan, .moveTicket "a" .pending, .failAnalysis "p" Constraint.rank.text,
    .moveTicket "b" .ready].map (default, ·)

theorem counters_after_operations_shop :
    (∀ o ∈ shopWork, o.2.Within Commit.Open) ∧
      ∃ p ∈ (performAll {} shopWork).projects, p.totalTickets = 2 ∧ p.completedTickets = 1 := by
  have hfirst : firstPlan.Open := by unfold Commit.Open; decide
  have hcrowded : crowdedPlan.Open := by unfold Commit.Open; decide
  have hopen : ∀ o ∈ shopWork, o.2.Within Commit.Open := by
    simp [shopWork, Operation.Within, hfirst, hcrowded]
  have hp : (performAll {} shopWork).projects.head! ∈ (performAll {} shopWork).projects :=
    List.mem_singleton_self _
  obtain ⟨htotal, hcompleted, -⟩ := counters_after_operations shopWork hopen _ hp
  exact ⟨hopen, _, hp, htotal.trans rfl, hcompleted.trans rfl⟩

end Store

end Backlog
