import Backlog.Proofs.Generation.Success
import Backlog.Proofs.History

/-! # What events tell

Who hears the events of a history knows how it stands. The moves told of a project lead from `analyzing`
to its stored status, those told of a ticket from `pending`, each move starting where the one before
ended (`Leads`); and a refused operation tells nothing (`events_lead_to_statuses`). Events are told by
the steps of runs and by work on tickets (`Store.Worked`) and projects; `Told` is what each of these steps
keeps. A run must bring new ids, or the moves of a ticket that is gone would count for a new one of the
same id. -/

namespace Backlog

/-! ### Moves -/

/-- **Moves from one status to another**: each is allowed and starts where the one before ended. -/
def Leads {σ : Type} (Allowed : σ → σ → Prop) : σ → List (σ × σ) → σ → Prop
  | a, [], b => a = b
  | a, m :: ms, b => m.1 = a ∧ Allowed m.1 m.2 ∧ Leads Allowed m.2 ms b

/-- The move from one status to another, if it is one. -/
def move {σ : Type} [DecidableEq σ] (a b : σ) : List (σ × σ) := if a = b then [] else [(a, b)]

theorem Leads.concat {σ : Type} {Allowed : σ → σ → Prop} {b c : σ} (hbc : Allowed b c) :
    ∀ {a : σ} {ms : List (σ × σ)}, Leads Allowed a ms b → Leads Allowed a (ms ++ [(b, c)]) c
  | _, [], h => ⟨h.symm, hbc, rfl⟩
  | _, _ :: _, ⟨hfrom, hstep, h⟩ => ⟨hfrom, hstep, h.concat hbc⟩

theorem Leads.move {σ : Type} [DecidableEq σ] {Allowed : σ → σ → Prop} {a b c : σ} {ms : List (σ × σ)}
    (h : Leads Allowed a ms b) (hbc : b ≠ c → Allowed b c) : Leads Allowed a (ms ++ move b c) c := by
  unfold Backlog.move
  split_ifs with heq
  · rw [List.append_nil, ← heq]
    exact h
  · exact h.concat (hbc heq)

/-- The last of some moves ends where they lead. -/
theorem Leads.snd_of_getLast? {σ : Type} {Allowed : σ → σ → Prop} {b : σ} {m : σ × σ} :
    ∀ {a : σ} {ms : List (σ × σ)}, Leads Allowed a ms b → ms.getLast? = some m → m.2 = b
  | _, [], _, hm => by cases hm
  | _, [_], ⟨_, _, hlast⟩, hm => by cases hm; exact hlast
  | _, _ :: m' :: ms, ⟨_, _, hrest⟩, hm => hrest.snd_of_getLast? (by simpa using hm)

/-- The move that an event tells of a project. -/
def Event.projectMove? (id : String) : Event → Option (ProjectStatus × ProjectStatus)
  | projectMoved p old new => if p = id then some (old, new) else none
  | _ => none

/-- The move that an event tells of a ticket. -/
def Event.ticketMove? (id : String) : Event → Option (TicketStatus × TicketStatus)
  | ticketMoved _ t old new _ => if t = id then some (old, new) else none
  | _ => none

/-- The moves that events tell of a project. -/
def projectMoves (id : String) (es : List Event) : List (ProjectStatus × ProjectStatus) :=
  es.filterMap (Event.projectMove? id)

/-- The moves that events tell of a ticket. -/
def ticketMoves (id : String) (es : List Event) : List (TicketStatus × TicketStatus) :=
  es.filterMap (Event.ticketMove? id)

theorem projectMoves_append (id : String) (es es' : List Event) :
    projectMoves id (es ++ es') = projectMoves id es ++ projectMoves id es' :=
  List.filterMap_append ..

theorem ticketMoves_append (id : String) (es es' : List Event) :
    ticketMoves id (es ++ es') = ticketMoves id es ++ ticketMoves id es' :=
  List.filterMap_append ..

/-! ### What is told of a store -/

/-- **Events that tell how a store stands.** `Known` are the ids that tickets have had. -/
structure Told (Known : String → Prop) (s : Store) (es : List Event) : Prop where
  projects : ∀ p ∈ s.projects, Leads (· ≠ ·) .analyzing (projectMoves p.id es) p.status
  strangers : ∀ id, id ∉ s.projects.map (·.id) → projectMoves id es = []
  tickets : ∀ t ∈ s.tickets,
    Leads (fun a b => a ≠ b ∧ a.canMoveTo b) .pending (ticketMoves t.id es) t.status
  known : ∀ t ∈ s.tickets, Known t.id
  unknown : ∀ id, ¬ Known id → ticketMoves id es = []

variable {Known Known' : String → Prop} {s s' : Store} {es es' : List Event} {now : Instant}
  {id actor : String} {p q : Project} {t u : Ticket} {c : Commit}

theorem Told.mono (h : Told Known s es) (hk : ∀ id, Known id → Known' id) : Told Known' s es :=
  { h with
    known := fun t ht => hk _ (h.known t ht)
    unknown := fun id hid => h.unknown id fun hold => hid (hk id hold) }

/-- A project that waits to be analyzed, as it does when it is new. -/
theorem Told.create (h : Told Known s es) (hnew : ∀ q ∈ s.projects, q.id ≠ p.id)
    (hp : p.status = .analyzing) :
    Told Known { s with projects := s.projects ++ [p] } es := by
  have hstranger : projectMoves p.id es = [] := by
    refine h.strangers p.id fun hmem => ?_
    obtain ⟨q, hq, hid⟩ := List.mem_map.mp hmem
    exact hnew q hq hid
  refine { h with projects := fun q hq => ?_, strangers := fun id hid => ?_ }
  · rcases List.mem_append.mp hq with hq | hq
    · exact h.projects q hq
    · obtain rfl := List.mem_singleton.mp hq
      rw [hstranger, hp]
      rfl
  · rw [List.map_append] at hid
    exact h.strangers id fun hmem => hid (List.mem_append_left _ hmem)

theorem projectMoves_tell (p q : Project) (id : String) :
    projectMoves id (ProjectChange.tell ⟨p.status, q⟩) =
      if q.id = id then move p.status q.status else [] := by
  unfold ProjectChange.tell projectMoves move
  by_cases hstatus : p.status = q.status
  · simp [hstatus]
  · by_cases hid : q.id = id <;> simp [hstatus, hid, Event.projectMove?]

theorem ticketMoves_tell (p q : Project) (id : String) :
    ticketMoves id (ProjectChange.tell ⟨p.status, q⟩) = [] := by
  unfold ProjectChange.tell
  split_ifs <;> rfl

theorem Told.putProject (h : Told Known s es) (hp : s.project? id = some p) (hid : q.id = p.id) :
    Told Known (s.putProject q) (es ++ ProjectChange.tell ⟨p.status, q⟩) := by
  obtain ⟨hmem, -⟩ := Store.mem_of_project? hp
  refine ⟨fun r hr => ?_, fun id hstranger => ?_, fun t ht => ?_, h.known, fun id hnew => ?_⟩
  · obtain ⟨r, hold, rfl⟩ := List.mem_map.mp hr
    rw [projectMoves_append, projectMoves_tell]
    by_cases hrow : r.id = q.id
    · rw [if_pos (beq_iff_eq.mpr hrow), if_pos rfl, hid]
      exact (h.projects p hmem).move fun hne => hne
    · rw [if_neg fun heq => hrow (beq_iff_eq.mp heq), if_neg fun heq => hrow heq.symm, List.append_nil]
      exact h.projects r hold
  · rw [Store.map_putProject (·.id) fun _ _ heq => heq] at hstranger
    have hne : q.id ≠ id := by
      rintro rfl
      exact hstranger (hid ▸ List.mem_map_of_mem hmem)
    rw [projectMoves_append, h.strangers id hstranger, projectMoves_tell, if_neg hne, List.nil_append]
  · rw [ticketMoves_append, ticketMoves_tell, List.append_nil]
    exact h.tickets t ht
  · rw [ticketMoves_append, ticketMoves_tell, List.append_nil]
    exact h.unknown id hnew

theorem Told.putTicket (h : Told Known s es) (ht : s.ticket? id = some t) (hid : u.id = t.id)
    (hquiet : ∀ id, projectMoves id es' = [])
    (hmoves : ∀ id, ticketMoves id es' = if t.id = id then move t.status u.status else [])
    (hallowed : t.status ≠ u.status → t.status.canMoveTo u.status) :
    Told Known (s.putTicket u) (es ++ es') := by
  obtain ⟨hmem, -⟩ := Store.mem_of_ticket? ht
  refine ⟨fun p hp => ?_, fun id hstranger => ?_, fun r hr => ?_, fun r hr => ?_, fun id hnew => ?_⟩
  · rw [projectMoves_append, hquiet, List.append_nil]
    exact h.projects p hp
  · rw [projectMoves_append, hquiet, List.append_nil]
    exact h.strangers id hstranger
  · obtain ⟨r, hold, rfl⟩ := List.mem_map.mp hr
    rw [ticketMoves_append, hmoves]
    by_cases hrow : r.id = u.id
    · rw [if_pos (beq_iff_eq.mpr hrow), hid, if_pos rfl]
      exact (h.tickets t hmem).move fun hne => ⟨hne, hallowed hne⟩
    · rw [if_neg fun heq => hrow (beq_iff_eq.mp heq), if_neg fun heq => hrow (heq.symm.trans hid.symm),
        List.append_nil]
      exact h.tickets r hold
  · obtain ⟨r, hold, rfl⟩ := List.mem_map.mp hr
    split_ifs
    · exact hid ▸ h.known t hmem
    · exact h.known r hold
  · have hne : t.id ≠ id := by
      rintro rfl
      exact hnew (h.known t hmem)
    rw [ticketMoves_append, h.unknown id hnew, hmoves, if_neg hne, List.nil_append]

theorem Told.countCompleted (h : Told Known s es) (project : String) :
    Told Known (s.countCompleted now project) es := by
  refine { h with projects := fun p hp => ?_, strangers := fun id hid => ?_ }
  swap
  · rw [Store.map_id_countCompleted] at hid
    exact h.strangers id hid
  obtain ⟨p, hold, rfl⟩ := List.mem_map.mp hp
  split_ifs
  · exact h.projects p hold
  · exact h.projects p hold

/-- **New tickets** in the place of those of a project: nobody has heard of them. -/
theorem Told.replace (h : Told Known s es) (now : Instant) (hk : ∀ id, Known id → Known' id)
    (hc : ∀ t ∈ c.tickets, t.status = .pending ∧ Known' t.id ∧ ¬ Known t.id) :
    Told Known' ((s.clear c.project).withRows now c) es := by
  refine ⟨h.projects, h.strangers, fun t ht => ?_, fun t ht => ?_, (h.mono hk).unknown⟩
  · rcases List.mem_append.mp ht with ht | ht
    · exact h.tickets t (List.mem_of_mem_filter ht)
    · obtain ⟨u, hu, rfl⟩ := List.mem_map.mp ht
      obtain ⟨hpending, -, hnew⟩ := hc u hu
      have hnone : ticketMoves (u.stored now).id es = [] := h.unknown u.id hnew
      rw [hnone]
      exact hpending.symm
  · rcases List.mem_append.mp ht with ht | ht
    · exact hk _ (h.known t (List.mem_of_mem_filter ht))
    · obtain ⟨u, hu, rfl⟩ := List.mem_map.mp ht
      exact (hc u hu).2.1

/-! ### What runs tell -/

namespace Run

variable {planned : Except GenerationError Plan} {e : GenerationError}

/-- Noting an error leaves the project in analysis, so there is nothing to tell. -/
theorem told_fail (h : Told Known s es) (hq : s.project? id = some q)
    (hstatus : q.status = .analyzing) : Told Known (fail s now id e).store es := by
  by_cases he : ∃ id', e = .projectMissing id'
  · obtain ⟨id', rfl⟩ := he
    exact h
  · rw [store_fail hq fun id' heq => he ⟨id', heq⟩]
    have hput := h.putProject hq (q := failedProject e now q) rfl
    have hnone : ProjectChange.tell ⟨q.status, failedProject e now q⟩ = [] := by
      simp [ProjectChange.tell, failedProject, hstatus]
    rwa [hnone, List.append_nil] at hput

/-- A plan that is stored takes its project from analysis to review. -/
theorem told_finish (h : Told Known s es) (hq : s.project? id = some q)
    (hstatus : q.status = .analyzing) (hk : ∀ id, Known id → Known' id)
    (hplan : ∀ plan, planned = .ok plan → plan.commit.project = id ∧
      ∀ t ∈ plan.commit.tickets, t.status = .pending ∧ Known' t.id ∧ ¬ Known t.id) :
    Told Known' (finish s now id planned).store (es ++ (finish s now id planned).events) := by
  have hfail : ∀ e, Told Known' (fail s now id e).store (es ++ (fail s now id e).events) := by
    intro e
    show Told Known' _ (es ++ [])
    rw [List.append_nil]
    exact (told_fail h hq hstatus).mono hk
  unfold finish
  cases planned with
  | error e => exact hfail e
  | ok plan =>
    obtain ⟨hproject, htickets⟩ := hplan plan rfl
    dsimp only
    cases hcommit : s.commit now plan.commit with
    | error e => exact hfail _
    | ok r =>
      obtain ⟨-, q', hq', -, rfl⟩ := Store.commit_eq_ok.mp hcommit
      obtain rfl : q = q' := Option.some.inj (hq.symm.trans (hproject ▸ hq'))
      have hput := (h.replace now hk htickets).putProject hq'
        (q := Store.reviewed q now plan.commit) rfl
      have htell : ProjectChange.tell ⟨q.status, Store.reviewed q now plan.commit⟩ =
          [.projectMoved id .analyzing .review] := by
        simp [ProjectChange.tell, Store.reviewed, hstatus, (Store.mem_of_project? hq).2]
      rwa [htell] at hput

end Run

/-- **A run tells what it does**, if the ids of its tickets are new. -/
theorem Planner.told_run {p : Planner} {mint : Nat → String} {b : Brief} (he : p.enricher.Rewords)
    (h : Told Known s es) (hnew : ∀ i, ¬ Known (mint i)) :
    Told (fun id => Known id ∨ ∃ i, mint i = id) (p.run s now mint b).store
      (es ++ (p.run s now mint b).events) := by
  cases hq : s.project? b.project with
  | none =>
    rw [run_of_missing hq]
    show Told _ s (es ++ [])
    rw [List.append_nil]
    exact h.mono fun _ => Or.inl
  | some q =>
    have hbegun := h.putProject hq (q := Run.begun q now) rfl
    have hid : q.id = b.project := (Store.mem_of_project? hq).2
    have hq' : (s.putProject (Run.begun q now)).project? b.project = some (Run.begun q now) :=
      hid ▸ Store.project?_putProject (hid ▸ hq)
    rw [run_of_project hq]
    dsimp only
    rw [← List.append_assoc]
    refine Run.told_finish hbegun hq' rfl (fun _ => Or.inl) fun plan hplan => ?_
    refine ⟨project_of_plan hplan, fun t ht => ?_⟩
    obtain ⟨hpending, i, hi⟩ := pending_of_plan he hplan t ht
    exact ⟨hpending, Or.inr ⟨i, hi⟩, hi ▸ hnew i⟩

/-! ### What work tells -/

namespace Store

theorem ticketMoves_tell_of_ne (hne : t.status ≠ u.status) (id' : String) :
    ticketMoves id' [TicketChange.tell ⟨t.status, u⟩ actor] =
      if u.id = id' then move t.status u.status else [] := by
  by_cases hid : u.id = id' <;> simp [TicketChange.tell, ticketMoves, Event.ticketMove?, move, hid, hne]

/-- **What work on a ticket does and tells**: one ticket is changed, and if it is moved this is told. -/
structure Worked (s : Store) (t u : Ticket) (v : Served Ticket) : Prop where
  id : u.id = t.id
  store : v.store = s.putTicket u ∨ ∃ now, v.store = (s.putTicket u).countCompleted now t.project
  quiet : ∀ id, projectMoves id v.events = []
  moves : ∀ id, ticketMoves id v.events = if t.id = id then move t.status u.status else []
  allowed : t.status ≠ u.status → t.status.canMoveTo u.status

theorem worked_serveMove {target : TicketStatus} {v : Served Ticket}
    (hv : s.serveMove now id target actor = .ok v) :
    ∃ t u, s.ticket? id = some t ∧ s.Worked t u v := by
  obtain ⟨r, hr, rfl⟩ := serveMove_eq_ok.mp hv
  obtain ⟨t, u, ht, hmove, hu, rfl⟩ := moveTicket_eq_ok.mp hr
  have hid : u.id = t.id := by rw [hu]
  have hstatus : u.status = target := by rw [hu]
  have hne : t.status ≠ u.status := by
    rintro heq
    simp [TicketStatus.canMoveTo, ← hstatus, heq] at hmove
  refine ⟨t, u, ht, hid, ?_, fun _ => rfl, hid ▸ ticketMoves_tell_of_ne hne, fun _ => hstatus ▸ hmove⟩
  dsimp only
  split_ifs
  · exact Or.inr ⟨now, rfl⟩
  · exact Or.inl rfl

theorem worked_serveAssign {assignee : String} {v : Served Ticket}
    (hv : s.serveAssign now id assignee actor = .ok v) :
    ∃ t u, s.ticket? id = some t ∧ s.Worked t u v := by
  obtain ⟨-, r, hr, rfl⟩ := serveAssign_eq_ok.mp hv
  obtain ⟨t, u, ht, hopen, hu, rfl⟩ := assignTicket_eq_ok.mp hr
  have hid : u.id = t.id := by rw [hu]
  have hstatus : u.status = assignedStatus t.status := by rw [hu]
  refine ⟨t, u, ht, hid, Or.inl rfl, fun id' => ?_, fun id' => ?_, fun hne => ?_⟩
  · unfold TicketChange.moved
    split_ifs <;> rfl
  · show ticketMoves id' (if TicketChange.moved ⟨t.status, u⟩ then [TicketChange.tell ⟨t.status, u⟩ actor]
      else []) = _
    by_cases hsame : t.status = u.status
    · simp [TicketChange.moved, hsame, move, ticketMoves]
    · rw [if_pos (by simp [TicketChange.moved, hsame]), ticketMoves_tell_of_ne hsame, hid]
  · rw [hstatus] at hne ⊢
    revert hne hopen
    cases t.status <;> decide

theorem worked_servePatch {patch : Patch} {v : Served Ticket}
    (hv : s.servePatch now id patch actor = .ok v) :
    ∃ t u, s.ticket? id = some t ∧ s.Worked t u v := by
  obtain ⟨-, r, hr, rfl⟩ := servePatch_eq_ok.mp hv
  obtain ⟨-, t, u, ht, hu, -, rfl⟩ := patchTicket_eq_ok.mp hr
  have hid : (u.stored now).id = t.id := by rw [hu]; rfl
  have hstatus : (u.stored now).status = t.status := by rw [hu]; rfl
  refine ⟨t, u.stored now, ht, hid, Or.inl rfl, fun _ => rfl, fun id' => ?_,
    fun hne => absurd hstatus.symm hne⟩
  simp [ticketMoves, Ticket.tell, Event.ticketMove?, move, hstatus]

theorem told_of_worked {v : Served Ticket} (h : Told Known s es)
    (hv : ∃ t u, s.ticket? id = some t ∧ s.Worked t u v) : Told Known v.store (es ++ v.events) := by
  obtain ⟨t, u, ht, hw⟩ := hv
  have hput := h.putTicket ht hw.id hw.quiet hw.moves hw.allowed
  rcases hw.store with hstore | ⟨now, hstore⟩
  · exact hstore ▸ hput
  · exact hstore ▸ hput.countCompleted _

theorem told_serveProject {target : ProjectStatus} {v : Served Project} (h : Told Known s es)
    (hv : s.serveProject now id target = .ok v) : Told Known v.store (es ++ v.events) := by
  obtain ⟨-, r, hr, rfl⟩ := serveProject_eq_ok.mp hv
  obtain ⟨p, q, hp, -, hq, rfl⟩ := moveProject_eq_ok.mp hr
  exact h.putProject hp (by rw [hq])

end Store

/-! ### Histories -/

namespace Command

/-- A command whose runs, if any, use an enricher of this library. -/
def Enriches : Command → Prop
  | .run p .. => p.enricher.Standard
  | _ => True

/-- The ids that a command has for new tickets. -/
def Mints : Command → String → Prop
  | .run _ _ mint _, id => ∃ i, mint i = id
  | _, _ => False

/-- Work on a ticket or a project that is refused. -/
def Refused (s : Store) : Command → Prop
  | .moveTicket now id target actor => ∃ e, s.serveMove now id target actor = .error e
  | .assign now id assignee actor => ∃ e, s.serveAssign now id assignee actor = .error e
  | .patch now id p actor => ∃ e, s.servePatch now id p actor = .error e
  | .moveProject now id target => ∃ e, s.serveProject now id target = .error e
  | _ => False

end Command

namespace History

variable {h : History} {cmd : Command}

theorem told_serve {α : Type} {r : Except ServiceError (Served α)} (ht : Told Known h.store h.events)
    (hr : ∀ v, r = .ok v → Told Known v.store (h.events ++ v.events)) :
    Told Known (h.serve r).store (h.serve r).events := by
  cases r with
  | error e => exact ht
  | ok v => exact hr v rfl

/-- **A command tells what it does**, if it brings new ids. -/
theorem told_perform (ht : Told Known h.store h.events) (he : cmd.Enriches)
    (hnew : ∀ id, cmd.Mints id → ¬ Known id) :
    Told (fun id => Known id ∨ cmd.Mints id) (h.perform cmd).store (h.perform cmd).events := by
  cases cmd with
  | run p now mint b => exact Planner.told_run he.rewords ht fun i => hnew _ ⟨i, rfl⟩
  | createProject now id name description =>
    refine Told.mono ?_ fun _ => Or.inl
    unfold perform
    dsimp only
    cases hr : h.store.createProject now id name description with
    | error e => exact ht
    | ok r =>
      obtain ⟨-, hid, p, rfl, rfl⟩ := Store.createProject_eq_ok.mp hr
      exact ht.create hid rfl
  | moveTicket now id target actor =>
    exact (told_serve ht fun _ hv => Store.told_of_worked ht (Store.worked_serveMove hv)).mono fun _ => Or.inl
  | assign now id assignee actor =>
    exact (told_serve ht fun _ hv => Store.told_of_worked ht (Store.worked_serveAssign hv)).mono fun _ => Or.inl
  | patch now id p actor =>
    exact (told_serve ht fun _ hv => Store.told_of_worked ht (Store.worked_servePatch hv)).mono fun _ => Or.inl
  | moveProject now id target =>
    exact (told_serve ht fun _ => Store.told_serveProject ht).mono fun _ => Or.inl

/-- **A history tells how its store stands**, if no two of its commands bring the same id. -/
theorem told_of (cs : List Command) (he : ∀ c ∈ cs, c.Enriches)
    (hnew : cs.Pairwise fun c c' => ∀ id, c.Mints id → ¬ c'.Mints id) :
    Told (fun id => ∃ c ∈ cs, c.Mints id) (of cs).store (of cs).events := by
  -- commands are added at the end, since each needs what those before it have told
  induction cs using List.reverseRecOn with
  | nil => exact ⟨by simp [of], fun _ _ => rfl, by simp [of], by simp [of], fun _ _ => rfl⟩
  | append_singleton cs c ih =>
    obtain ⟨hold, -, hlast⟩ := List.pairwise_append.mp hnew
    have ht := ih (fun c hc => he c (List.mem_append_left _ hc)) hold
    have hstep := told_perform ht (he c (by simp)) fun id hid ⟨c', hc', hid'⟩ =>
      hlast c' hc' c (List.mem_singleton_self c) id hid' hid
    have hconcat : of (cs ++ [c]) = (of cs).perform c := by simp [of]
    rw [hconcat]
    refine hstep.mono fun id hid => ?_
    rcases hid with ⟨c', hc', hid⟩ | hid
    · exact ⟨c', List.mem_append_left _ hc', hid⟩
    · exact ⟨c, by simp, hid⟩

theorem perform_of_refused (hc : cmd.Refused h.store) : h.perform cmd = h := by
  cases cmd with
  | createProject now id name description => exact hc.elim
  | run p now mint b => exact hc.elim
  | moveTicket now id target actor =>
    obtain ⟨e, he⟩ := hc
    rw [perform, he, serve]
  | assign now id assignee actor =>
    obtain ⟨e, he⟩ := hc
    rw [perform, he, serve]
  | patch now id p actor =>
    obtain ⟨e, he⟩ := hc
    rw [perform, he, serve]
  | moveProject now id target =>
    obtain ⟨e, he⟩ := hc
    rw [perform, he, serve]

/-- **Events lead to the stored statuses.** In any history of creating projects, generating tickets and
working on them, whatever fails, the moves told of a project lead from `analyzing` to its status, and
those told of a ticket lead by allowed moves from `pending` to its status. Work that is refused tells
nothing. -/
theorem events_lead_to_statuses (cs : List Command) (he : ∀ c ∈ cs, c.Enriches)
    (hnew : cs.Pairwise fun c c' => ∀ id, c.Mints id → ¬ c'.Mints id) :
    (∀ p ∈ (of cs).store.projects,
      Leads (· ≠ ·) .analyzing (projectMoves p.id (of cs).events) p.status) ∧
    (∀ t ∈ (of cs).store.tickets,
      Leads (fun a b => a ≠ b ∧ a.canMoveTo b) .pending (ticketMoves t.id (of cs).events) t.status) ∧
    ∀ c : Command, c.Refused (of cs).store → (of cs).perform c = of cs := by
  have ht := told_of cs he hnew
  exact ⟨ht.projects, ht.tickets, fun c hc => perform_of_refused hc⟩

/-- What follows in the shop: a ticket is assigned and another wrongly completed, a second run finds no
files, and the first ticket gets stuck. -/
def laterWork : List Command :=
  [.assign default "cart" "kim" "ann", .moveTicket default "setup" .completed "ann",
    .run shopPlanner default (fun _ => "later") ⟨"p", [], none⟩, .moveTicket default "cart" .blocked "ann"]

theorem of_shop : of shop =
    ⟨(Run.finish (Planner.oneProject.putProject (Run.begun Planner.oneProject.projects.head! default)) default
      "p" (.ok shopPlan)).store, [.projectMoved "p" .analyzing .review]⟩ := by
  have hq : Planner.oneProject.project? "p" = some Planner.oneProject.projects.head! := rfl
  have hrun : of shop = ⟨(shopPlanner.run Planner.oneProject default shopIds ⟨"p", ["cart.ts"], none⟩).store,
      (shopPlanner.run Planner.oneProject default shopIds ⟨"p", ["cart.ts"], none⟩).events⟩ := rfl
  have hplan : (shopPlanner.plan default shopIds "p"
      (Option.getD none Planner.oneProject.projects.head!.description) ["cart.ts"]).result = .ok shopPlan :=
    plan_shop
  rw [hrun, Planner.run_of_project hq]
  dsimp only
  rw [hplan]
  rfl

theorem events_lead_to_statuses_shop :
    (∀ c ∈ shop ++ laterWork, c.Enriches) ∧
    projectMoves "p" (of (shop ++ laterWork)).events = [(.analyzing, .review), (.review, .analyzing)] ∧
    ticketMoves "cart" (of (shop ++ laterWork)).events = [(.pending, .assigned), (.assigned, .blocked)] ∧
    ∀ p ∈ (of (shop ++ laterWork)).store.projects,
      Leads (· ≠ ·) .analyzing (projectMoves p.id (of (shop ++ laterWork)).events) p.status := by
  have he : ∀ c ∈ shop ++ laterWork, c.Enriches := by
    simp [shop, laterWork, Command.Enriches, shopPlanner, Enricher.Standard]
  have hnew : (shop ++ laterWork).Pairwise fun c c' => ∀ id, c.Mints id → ¬ c'.Mints id := by
    have hids : ∀ i, ¬ "later" = shopIds i := fun i => by
      unfold shopIds
      split_ifs <;> decide
    simp [shop, laterWork, Command.Mints, hids]
  have hof : of (shop ++ laterWork) = laterWork.foldl perform (of shop) := List.foldl_append
  refine ⟨he, ?_, ?_, (events_lead_to_statuses _ he hnew).1⟩
  · rw [hof, of_shop]
    rfl
  · rw [hof, of_shop]
    rfl

end History

end Backlog
