import Backlog.Proofs.Generation.Run

/-! # Histories

Projects are created, generation runs are started, people work on tickets and projects: these are the
commands. A history carries them out one after another from an empty store, with the events that tell of them;
a command that fails leaves the store to the next one.

* `steps_of_perform`: each command is a sequence of steps of the store.
* `ranked_of_history`: so the tickets of every project stay ranked through any history. -/

namespace Backlog

variable {s : Store} {now : Instant} {id actor : String}

namespace Store

/-! ### Served operations -/

theorem served_eq_ok {α : Type} {r : Except StoreError α} {a : α} : served r = .ok a ↔ r = .ok a :=
  mapError_eq_ok

theorem serveMove_eq_ok {target : TicketStatus} {v : Served Ticket} :
    s.serveMove now id target actor = .ok v ↔ ∃ r, s.moveTicket now id target = .ok r ∧
      v = ⟨r.1, r.2.ticket, [r.2.tell actor]⟩ := by
  simp only [serveMove, bind_eq_ok, served_eq_ok, pure_eq_ok]

theorem serveAssign_eq_ok {assignee : String} {v : Served Ticket} :
    s.serveAssign now id assignee actor = .ok v ↔ (Text.trim assignee).isEmpty = false ∧
      ∃ r, s.assignTicket now id (Text.trim assignee) = .ok r ∧
        v = ⟨r.1, r.2.ticket,
          r.2.ticket.tell ["assignee"] actor :: (if r.2.moved then [r.2.tell actor] else [])⟩ := by
  simp only [serveAssign, bind_eq_ok, served_eq_ok, pure_eq_ok, ite_error_eq_ok, Bool.not_eq_true]

theorem servePatch_eq_ok {patch : Patch} {v : Served Ticket} :
    s.servePatch now id patch actor = .ok v ↔ patch.isEmpty = false ∧
      ∃ r, s.patchTicket now id patch = .ok r ∧ v = ⟨r.1, r.2, [r.2.tell patch.changed actor]⟩ := by
  simp only [servePatch, bind_eq_ok, served_eq_ok, pure_eq_ok, ite_error_eq_ok, Bool.not_eq_true]

theorem serveProject_eq_ok {target : ProjectStatus} {v : Served Project} :
    s.serveProject now id target = .ok v ↔ target ≠ .analyzing ∧
      ∃ r, s.moveProject now id target = .ok r ∧ v = ⟨r.1, r.2.project, r.2.tell⟩ := by
  simp only [serveProject, bind_eq_ok, served_eq_ok, pure_eq_ok, ite_error_eq_ok, ne_eq]

end Store

/-! ### Commands -/

/-- **What can be asked for.** -/
inductive Command where
  | createProject (now : Instant) (id name description : String)
  | run (p : Planner) (now : Instant) (mint : Nat → String) (b : Brief)
  | moveTicket (now : Instant) (id : String) (target : TicketStatus) (actor : String)
  | assign (now : Instant) (id assignee actor : String)
  | patch (now : Instant) (id : String) (p : Patch) (actor : String)
  | moveProject (now : Instant) (id : String) (target : ProjectStatus)

/-- A command whose runs, if any, analyze dependencies by the rules. -/
def Command.Standard : Command → Prop
  | .run p .. => p.analyzer = analyze
  | _ => True

/-- A command whose runs, if any, plan commits of some sort only. -/
def Command.Within (Allowed : Commit → Prop) : Command → Prop
  | .run p now mint b => ∀ description plan,
    (p.plan now mint b.project description b.files).result = .ok plan → Allowed plan.commit
  | _ => True

theorem Command.Standard.within {c : Command} (hc : c.Standard) : c.Within Commit.Ranked := by
  cases c with
  | run p now mint b => exact fun _ _ => Planner.ranked_of_plan hc
  | _ => exact trivial

/-- The store after some commands, and the events that told of them. -/
structure History where
  store : Store
  events : List Event

namespace History

/-- The history after an operation, which may have failed. -/
def serve {α : Type} (h : History) : Except ServiceError (Served α) → History
  | .ok v => ⟨v.store, h.events ++ v.events⟩
  | .error _ => h

/-- **Carries out a command.** -/
def perform (h : History) : Command → History
  | .createProject now id name description =>
    match h.store.createProject now id name description with
    | .ok (s, _) => { h with store := s }
    | .error _ => h
  | .run p now mint b =>
    let r := p.run h.store now mint b
    ⟨r.store, h.events ++ r.events⟩
  | .moveTicket now id target actor => h.serve (h.store.serveMove now id target actor)
  | .assign now id assignee actor => h.serve (h.store.serveAssign now id assignee actor)
  | .patch now id p actor => h.serve (h.store.servePatch now id p actor)
  | .moveProject now id target => h.serve (h.store.serveProject now id target)

/-- The history of some commands from an empty store. -/
def of (cs : List Command) : History := cs.foldl perform ⟨{}, []⟩

/-! ### Histories as sequences of steps -/

variable {Allowed : Commit → Prop} {h : History} {c : Command}

theorem steps_of_serve {α : Type} {r : Except ServiceError (Served α)}
    (hr : ∀ v, r = .ok v → Store.Step Allowed h.store v.store) :
    Relation.ReflTransGen (Store.Step Allowed) h.store (h.serve r).store := by
  cases r with
  | error e => exact .refl
  | ok v => exact .single (hr v rfl)

/-- **A command is a sequence of steps.** -/
theorem steps_of_perform (hc : c.Within Allowed) :
    Relation.ReflTransGen (Store.Step Allowed) h.store (h.perform c).store := by
  cases c with
  | createProject now id name description =>
    unfold perform
    dsimp only
    cases hr : h.store.createProject now id name description with
    | error e => exact .refl
    | ok r => exact .single (.create hr)
  | run p now mint b => exact Planner.steps_of_run hc
  | moveTicket now id target actor =>
    refine steps_of_serve fun v hv => ?_
    obtain ⟨r, hr, rfl⟩ := Store.serveMove_eq_ok.mp hv
    exact .moveTicket hr
  | assign now id assignee actor =>
    refine steps_of_serve fun v hv => ?_
    obtain ⟨-, r, hr, rfl⟩ := Store.serveAssign_eq_ok.mp hv
    exact .assignTicket hr
  | patch now id p actor =>
    refine steps_of_serve fun v hv => ?_
    obtain ⟨-, r, hr, rfl⟩ := Store.servePatch_eq_ok.mp hv
    exact .patchTicket hr
  | moveProject now id target =>
    refine steps_of_serve fun v hv => ?_
    obtain ⟨-, r, hr, rfl⟩ := Store.serveProject_eq_ok.mp hv
    exact .moveProject hr

theorem steps_of_performAll : ∀ {cs : List Command} {h : History}, (∀ c ∈ cs, c.Within Allowed) →
    Relation.ReflTransGen (Store.Step Allowed) h.store (cs.foldl perform h).store
  | [], h, _ => .refl
  | c :: cs, h, hcs => by
    obtain ⟨hc, hrest⟩ := List.forall_mem_cons.mp hcs
    exact (steps_of_perform hc).trans (steps_of_performAll hrest)

theorem reachable_of (cs : List Command) (hcs : ∀ c ∈ cs, c.Within Allowed) :
    Store.Reachable Allowed (of cs).store :=
  steps_of_performAll (h := ⟨{}, []⟩) hcs

/-- **Through any history** of creating projects, generating tickets and working on them, the tickets of
every project that has any are ranked, and none waits for itself. -/
theorem ranked_of_history (cs : List Command) (hcs : ∀ c ∈ cs, c.Standard) (project : String)
    (hne : (of cs).store.ticketsOf project ≠ []) :
    Ranked ((of cs).store.ticketsOf project) ((of cs).store.edgesOf project) ∧
      (((of cs).store.ticketsOf project).map (·.id)).Nodup ∧
      (⟨((of cs).store.ticketsOf project).map (·.id), (of cs).store.edgesOf project⟩ :
        Graph).Acyclic := by
  have hr := reachable_of cs fun c hc => (hcs c hc).within
  have hranked := (Store.Orderly.of_reachable hr project).resolve_left fun hnone => hne hnone.1
  have hids : (((of cs).store.ticketsOf project).map (·.id)).Nodup :=
    (Store.Keyed.of_reachable hr).tickets.sublist (List.filter_sublist.map _)
  exact ⟨hranked, hids, hranked.acyclic hids⟩

/-- What is found of a shop: it has a cart. -/
def shopFindings : Findings :=
  { (default : Findings) with
    features := [{ (default : Feature) with id := "cart", name := "Cart", complexity := 3 }] }

/-- The planner of the shop always finds that. -/
def shopPlanner : Planner := { extractor := some (.fixed (.extracted shopFindings)) }

/-- The ids of the tickets of the shop. -/
def shopIds (i : ℕ) : String := if i = 0 then "setup" else "cart"

/-- The shop is set up, and tickets are made for it. -/
def shop : List Command :=
  [.createProject default "p" "Shop" "sells books",
    .run shopPlanner default shopIds ⟨"p", ["cart.ts"], none⟩]

/-- What is planned for the shop. -/
def shopPlan : Plan :=
  Planner.assemble "p" ["cart.ts"] (some shopFindings)
    ⟨⟨["setup", "cart"], [⟨"cart", "setup", .blocks⟩]⟩, ["setup", "cart"], ["setup", "cart"], false, []⟩
    ((Synthesis.setupTicket "p" "sells books" default "setup" ::
      shopFindings.features.map (Synthesis.featureTicket "p" default "cart")).map
        (Planner.placed ["setup", "cart"]))

theorem plan_shop :
    (shopPlanner.plan default shopIds "p" "sells books" ["cart.ts"]).result = .ok shopPlan := by
  refine Planner.plan_eq_ok.mpr ⟨by decide, shopPlan, Planner.draft_eq_ok.mpr ?_, rfl⟩
  refine ⟨_, _, _, rfl, rfl, rfl, Planner.rankAll_eq_ok.mpr ⟨by decide, ?_⟩, rfl⟩
  exact (List.mergeSort_of_pairwise (by decide)).symm

theorem ranked_of_history_shop :
    ((of shop).store.ticketsOf "p").map (·.id) = ["setup", "cart"] ∧
      Ranked ((of shop).store.ticketsOf "p") ((of shop).store.edgesOf "p") := by
  have hids : ((of shop).store.ticketsOf "p").map (·.id) = ["setup", "cart"] := by
    have hq : Planner.oneProject.project? "p" = some Planner.oneProject.projects.head! := rfl
    have hstore : (of shop).store = _ :=
      Planner.store_run_of_plan (b := ⟨"p", ["cart.ts"], none⟩) hq plan_shop
    rw [hstore]
    rfl
  refine ⟨hids, (ranked_of_history shop ?_ "p" ?_).1⟩
  · simp [shop, shopPlanner, Command.Standard]
  · intro hnil
    rw [hnil] at hids
    cases hids

end History

end Backlog
