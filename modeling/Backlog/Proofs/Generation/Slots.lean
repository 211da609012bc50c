import Backlog.Http.Server
import Backlog.Proofs.Generation.Run

/-! # One run of a project at a time

Requests for runs come when they like, take their steps in any order, and may leave before they are through
(`Floor.Event`); whatever else goes on may write to the store meanwhile. A step of a request takes a slot, gives
one back, or leaves the slots alone (`Turn.stepped_step`). So the slots that are taken are at any moment those of
the requests that hold one, each project once (`Floor.Guarded`, `guarded_run`).

* `one_run_of_a_project`: what follows from this for runs (`Exclusive`) and for requests (`Advances`).
* `alone_eq_generate`: a request that takes all its steps without others between them is answered as the server
  answers it. -/

namespace Backlog

variable {p : Planner} {now : Instant} {mint : ℕ → String} {t u : Turn} {s s' : Store} {slots slots' : Slots}
  {project : String} {f : Floor} {i j : ℕ} {ts : List Turn} {r : Progress × Store × Slots}

/-! ### Slots -/

theorem Slots.claim?_eq_none : slots.claim? project = none ↔ project ∈ slots.taken := by
  simp [claim?]

theorem Slots.claim?_eq_some : slots.claim? project = some slots' ↔
    project ∉ slots.taken ∧ slots' = ⟨project :: slots.taken⟩ := by
  by_cases hmem : project ∈ slots.taken <;> simp [claim?, hmem, eq_comm]

/-- The slot that is given back is the only one that becomes free. -/
theorem Slots.release_perm {rest : List String} (htaken : slots.taken.Perm (project :: rest))
    (hnodup : slots.taken.Nodup) : (slots.release project).taken.Perm rest := by
  have herase : (slots.release project).taken = slots.taken.erase project :=
    (hnodup.erase_eq_filter project).symm
  rw [herase]
  exact (htaken.erase project).trans (by simp)

/-! ### One step of a request -/

/-- **What a step of a request does to the slots**: it leaves them alone, takes one or gives one back. Only a
request that holds a slot writes to the store. -/
inductive Turn.Stepped (t : Turn) (s : Store) (slots : Slots) : Progress × Store × Slots → Prop where
  | works {progress : Progress} {s' : Store} : t.progress.holds = true → progress.holds = true →
    Stepped t s slots (progress, s', slots)
  | rests : t.progress.holds = false → t.progress ≠ .waiting → Stepped t s slots (t.progress, s, slots)
  | refused : t.progress = .waiting → t.brief.project ∈ slots.taken → Stepped t s slots (.refused, s, slots)
  | claims : t.progress = .waiting → t.brief.project ∉ slots.taken →
    Stepped t s slots (.claimed, s, ⟨t.brief.project :: slots.taken⟩)
  | releases {o : Outcome} : t.progress = .ended o →
    Stepped t s slots (.done o, s, slots.release t.brief.project)

theorem Turn.stepped_step (p : Planner) (now : Instant) (mint : ℕ → String) (t : Turn) (s : Store)
    (slots : Slots) : t.Stepped s slots (t.step p now mint s slots) := by
  unfold step
  cases hp : t.progress with
  | waiting =>
    dsimp only
    cases hclaim : slots.claim? t.brief.project with
    | none => exact .refused hp (Slots.claim?_eq_none.mp hclaim)
    | some slots' =>
      obtain ⟨hfree, rfl⟩ := Slots.claim?_eq_some.mp hclaim
      exact .claims hp hfree
  | claimed =>
    dsimp only
    cases Run.start s now t.brief <;> exact .works (by rw [hp]; rfl) rfl
  | analyzing q =>
    dsimp only
    split
    · exact .works (by rw [hp]; rfl) rfl
    · split <;> exact .works (by rw [hp]; rfl) rfl
  | failing e => exact .works (by rw [hp]; rfl) rfl
  | ended o => exact .releases hp
  | done o =>
    have hrests : t.Stepped s slots (t.progress, s, slots) := .rests (by rw [hp]; rfl) (by rw [hp]; simp)
    rwa [hp] at hrests
  | refused =>
    have hrests : t.Stepped s slots (t.progress, s, slots) := .rests (by rw [hp]; rfl) (by rw [hp]; simp)
    rwa [hp] at hrests

theorem Run.id_eq_of_start {q : Project} {events : List Backlog.Event} {b : Brief}
    (h : Run.start s now b = .ok (s', q, events)) : q.id = b.project := by
  unfold Run.start at h
  cases hbegin : s.beginAnalysis now b.project with
  | error e => rw [hbegin] at h; cases h
  | ok r =>
    obtain ⟨q₀, q₁, hq₀, rfl, rfl⟩ := Store.beginAnalysis_eq_ok.mp hbegin
    rw [hbegin] at h
    cases h
    exact (Store.mem_of_project? hq₀).2

namespace Floor

theorem step_of_turn (ht : f.turns[i]? = some t) (p : Planner) (now : Instant) (mint : ℕ → String) :
    f.step p now mint i = {
      store := (t.step p now mint f.store f.slots).2.1
      slots := (t.step p now mint f.store f.slots).2.2
      turns := f.turns.set i { t with progress := (t.step p now mint f.store f.slots).1 } } := by
  simp [step, ht]

/-! ### Events -/

/-- What can happen where requests meet. -/
inductive Event where
  /-- A request comes. -/
  | arrive (b : Brief)
  /-- A request takes its next step; what planning finds may be different each time. -/
  | turn (p : Planner) (now : Instant) (mint : ℕ → String) (i : ℕ)
  /-- A request is given up wherever it is; the slot that it holds is given back. -/
  | leave (i : ℕ)
  /-- Something else writes to the store. -/
  | write (s : Store)

/-- A request is given up. -/
def leave (f : Floor) (i : ℕ) : Floor :=
  match f.turns[i]? with
  | none => f
  | some t => { f with
      slots := if t.progress.holds then f.slots.release t.brief.project else f.slots
      turns := f.turns.eraseIdx i }

/-- **One event.** -/
def perform (f : Floor) : Event → Floor
  | .arrive b => { f with turns := f.turns ++ [⟨b, .waiting⟩] }
  | .turn p now mint i => f.step p now mint i
  | .leave i => f.leave i
  | .write s => { f with store := s }

/-- **Events one after another.** -/
def run (f : Floor) (es : List Event) : Floor := es.foldl perform f

/-! ### The slots that are taken -/

/-- The projects of the requests that hold a slot. -/
def holders (ts : List Turn) : List String := (ts.filter (·.progress.holds)).map (·.brief.project)

theorem holders_append (ts us : List Turn) : holders (ts ++ us) = holders ts ++ holders us := by
  simp [holders]

theorem holders_of_holds (h : t.progress.holds = true) : holders [t] = [t.brief.project] := by
  simp [holders, h]

theorem holders_of_not_holds (h : t.progress.holds = false) : holders [t] = [] := by
  simp [holders, h]

theorem mem_holders : project ∈ holders ts ↔ ∃ t ∈ ts, t.progress.holds = true ∧ t.brief.project = project := by
  simp [holders, and_assoc]

/-- What one of the requests holds, and what the others do: `rest` is the same when this one is replaced or taken
away. -/
theorem exists_others (ht : ts[i]? = some t) : ∃ rest, (holders ts).Perm (holders [t] ++ rest) ∧
    (∀ u, (holders (ts.set i u)).Perm (holders [u] ++ rest)) ∧ (holders (ts.eraseIdx i)).Perm rest := by
  obtain ⟨hi, rfl⟩ := List.getElem?_eq_some_iff.mp ht
  have hmiddle (u : Turn) : (holders (ts.take i ++ u :: ts.drop (i + 1))).Perm
      (holders [u] ++ holders (ts.take i ++ ts.drop (i + 1))) := by
    rw [← holders_append, List.singleton_append]
    exact (List.perm_middle.filter _).map _
  refine ⟨holders (ts.take i ++ ts.drop (i + 1)), ?_, fun u => ?_, ?_⟩
  · have hthere := hmiddle ts[i]
    rwa [← List.drop_eq_getElem_cons hi, List.take_append_drop] at hthere
  · rw [List.set_eq_take_append_cons_drop, if_pos hi]
    exact hmiddle u
  · rw [List.eraseIdx_eq_take_drop_succ]

/-- **The slots that are taken are those of the requests that hold one**, each project once. -/
structure Guarded (f : Floor) : Prop where
  taken : f.slots.taken.Perm (holders f.turns)
  once : f.slots.taken.Nodup

/-- A step of a request changes the slots as it changes what the request holds. -/
theorem holders_stepped {rest : List String} (hr : t.Stepped s slots r)
    (htaken : slots.taken.Perm (holders [t] ++ rest)) (honce : slots.taken.Nodup) :
    r.2.2.taken.Perm (holders [{ t with progress := r.1 }] ++ rest) ∧ r.2.2.taken.Nodup := by
  cases hr with
  | works hholds hholds' =>
    rw [holders_of_holds hholds] at htaken
    rw [holders_of_holds hholds']
    exact ⟨htaken, honce⟩
  | rests hholds hwaits => exact ⟨htaken, honce⟩
  | refused hwaits hmem =>
    rw [holders_of_not_holds (by rw [hwaits]; rfl)] at htaken
    exact ⟨htaken, honce⟩
  | claims hwaits hfree =>
    rw [holders_of_not_holds (by rw [hwaits]; rfl)] at htaken
    exact ⟨htaken.cons t.brief.project, List.nodup_cons.mpr ⟨hfree, honce⟩⟩
  | releases hended =>
    rw [holders_of_holds (by rw [hended]; rfl)] at htaken
    exact ⟨Slots.release_perm htaken honce, honce.filter _⟩

theorem Guarded.step (hf : f.Guarded) (p : Planner) (now : Instant) (mint : ℕ → String) (i : ℕ) :
    (f.step p now mint i).Guarded := by
  cases ht : f.turns[i]? with
  | none => simpa [Floor.step, ht] using hf
  | some t =>
    obtain ⟨rest, hthere, hset, -⟩ := exists_others ht
    obtain ⟨htaken, honce⟩ := holders_stepped (t.stepped_step p now mint f.store f.slots)
      (hf.taken.trans hthere) hf.once
    rw [step_of_turn ht]
    exact ⟨htaken.trans (hset _).symm, honce⟩

theorem Guarded.leave (hf : f.Guarded) (i : ℕ) : (f.leave i).Guarded := by
  cases ht : f.turns[i]? with
  | none => simpa [Floor.leave, ht] using hf
  | some t =>
    obtain ⟨rest, hthere, -, herase⟩ := exists_others ht
    have htaken := hf.taken.trans hthere
    cases hholds : t.progress.holds with
    | true =>
      rw [holders_of_holds hholds] at htaken
      have hreleased := (Slots.release_perm htaken hf.once).trans herase.symm
      simpa [Floor.leave, ht, hholds] using (⟨hreleased, hf.once.filter _⟩ : Guarded
        { f with slots := f.slots.release t.brief.project, turns := f.turns.eraseIdx i })
    | false =>
      rw [holders_of_not_holds hholds] at htaken
      simpa [Floor.leave, ht, hholds] using (⟨htaken.trans herase.symm, hf.once⟩ : Guarded
        { f with turns := f.turns.eraseIdx i })

theorem Guarded.perform (hf : f.Guarded) (e : Event) : (f.perform e).Guarded := by
  cases e with
  | arrive b =>
    have hnew : holders [(⟨b, .waiting⟩ : Turn)] = [] := holders_of_not_holds rfl
    refine ⟨?_, hf.once⟩
    simpa [Floor.perform, holders_append, hnew] using hf.taken
  | turn p now mint i => exact hf.step p now mint i
  | leave i => exact hf.leave i
  | write s => exact ⟨hf.taken, hf.once⟩

/-- **After any events**, from a place that nobody has come to yet. -/
theorem guarded_run (s : Store) (es : List Event) : (({ store := s } : Floor).run es).Guarded :=
  List.foldlRecOn es perform ⟨List.Perm.refl _, List.nodup_nil⟩ fun _ hf e _ => hf.perform e

/-! ### Runs in progress -/

theorem Guarded.mem_taken (hf : f.Guarded) : project ∈ f.slots.taken ↔
    ∃ t ∈ f.turns, t.progress.holds = true ∧ t.brief.project = project :=
  hf.taken.mem_iff.trans mem_holders

theorem Guarded.inFlight (hf : f.Guarded) : f.slots.inFlight = f.running := by
  simpa [holders, Slots.inFlight, running] using hf.taken.length_eq

/-- Of two requests that hold the slot of one project neither comes before the other. -/
theorem Guarded.not_lt (hf : f.Guarded) (ht : f.turns[i]? = some t) (hu : f.turns[j]? = some u)
    (htholds : t.progress.holds = true) (huholds : u.progress.holds = true)
    (hsame : t.brief.project = u.brief.project) : ¬ i < j := by
  -- the later of the two would be among those behind the first, whose project is taken once
  intro hij
  obtain ⟨hi, rfl⟩ := List.getElem?_eq_some_iff.mp ht
  have hlater : u ∈ f.turns.drop (i + 1) := by
    refine List.mem_iff_getElem?.mpr ⟨j - (i + 1), ?_⟩
    rw [List.getElem?_drop, ← hu]
    congr 1
    omega
  have hsplit : f.turns = f.turns.take i ++ f.turns[i] :: f.turns.drop (i + 1) := by simp
  have honce : (holders f.turns).Nodup := hf.taken.nodup_iff.mp hf.once
  rw [hsplit, holders_append, ← List.singleton_append, holders_append, holders_of_holds htholds] at honce
  have hnot : f.turns[i].brief.project ∉ holders (f.turns.drop (i + 1)) :=
    (List.nodup_cons.mp (List.nodup_append.mp honce).2.1).1
  exact hnot (mem_holders.mpr ⟨u, hlater, huholds, hsame.symm⟩)

/-- **At most one run of a project is in progress**, and the slots that are taken are those of the runs that are. -/
structure Exclusive (f : Floor) : Prop where
  apart : ∀ (i j : ℕ) (t u : Turn), f.turns[i]? = some t → f.turns[j]? = some u → t.progress.holds = true →
    u.progress.holds = true → t.brief.project = u.brief.project → i = j
  inFlight : f.slots.inFlight = f.running
  taken : ∀ project, project ∈ f.slots.taken ↔
    ∃ t ∈ f.turns, t.progress.holds = true ∧ t.brief.project = project
  idle : (∀ t ∈ f.turns, t.progress.holds = false) → f.slots.taken = []

theorem Guarded.exclusive (hf : f.Guarded) : f.Exclusive where
  apart := by
    intro i j t u ht hu htholds huholds hsame
    have hij := hf.not_lt ht hu htholds huholds hsame
    have hji := hf.not_lt hu ht huholds htholds hsame.symm
    omega
  inFlight := hf.inFlight
  taken := fun _ => hf.mem_taken
  idle := by
    intro hidle
    refine List.eq_nil_iff_forall_not_mem.mpr fun project hmem => ?_
    obtain ⟨t, ht, hholds, -⟩ := hf.mem_taken.mp hmem
    simp [hidle t ht] at hholds

/-- **What comes of the next step of the `i`-th request**, which was at `t`. A request that waits is refused if
another for its project is in progress, and begins if there is none, whatever goes on for other projects. -/
structure Advances (f f' : Floor) (i : ℕ) (t : Turn) : Prop where
  refused : t.progress = .waiting →
    (∃ u ∈ f.turns, u.progress.holds = true ∧ u.brief.project = t.brief.project) →
    f' = { f with turns := f.turns.set i { t with progress := .refused } }
  begins : t.progress = .waiting →
    (∀ u ∈ f.turns, u.progress.holds = true → u.brief.project ≠ t.brief.project) →
    f' = { f with
      slots := ⟨t.brief.project :: f.slots.taken⟩
      turns := f.turns.set i { t with progress := .claimed } }
  goesOn : t.progress.holds = true → ∃ progress, progress ≠ .refused ∧
    f'.turns = f.turns.set i { t with progress }
  releases : ∀ o, t.progress = .ended o → f' = { f with
    slots := f.slots.release t.brief.project
    turns := f.turns.set i { t with progress := .done o } }
  rests : t.progress ≠ .waiting → t.progress.holds = false → f' = f

theorem Guarded.advances (hf : f.Guarded) (ht : f.turns[i]? = some t) (p : Planner) (now : Instant)
    (mint : ℕ → String) : f.Advances (f.step p now mint i) i t where
  refused := by
    intro hwaits hother
    have hclaim := Slots.claim?_eq_none.mpr (hf.mem_taken.mpr hother)
    simp [Floor.step, ht, Turn.step, hwaits, hclaim]
  begins := by
    intro hwaits hnone
    have hfree : t.brief.project ∉ f.slots.taken := by
      intro hmem
      obtain ⟨u, hu, hholds, hsame⟩ := hf.mem_taken.mp hmem
      exact hnone u hu hholds hsame
    have hclaim := Slots.claim?_eq_some.mpr ⟨hfree, rfl⟩
    simp [Floor.step, ht, Turn.step, hwaits, hclaim]
  goesOn := by
    intro hholds
    refine ⟨(t.step p now mint f.store f.slots).1, fun hrefused => ?_, by rw [step_of_turn ht]⟩
    have hr := t.stepped_step p now mint f.store f.slots
    generalize t.step p now mint f.store f.slots = r at hr hrefused
    cases hr with
    | works _ hholds' => cases hrefused; cases hholds'
    | rests hrests => rw [hholds] at hrests; cases hrests
    | refused hwaits => rw [hwaits] at hholds; cases hholds
    | claims => cases hrefused
    | releases => cases hrefused
  releases := by
    intro o hended
    simp [Floor.step, ht, Turn.step, hended]
  rests := by
    intro hwaits hholds
    have hr : t.step p now mint f.store f.slots = (t.progress, f.store, f.slots) := by
      cases hp : t.progress with
      | done o => simp [Turn.step, hp]
      | refused => simp [Turn.step, hp]
      | _ => simp_all [Progress.holds]
    have hset : f.turns.set i t = f.turns := by
      obtain ⟨hi, rfl⟩ := List.getElem?_eq_some_iff.mp ht
      exact List.set_getElem_self hi
    rw [step_of_turn ht, hr, hset]

theorem exists_body_of_refused (b : Brief) : ∃ body, Turn.response? ⟨b, .refused⟩ = some ⟨409, .json body⟩ ∧
    (body.get? "error").bind (Json.get? "code") = some (.string "generation_in_progress") :=
  ⟨_, rfl, by simp [Outcome.write, Json.get?]⟩

/-- **One run of a project at a time**, whatever requests come, take their steps and leave, in any order: at any
moment the slots that are taken are those of the runs in progress. A request is refused exactly when a run of its
own project is in progress; it is then told so, and store and slots stay as they are. -/
theorem one_run_of_a_project (s : Store) (es : List Event) :
    (({ store := s } : Floor).run es).Exclusive ∧
      (∀ (i : ℕ) (t : Turn), (({ store := s } : Floor).run es).turns[i]? = some t →
        ∀ (p : Planner) (now : Instant) (mint : ℕ → String), (({ store := s } : Floor).run es).Advances
          ((({ store := s } : Floor).run es).step p now mint i) i t) ∧
      ∀ b : Brief, ∃ body, Turn.response? ⟨b, .refused⟩ = some ⟨409, .json body⟩ ∧
        (body.get? "error").bind (Json.get? "code") = some (.string "generation_in_progress") :=
  ⟨(guarded_run s es).exclusive, fun _ _ ht p now mint => (guarded_run s es).advances ht p now mint,
    exists_body_of_refused⟩

/-- Two requests for a shop and one for a bank; each takes a step. -/
def contest : List Event :=
  [.arrive ⟨"shop", ["cart.rs"], none⟩, .arrive ⟨"shop", ["till.rs"], none⟩, .arrive ⟨"bank", [], none⟩,
    .turn {} default (fun _ => "") 0, .turn {} default (fun _ => "") 1, .turn {} default (fun _ => "") 2]

/-- The second request for the shop is refused, as the first has begun; that for the bank begins too. -/
theorem one_run_of_a_project_contest : (({} : Floor).run contest).slots.taken = ["bank", "shop"] ∧
    (({} : Floor).run contest).turns.map (·.response?.map (·.status)) = [none, some 409, none] ∧
    (({} : Floor).run contest).running = 2 ∧ (({} : Floor).run contest).slots.inFlight = 2 ∧
    ((({} : Floor).run contest).leave 0).slots.taken = ["bank"] ∧ (({} : Floor).run contest).Exclusive := by
  have hexclusive := (one_run_of_a_project {} contest).1
  have hrunning : (({} : Floor).run contest).running = 2 := by decide
  refine ⟨by decide, by decide, hrunning, ?_, by decide, hexclusive⟩
  rw [hexclusive.inFlight, hrunning]

/-! ### One request alone -/

/-- A request that takes its steps without others between them. -/
def alone (s : Server) (o : Occasion) (b : Brief) : Floor :=
  ({ store := s.store, slots := s.slots, turns := [⟨b, .waiting⟩] } : Floor).run
    (List.replicate 5 (.turn s.planner o.now o.ticketId 0))

/-- **A request alone** leaves what the server leaves, and is answered as the server answers it. -/
theorem alone_eq_generate (s : Server) (o : Occasion) (b : Brief) : ∃ t, (alone s o b).turns = [t] ∧
    t.response? = some (s.generate o b).response ∧ (alone s o b).store = (s.generate o b).store ∧
    (alone s o b).slots = (s.generate o b).slots := by
  unfold Server.generate
  cases hclaim : s.slots.claim? b.project with
  | none =>
    refine ⟨⟨b, .refused⟩, ?_⟩
    simp [alone, run, perform, step, Turn.step, hclaim, Turn.response?, Server.reply]
  | some slots =>
    unfold Planner.run
    cases hstart : Run.start s.store o.now b with
    | error e =>
      refine ⟨⟨b, .done (Run.fail s.store o.now b.project e).outcome⟩, ?_⟩
      simp [alone, run, perform, step, Turn.step, hclaim, hstart, Turn.response?, List.replicate]
    | ok r =>
      obtain ⟨s', q, events⟩ := r
      have hid : q.id = b.project := Run.id_eq_of_start hstart
      unfold Run.finish
      dsimp only
      rw [hid]
      cases hplan : (s.planner.plan o.now o.ticketId b.project (b.description.getD q.description)
        b.files).result with
      | error e =>
        refine ⟨⟨b, .done (Run.fail s' o.now b.project e).outcome⟩, ?_⟩
        simp [alone, run, perform, step, Turn.step, hclaim, hstart, hid, hplan, Turn.response?, List.replicate]
      | ok plan =>
        cases hcommit : s'.commit o.now plan.commit with
        | error e =>
          refine ⟨⟨b, .done (Run.fail s' o.now b.project (.ofStore e)).outcome⟩, ?_⟩
          simp [alone, run, perform, step, Turn.step, hclaim, hstart, hid, hplan, hcommit, Turn.response?,
            List.replicate]
        | ok r =>
          obtain ⟨s'', q'⟩ := r
          refine ⟨⟨b, .done ⟨q'.id, q'.status, plan.commit.tickets, plan.criticalPath, plan.fallback, none⟩⟩, ?_⟩
          simp [alone, run, perform, step, Turn.step, hclaim, hstart, hid, hplan, hcommit, Turn.response?,
            List.replicate]

end Floor

end Backlog
