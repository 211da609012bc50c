import Backlog.Proofs.Sync.Conversation
import Backlog.Proofs.Sync.Following
import Backlog.Proofs.Sync.Session
import Backlog.Proofs.Sync.Snapshot
import Backlog.Proofs.Sync.System

/-! # What is left of a hub

When its owner drops a hub, the sessions of its connections are saved and the connections closed. What is stored
then is known from what has happened (`Snapshot.Tells`), and a hub that is started with it knows how many
connections there were.

* `mem_snapshot`, `nodup_snapshot`: a snapshot has one entry for each connection with a session.
* `close_notMem_of_run`: a connection that is still registered has not been closed.
* `drop_saves_and_closes`: **what is stored when a hub is dropped, and what is made of it**. -/

namespace Backlog

variable {h : Hub} {a : Authenticator} {c d : Connection} {id : String} {ops : List Hub.Operation}

namespace Hub

/-! ### Snapshots -/

theorem mem_snapshot {e : Snapshot} :
    e ∈ h.snapshot ↔ ∃ c ∈ h.connections, ∃ s, c.session = some s ∧
      e = ⟨c.id, s.user, s.client, s.projects, s.since, c.heard.time⟩ := by
  simp only [snapshot, List.mem_mergeSort, List.mem_filterMap, snapshotOf?, Option.map_eq_some_iff, eq_comm (a := e)]

theorem nodup_snapshot (hd : h.Distinct) : (h.snapshot.map (·.connection)).Nodup := by
  have hids : ∀ cs : List Connection, ((cs.filterMap snapshotOf?).map (·.connection)).Sublist (cs.map (·.id)) := by
    intro cs
    induction cs with
    | nil => exact .slnil
    | cons c cs ih =>
      cases hs : c.session with
      | none => simpa [snapshotOf?, hs] using ih.cons c.id
      | some s => simpa [snapshotOf?, hs] using ih.cons_cons c.id
  exact ((List.mergeSort_perm _ _).map _).nodup_iff.mpr (hd.sublist (hids h.connections))

theorem pairwise_snapshot (h : Hub) : h.snapshot.Pairwise fun e e' => e.since.atMost e'.since = true :=
  List.pairwise_mergeSort (fun e e' e'' => Instant.atMost_trans e.since e'.since e''.since)
    (fun e e' => Instant.atMost_total e.since e'.since) _

end Hub

/-- **An entry that tells what has happened**: its client introduced himself over its connection at this instant, the
projects are ascending, and those that he followed last, and something was heard of him at the other instant. -/
structure Snapshot.Tells (e : Snapshot) (h : Hub) (ops : List Hub.Operation) : Prop where
  introduced : ∃ pre m text post, ops = pre ++ .frame m e.connection text :: post ∧
    Session.Granted ⟨e.user, e.client, e.projects, e.since⟩ (h.run pre).1.authenticator m text
  ascending : e.projects.Pairwise (· < ·)
  following : ∀ p, p ∈ e.projects ↔ Deed.last p (h.history e.connection ops) = some (.follow p)
  heard : ∃ m text, .frame m e.connection text ∈ ops ∧ e.heard = m.time

namespace Hub

/-- **The snapshot after a run tells what has happened.** -/
theorem tells_of_run (hstart : h.connections = []) (hops : (attached ops).Nodup) {e : Snapshot}
    (he : e ∈ (h.run ops).1.snapshot) : e.Tells h ops := by
  obtain ⟨c, hc, s, hs, rfl⟩ := mem_snapshot.mp he
  have hfound := (connection?_eq_some (distinct_run hstart hops)).mpr ⟨hc, rfl⟩
  obtain ⟨hintroduced, ⟨text, hheard⟩, hascending⟩ := served_of_run hstart hops hfound hs
  refine ⟨hintroduced, hascending, fun p => ?_, ⟨c.heard, text, hheard, rfl⟩⟩
  rw [← follows_iff_of_run hstart hops hfound]
  simp [Connection.follows, hs]

/-! ### Closing -/

theorem close_notMem_of_kinds {items : List Outbound} {reason : String}
    (h : ∀ k ∈ items.map Outbound.kind, k ≠ .close) : .close reason ∉ items :=
  fun hmem => h _ (List.mem_map_of_mem hmem) rfl

/-- A turn that leaves its connection does not close it. -/
theorem close_notMem_turn {timeout : ℕ} {op : Operation} {reason : String}
    (hd : (c.turn a timeout op).1 = some d) : .close reason ∉ (c.turn a timeout op).2 := by
  by_cases hs : c.session = none
  · have hturn := opening_turn hs a timeout op
    generalize c.turn a timeout op = r at *
    cases hturn with
    | stay _ hitems => exact close_notMem_of_kinds fun k hk => by simp [hitems k hk]
    | welcome _ hitems =>
      refine close_notMem_of_kinds fun k hk => ?_
      rw [hitems, List.mem_singleton] at hk
      simp [hk]
    | leave | drop | refuse => cases hd
  · have hturn := serving_turn hs a timeout op
    generalize c.turn a timeout op = r at *
    cases hturn with
    | stay _ hitems =>
      exact close_notMem_of_kinds fun k hk => by rcases hitems k hk with rfl | rfl <;> decide
    | leave | drop => cases hd

/-- **A connection that is still registered has not been closed.** -/
theorem close_notMem_of_run (hstart : h.connections = []) (hops : (attached ops).Nodup)
    (hc : (h.run ops).1.connection? id = some c) (reason : String) : .close reason ∉ Posted.to (h.run ops).2 id := by
  refine run_induction (motive := fun _ o w => ∀ c, o = some c → .close reason ∉ w) hstart id ?_ ?_ ?_ ?_ ops hops
    c hc
  · intro c hc
    cases hc
  · intro ops op w _ _ c hc
    cases hc
  · intro ops m _ _ c _
    exact List.not_mem_nil
  · intro ops op c w _ ih d hd hmem
    rcases List.mem_append.mp hmem with hmem | hmem
    · exact ih c rfl hmem
    · unfold Connection.hand at hmem
      split_ifs at hmem
      · exact close_notMem_turn hd hmem
      · exact absurd hmem List.not_mem_nil

end Hub

theorem Hub.load_snapshot (he : ∀ e ∈ h.snapshot, e.Dated) :
    Snapshot.load (h.snapshot.map Snapshot.row) = .ok h.snapshot := by
  rw [Snapshot.load_map_row he, List.mergeSort_of_pairwise h.pairwise_snapshot]

namespace SyncSystem

variable {s : SyncSystem} {steps : List Step}

/-- Entries are dated as the texts are that were received. -/
theorem dated_of_tells {e : Snapshot} (hdated : ∀ m id text, .receive m id text ∈ steps → m.time.Dated)
    (he : e.Tells h (s.trace steps)) : e.Dated := by
  obtain ⟨⟨pre, m, text, post, hpre, _, _, _, _, -, -, -, -, hsince⟩, -, -, m', text', hmem', hheard⟩ := he
  have hmem : .frame m e.connection text ∈ s.trace steps := by simp [hpre]
  have hsince : e.since = m.time := hsince
  refine ⟨?_, ?_⟩
  · rw [hsince]
    exact hdated _ _ _ (receive_mem_of_frame_mem hmem)
  · rw [hheard]
    exact hdated _ _ _ (receive_mem_of_frame_mem hmem')

/-! ### The end -/

theorem drop_of_running (hs : s.isRunning = true) :
    s.drop = ({ s.save with hub := (s.hub.closeAll "server shutting down").1, state := .dropped },
      (s.hub.closeAll "server shutting down").2) := if_pos hs

theorem stored_drop (hs : s.isRunning = true) (hstored : s.stored.isSome = true) (hd : s.hub.Distinct) :
    s.drop.1.stored = some (s.hub.snapshot.map Snapshot.row) := by
  obtain ⟨rows, hrows⟩ := Option.isSome_iff_exists.mp hstored
  rw [drop_of_running hs]
  show s.stored.map _ = _
  rw [hrows, Option.map_some, Snapshot.save_of_nodup rows (Hub.nodup_snapshot hd)]

theorem to_drop (hs : s.isRunning = true) (hd : s.hub.Distinct) (hc : c ∈ s.hub.connections) :
    Posted.to s.drop.2 c.id = c.hand [.close "server shutting down"] := by
  rw [drop_of_running hs, Hub.to_closeAll hd, (Hub.connection?_eq_some hd).mpr ⟨hc, rfl⟩]
  rfl

/-- A hub that is started with the rows of some snapshots counts them. -/
theorem stats_start {entries : List Snapshot} (hload : Snapshot.load (entries.map Snapshot.row) = .ok entries)
    (a : Authenticator) {c : SyncConfig} (hc : c.heartbeatInterval ≠ 0) (now : ℕ) :
    (start a c (some (entries.map Snapshot.row)) now).stats = .ok ⟨0, 0, 0, entries.length⟩ := by
  have hrunning : (start a c (some (entries.map Snapshot.row)) now).isRunning = true := by
    simp [start, isRunning, hc]
  rw [stats, ask_of_running hrunning]
  simp [start, Hub.stats, hload, Except.map]

/-- **A hub that is dropped** after a run that began with any stored rows, where the connections have ids of their
own and texts came in years of four digits. There is one stored entry for each connection with a session, and it
tells what has happened; each connection that is still registered is handed a close, after all that it was handed
before and for the first time; what is loaded are the entries in the order of time; and a new hub on the same rows
counts them, and has no connections. Whatever statement of a transaction fails, snapshots are saved in the place of
all others or not at all. -/
theorem drop_saves_and_closes (a : Authenticator) (c : SyncConfig) (old : List Row) (now : ℕ) (steps : List Step)
    (hc : c.heartbeatInterval ≠ 0) (hids : (steps.flatMap Step.attached).Nodup)
    (hdated : ∀ m id text, .receive m id text ∈ steps → m.time.Dated) :
    let first := start a c (some old) now
    let last := (first.run steps).1
    let posted := (first.run steps).2
    (∃ entries : List Snapshot, last.drop.1.stored = some (entries.map Snapshot.row) ∧
      (entries.map (·.connection)).Nodup ∧
      (∀ e, e ∈ entries ↔ ∃ c ∈ last.hub.connections, ∃ s, c.session = some s ∧
        e = ⟨c.id, s.user, s.client, s.projects, s.since, c.heard.time⟩) ∧
      (∀ e ∈ entries, e.Tells first.hub (first.trace steps)) ∧
      (∀ c ∈ last.hub.connections, ∃ items, (∀ reason, .close reason ∉ items) ∧
        Posted.to (posted ++ last.drop.2) c.id = items ++ c.hand [.close "server shutting down"]) ∧
      Snapshot.load (entries.map Snapshot.row) = .ok entries ∧
      entries.Pairwise (fun e e' => e.since.atMost e'.since = true) ∧
      ∀ a' c' now', c'.heartbeatInterval ≠ 0 →
        (start a' c' last.drop.1.stored now').stats = .ok ⟨0, 0, 0, entries.length⟩) ∧
    (∀ rows (ss : List Snapshot), (ss.map (·.connection)).Nodup →
      Snapshot.save rows ss = (ss.map Snapshot.row, .ok ())) ∧
    ∀ exec, Snapshot.Obeys exec → ∀ rows ss, Snapshot.transact exec rows ss = (ss.map Snapshot.row, .ok ()) ∨
      ∃ e, Snapshot.transact exec rows ss = (rows, .error e) := by
  intro first last posted
  refine ⟨?_, fun rows ss => Snapshot.save_of_nodup rows,
    fun exec h rows ss => Snapshot.transact_all_or_nothing h rows ss⟩
  have hrunning : first.isRunning = true := by simp [first, start, isRunning, hc]
  have hstart : first.hub.connections = [] := rfl
  obtain ⟨hhub, hposted, hlast, hstored⟩ := performs_run steps hrunning
  have hops : (Hub.attached (first.trace steps)).Nodup := by rwa [attached_trace]
  have hdistinct : last.hub.Distinct := hhub ▸ Hub.distinct_run hstart hops
  have htells : ∀ e ∈ last.hub.snapshot, e.Tells first.hub (first.trace steps) := fun e he =>
    Hub.tells_of_run hstart hops (hhub ▸ he)
  have hsaved := stored_drop hlast (hstored.trans rfl) hdistinct
  have hload := Hub.load_snapshot fun e he => dated_of_tells hdated (htells e he)
  refine ⟨last.hub.snapshot, hsaved, Hub.nodup_snapshot hdistinct, fun e => Hub.mem_snapshot, htells, fun c hc => ?_,
    hload, Hub.pairwise_snapshot _, fun a' c' now' hc' => hsaved ▸ stats_start hload a' hc' now'⟩
  have hfound := (Hub.connection?_eq_some hdistinct).mpr ⟨hc, rfl⟩
  refine ⟨Posted.to posted c.id, fun reason => ?_, ?_⟩
  · show Outbound.close reason ∉ Posted.to (first.run steps).2 c.id
    rw [hposted]
    rw [hhub] at hfound
    exact Hub.close_notMem_of_run hstart hops hfound reason
  · rw [Posted.to_append, to_drop hlast hdistinct hc]

/-- A moment of one second. -/
def workday (nanos : ℕ) : Moment := ⟨0, ⟨1700000000, nanos⟩⟩

/-- Ann and Bob introduce themselves, Bob by a clock that is behind, and his writer goes; Cleo does not. -/
def workdaySteps : List Step := [
  .attach (workday 0) "ann", .attach (workday 0) "bob", .attach (workday 0) "cleo",
  .receive (workday 500000000) "ann" (ClientMessage.authenticate "a" .web (some "p")).write.render,
  .receive (workday 0) "bob" (ClientMessage.authenticate "b" .ide none).write.render,
  .hangUp "bob"]

/-- The hub after that, which began with the rows of another day. -/
def workdayEnd : SyncSystem × Posted := (start .trusting {} (some [[.text "yesterday"]]) 0).run workdaySteps

theorem drop_saves_and_closes_workday :
    ∃ entries : List Snapshot, workdayEnd.1.drop.1.stored = some (entries.map Snapshot.row) ∧
      ⟨"ann", "a", .web, ["p"], (workday 500000000).time, (workday 500000000).time⟩ ∈ entries ∧
      ⟨"bob", "b", .ide, [], (workday 0).time, (workday 0).time⟩ ∈ entries ∧
      (∀ e ∈ entries, e.connection ≠ "cleo") ∧ Snapshot.load (entries.map Snapshot.row) = .ok entries ∧
      (∃ items, Posted.to (workdayEnd.2 ++ workdayEnd.1.drop.2) "ann" = items ++ [.close "server shutting down"]) ∧
      (start .trusting {} workdayEnd.1.drop.1.stored 0).stats = .ok ⟨0, 0, 0, entries.length⟩ := by
  have hann : workdayEnd.1.hub.connection? "ann" = some ⟨"ann", true,
      some ⟨"a", .web, ["p"], (workday 500000000).time⟩, workday 500000000⟩ := by decide +kernel
  have hbob : workdayEnd.1.hub.connection? "bob" =
      some ⟨"bob", false, some ⟨"b", .ide, [], (workday 0).time⟩, workday 0⟩ := by decide +kernel
  have hcleo : ∀ c ∈ workdayEnd.1.hub.connections, c.id = "cleo" → c.session = none := by decide +kernel
  have hdated : ∀ m id text, .receive m id text ∈ workdaySteps → m.time.Dated := by
    intro m id text h
    simp only [workdaySteps, List.mem_cons, Step.receive.injEq, reduceCtorEq, false_or, or_false,
      List.not_mem_nil] at h
    rcases h with ⟨rfl, -, -⟩ | ⟨rfl, -, -⟩ <;> decide
  have hdropped :=
    drop_saves_and_closes .trusting {} [[.text "yesterday"]] 0 workdaySteps (by decide) (by decide) hdated
  dsimp only at hdropped
  unfold workdayEnd at *
  generalize (start .trusting {} (some [[.text "yesterday"]]) 0).run workdaySteps = last at *
  obtain ⟨⟨entries, hstored, -, hmem, -, hclosed, hload, -, hstats⟩, -⟩ := hdropped
  refine ⟨entries, hstored, ?_, ?_, ?_, hload, ?_, hstats .trusting {} 0 (by decide)⟩
  · exact (hmem _).mpr ⟨_, List.mem_of_find?_eq_some hann, _, rfl, rfl⟩
  · exact (hmem _).mpr ⟨_, List.mem_of_find?_eq_some hbob, _, rfl, rfl⟩
  · rintro e he hid
    obtain ⟨c, hc, s, hs, rfl⟩ := (hmem e).mp he
    rw [hcleo c hc hid] at hs
    cases hs
  · obtain ⟨items, -, hposted⟩ := hclosed _ (List.mem_of_find?_eq_some hann)
    exact ⟨items, hposted⟩

end SyncSystem

end Backlog
