import Backlog.Proofs.Graph.Indexed
import Backlog.Proofs.Graph.Kinds

/-! # Graphs that grow by calls

A graph is made from nodes, or from nodes and edges at once, and grows by calls that add an edge (`Grown`). A call
may fail, or find its edge there already; then it leaves the graph as it is (`addEdge_of_not`). So a graph is
known from its nodes and the calls alone: its edges are those the calls have added (`taken`), grouped by the nodes
they start at, and a pair of nodes is joined by the first edge that a call gives for it
(`mem_accepted_foldl_attempt`).

* `edges_of_calls`: **what calls make of a graph**, and that its edges build it again. -/

namespace Backlog

open Backlog.Graph (SameEnds joinsNodes joinsNodes_iff)

variable {ids : List String} {es : List Dependency} {e f : Dependency}

/-! ### The edges that nodes can have -/

/-- **An edge fits** some nodes if it joins two different ones of them. -/
def Dependency.Fits (ids : List String) (e : Dependency) : Prop :=
  e.ticket ∈ ids ∧ e.dependsOn ∈ ids ∧ e.ticket ≠ e.dependsOn

instance (ids : List String) (e : Dependency) : Decidable (e.Fits ids) :=
  inferInstanceAs (Decidable (e.ticket ∈ ids ∧ e.dependsOn ∈ ids ∧ e.ticket ≠ e.dependsOn))

theorem Dependency.fits_of_joinsNodes (h : joinsNodes e.ticket e.dependsOn f = true) : f.Fits ids ↔ e.Fits ids := by
  obtain ⟨hx, hy⟩ := joinsNodes_iff.mp h
  rw [Fits, Fits, hx, hy]

namespace Graph

variable {g : Graph}

/-! ### Calls -/

/-- **A call tries to join the nodes** if its edge fits, and does nothing otherwise. -/
theorem attempt_eq (g : Graph) (e : Dependency) :
    g.attempt e = if e.Fits g.nodes then (g.insert e).1 else g := by
  unfold attempt
  split_ifs with h
  · rw [addEdge_eq_ok.mpr ⟨h.1, h.2.1, rfl⟩]
  · cases hadd : g.addEdge e with
    | error fault => rfl
    | ok r =>
      obtain ⟨hx, hy, rfl⟩ := addEdge_eq_ok.mp hadd
      have hself : e.ticket = e.dependsOn := not_not.mp fun hne => h ⟨hx, hy, hne⟩
      rw [insert_eq, if_pos (.inl hself)]

theorem nodes_attempt (g : Graph) (e : Dependency) : (g.attempt e).nodes = g.nodes := by
  rw [attempt_eq]
  split_ifs
  · exact nodes_insert g e
  · rfl

theorem nodes_foldl_attempt (es : List Dependency) (g : Graph) : (es.foldl attempt g).nodes = g.nodes := by
  induction es generalizing g with
  | nil => rfl
  | cons e es ih => rw [List.foldl_cons, ih, nodes_attempt]

theorem Built.foldl_attempt (hg : g.Built) (es : List Dependency) : (es.foldl Graph.attempt g).Built := by
  induction es generalizing g with
  | nil => exact hg
  | cons e es ih => exact ih (hg.attempt e)

theorem foldl_attempt_eq (es : List Dependency) (g : Graph) :
    es.foldl attempt g = (es.filter (·.Fits g.nodes)).foldl (fun g e => (g.insert e).1) g := by
  induction es generalizing g with
  | nil => rfl
  | cons e es ih =>
    rw [List.foldl_cons, ih, nodes_attempt, attempt_eq, List.filter_cons]
    simp only [decide_eq_true_eq]
    split_ifs <;> rfl

/-- **Of the calls for a pair of nodes the first counts.** -/
theorem mem_accepted_foldl_attempt (hids : ids.Nodup) :
    e ∈ (es.foldl attempt ⟨ids, []⟩).accepted ↔
      e.Fits ids ∧ es.find? (joinsNodes e.ticket e.dependsOn) = some e := by
  have hg := ((Built.nodes (ofNodes_eq_ok.mpr ⟨hids, rfl⟩)).foldl_attempt es).wellFormed
  have hfound : (es.foldl attempt ⟨ids, []⟩).accepted.find? (joinsNodes e.ticket e.dependsOn) =
      es.find? fun f => decide (f.Fits ids ∧ joinsNodes e.ticket e.dependsOn f = true) := by
    have hfit : ∀ f ∈ es.filter (·.Fits ids), f.ticket ≠ f.dependsOn := by
      intro f hf
      exact (of_decide_eq_true (List.mem_filter.mp hf).2).2.2
    rw [foldl_attempt_eq, find?_foldl_insert hfit, List.find?_filter]
    simp
  by_cases he : e.Fits ids
  · have hsame : (fun f => decide (f.Fits ids ∧ joinsNodes e.ticket e.dependsOn f = true)) =
        joinsNodes e.ticket e.dependsOn := by
      funext f
      rw [Bool.eq_iff_iff, decide_eq_true_eq]
      exact and_iff_right_of_imp fun h => (Dependency.fits_of_joinsNodes h).mpr he
    rw [hg.mem_iff_find?, hfound, hsame, and_iff_right he]
  · refine iff_of_false (fun hmem => he ?_) fun h => he h.1
    obtain ⟨hx, hy⟩ := hg.ends e hmem
    rw [nodes_foldl_attempt] at hx hy
    exact ⟨hx, hy, hg.loopless e hmem⟩

theorem foldlM_addEdge_attempt {known : Graph} : ∀ {es : List Dependency} {g : Graph},
    es.foldlM (fun (g : Graph) e => (g.addEdge e).map (·.1)) g = .ok known → known = es.foldl attempt g
  | [], g, h => by cases h; rfl
  | e :: es, g, h => by
    rw [List.foldlM_cons, bind_eq_ok] at h
    obtain ⟨g₁, h₁, hrest⟩ := h
    obtain ⟨r, hr, rfl⟩ := map_eq_ok.mp h₁
    have hattempt : g.attempt e = r.1 := by rw [attempt, hr]
    rw [List.foldl_cons, hattempt]
    exact foldlM_addEdge_attempt hrest

end Graph

namespace IndexedGraph

variable {g : IndexedGraph}

/-! ### Calls on a graph by position -/

/-- The graph that calls leave. -/
def after (g : IndexedGraph) (es : List Dependency) : IndexedGraph := es.foldl (fun g e => (g.addEdge e).2) g

/-- The edges that calls add, in turn. -/
def taken (g : IndexedGraph) : List Dependency → List Dependency
  | [] => []
  | e :: es =>
    if (g.addEdge e).1 = .ok true then e :: taken (g.addEdge e).2 es else taken (g.addEdge e).2 es

theorem join_of_not {i j : ℕ} {kind : DependencyKind} (h : (g.join i j kind).1 ≠ true) :
    (g.join i j kind).2 = g := by
  unfold join at h ⊢
  split_ifs at h ⊢
  · rfl
  · exact absurd rfl h

/-- **A call that does not add its edge leaves the graph as it is**, also if it fails. -/
theorem addEdge_of_not (h : (g.addEdge e).1 ≠ .ok true) : (g.addEdge e).2 = g := by
  unfold addEdge at h ⊢
  cases hx : g.require e.ticket with
  | error fault => rfl
  | ok i =>
    cases hy : g.require e.dependsOn with
    | error fault => rfl
    | ok j =>
      rw [hx, hy] at h
      exact join_of_not fun hjoin => h (congrArg Except.ok hjoin)

/-! ### Graphs that grew -/

/-- **A graph that grew** from nodes: it is made of them, or of them and edges at once, and calls add to it one
after another. -/
inductive Grown (nodes : List String) : List Dependency → IndexedGraph → Prop where
  | ofNodes {g : IndexedGraph} : IndexedGraph.ofNodes nodes = .ok g → Grown nodes [] g
  | ofEdges {edges : List Dependency} {g : IndexedGraph} :
    IndexedGraph.ofEdges nodes edges = .ok g → Grown nodes edges g
  | call {edges : List Dependency} {g : IndexedGraph} (e : Dependency) :
    Grown nodes edges g → Grown nodes (edges ++ [e]) (g.addEdge e).2

end IndexedGraph

namespace Graph

variable {g : Graph}

theorem after_layout (hg : g.Built) (es : List Dependency) : g.layout.after es = (es.foldl attempt g).layout := by
  induction es generalizing g with
  | nil => rfl
  | cons e es ih =>
    rw [List.foldl_cons, ← ih (hg.attempt e), IndexedGraph.after, List.foldl_cons, addEdge_layout hg.wellFormed]
    rfl

theorem accepted_attempt (g : Graph) (e : Dependency) :
    (g.attempt e).accepted = g.accepted ++ if (g.addEdge e).map (·.2) = .ok true then [e] else [] := by
  unfold attempt
  cases hadd : g.addEdge e with
  | error fault => simp [Except.map]
  | ok r =>
    obtain ⟨-, -, rfl⟩ := addEdge_eq_ok.mp hadd
    rw [insert_eq]
    split_ifs <;> simp_all [Except.map]

theorem accepted_foldl_attempt (hg : g.Built) (es : List Dependency) :
    (es.foldl attempt g).accepted = g.accepted ++ g.layout.taken es := by
  induction es generalizing g with
  | nil => exact (List.append_nil _).symm
  | cons e es ih =>
    rw [List.foldl_cons, ih (hg.attempt e), accepted_attempt, IndexedGraph.taken, addEdge_layout hg.wellFormed]
    split_ifs <;> simp

end Graph

namespace IndexedGraph

variable {g : IndexedGraph}

/-- **A graph that grew is laid out** from the one that the same calls make. -/
theorem Grown.eq_layout (h : Grown ids es g) : ids.Nodup ∧ g = (es.foldl Graph.attempt ⟨ids, []⟩).layout := by
  induction h with
  | ofNodes h =>
    rw [Graph.ofNodes_layout] at h
    obtain ⟨known, hknown, rfl⟩ := map_eq_ok.mp h
    obtain ⟨hids, rfl⟩ := Graph.ofNodes_eq_ok.mp hknown
    exact ⟨hids, rfl⟩
  | ofEdges h =>
    rw [Graph.ofEdges_layout] at h
    obtain ⟨known, hknown, rfl⟩ := map_eq_ok.mp h
    obtain ⟨start, hstart, hfold⟩ := bind_eq_ok.mp hknown
    obtain ⟨hids, rfl⟩ := Graph.ofNodes_eq_ok.mp hstart
    exact ⟨hids, congrArg _ (Graph.foldlM_addEdge_attempt hfold)⟩
  | call e _ ih =>
    obtain ⟨hids, rfl⟩ := ih
    have hg := (Graph.Built.nodes (Graph.ofNodes_eq_ok.mpr ⟨hids, rfl⟩)).foldl_attempt
    rw [Graph.addEdge_layout (hg _).wellFormed, List.foldl_concat]
    exact ⟨hids, rfl⟩

/-- **What calls make of a graph.** Let a graph be made of nodes, or of nodes and edges, and grow by calls that add an
edge. Its table is inverse to its list of nodes, and its rows go with them. Its edges are those the calls have
added, grouped by their nodes; a pair of nodes has one edge at most, the first that was given for it. A call that
fails or adds nothing leaves the graph as it is. From its nodes and edges the same graph is built. And it is the
layout of the graph with these nodes and edges, which answers every call in the same way. -/
theorem edges_of_calls (h : Grown ids es g) :
    g.nodes = ids ∧ g.Aligned ∧
      (∃ start, ofNodes ids = .ok start ∧ g = start.after es ∧
        g.edges = ids.flatMap (fun n => (start.taken es).filter (·.ticket == n)) ∧
        g.edges.Perm (start.taken es) ∧ g.edgeCount = (start.taken es).length ∧
        ∃ known : Graph, known.Built ∧ known.nodes = ids ∧ known.accepted = start.taken es ∧ known.layout = g ∧
          known.edges = g.edges ∧ ∀ e, (known.addEdge e).map (·.2) = (g.addEdge e).1) ∧
      (∀ e, e ∈ g.edges ↔ e.Fits ids ∧ es.find? (joinsNodes e.ticket e.dependsOn) = some e) ∧
      g.edges.Pairwise (fun e f => ¬ SameEnds e f) ∧
      (∀ e, (g.addEdge e).1 ≠ .ok true → (g.addEdge e).2 = g) ∧
      ofEdges g.nodes g.edges = .ok g := by
  obtain ⟨hids, rfl⟩ := h.eq_layout
  have hstart : Graph.ofNodes ids = .ok ⟨ids, []⟩ := Graph.ofNodes_eq_ok.mpr ⟨hids, rfl⟩
  have hbuilt := (Graph.Built.nodes hstart).foldl_attempt es
  have haccepted := Graph.accepted_foldl_attempt (.nodes hstart) es
  have hafter := Graph.after_layout (.nodes hstart) es
  have hnodes := Graph.nodes_foldl_attempt es ⟨ids, []⟩
  have hmem : ∀ e, e ∈ (es.foldl Graph.attempt ⟨ids, []⟩).accepted ↔
      e.Fits ids ∧ es.find? (joinsNodes e.ticket e.dependsOn) = some e :=
    fun e => Graph.mem_accepted_foldl_attempt hids
  -- from here on it does not matter how the graph came to its nodes and edges
  generalize es.foldl Graph.attempt ⟨ids, []⟩ = known at *
  obtain ⟨nodes, log⟩ := known
  obtain rfl : nodes = ids := hnodes
  obtain rfl : log = (Graph.layout ⟨nodes, []⟩).taken es := haccepted
  have hg := hbuilt.wellFormed
  refine ⟨rfl, Graph.aligned_layout hg, ⟨(Graph.layout ⟨nodes, []⟩), ?_, hafter.symm, Graph.edges_layout hg, ?_,
    Graph.edgeCount_layout hg, _, hbuilt, rfl, rfl, rfl, (Graph.edges_layout hg).symm, ?_⟩, ?_, ?_,
    fun e => addEdge_of_not, Graph.ofEdges_edges_layout hg⟩
  · rw [Graph.ofNodes_layout, hstart]
    rfl
  · rw [Graph.edges_layout hg]
    exact hg.edges_perm
  · intro e
    rw [Graph.addEdge_layout hg]
  · intro e
    rw [Graph.edges_layout hg, hg.mem_edges]
    exact hmem e
  · rw [Graph.edges_layout hg]
    exact hg.pairwise_edges

/-- Of six calls three add an edge: one gives another kind to an edge that is there, one joins a node to itself, and
one names no node. -/
theorem edges_of_calls_passed_over :
    ∃ g, Grown ["a", "b", "c"]
        [⟨"c", "b", .blocks⟩, ⟨"b", "a", .related⟩, ⟨"c", "b", .related⟩, ⟨"c", "c", .blocks⟩, ⟨"c", "d", .blocks⟩,
          ⟨"c", "a", .fileConflict⟩] g ∧
      g.Aligned ∧ g.edges = [⟨"b", "a", .related⟩, ⟨"c", "b", .blocks⟩, ⟨"c", "a", .fileConflict⟩] ∧
      ⟨"c", "b", .related⟩ ∉ g.edges ∧ g.addEdge ⟨"c", "d", .blocks⟩ = (.error (.unknownNode "d"), g) ∧
      g.addEdge ⟨"c", "b", .related⟩ = (.ok false, g) ∧ ofEdges g.nodes g.edges = .ok g := by
  have hmade : Grown ["a", "b", "c"] [⟨"c", "b", .blocks⟩] _ := .ofEdges rfl
  have hgrown := ((((hmade.call ⟨"b", "a", .related⟩).call ⟨"c", "b", .related⟩).call ⟨"c", "c", .blocks⟩).call
    ⟨"c", "d", .blocks⟩).call ⟨"c", "a", .fileConflict⟩
  obtain ⟨-, haligned, ⟨start, hstart, -, hedges, -⟩, hmem, -, hleft, hrebuilt⟩ := edges_of_calls hgrown
  cases hstart
  refine ⟨_, hgrown, haligned, hedges, ?_, ?_, ?_, hrebuilt⟩
  · rw [hmem]
    decide
  · exact Prod.ext rfl (hleft _ (by decide))
  · exact Prod.ext rfl (hleft _ (by decide))

end IndexedGraph

end Backlog
