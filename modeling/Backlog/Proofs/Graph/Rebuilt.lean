import Backlog.Proofs.Graph.Star

/-! # Graphs that are built again

A graph can be built again from its nodes and edges, in whatever order these are given: every edge is accepted
(`ofEdges_of_perm`). If the nodes are given in an execution order, they are listed as they were given, because a
walk that comes to a node has listed all that it depends on.

* `ofEdges_eq_ok`: nodes and edges make a graph if and only if the nodes are distinct and the edges join them.
* `order_of_rebuilt`: **an execution order is kept** when the graph is built again from it. -/

namespace Backlog.Graph

variable {g g' : Graph} {ids : List String} {es : List Dependency} {e : Dependency} {x y : String}

/-! ### Building from nodes and edges -/

theorem foldlM_addEdge_eq_ok : es.foldlM (fun g e => (g.addEdge e).map (·.1)) g = .ok g' ↔
    (∀ e ∈ es, e.ticket ∈ g.nodes ∧ e.dependsOn ∈ g.nodes) ∧ g' = es.foldl (fun g e => (g.insert e).1) g := by
  induction es generalizing g with
  | nil => simp [pure_eq_ok]
  | cons e es ih =>
    rw [List.foldlM_cons, bind_eq_ok, List.foldl_cons, List.forall_mem_cons]
    constructor
    · rintro ⟨g₁, h₁, hrest⟩
      obtain ⟨r, hr, rfl⟩ := map_eq_ok.mp h₁
      obtain ⟨hx, hy, rfl⟩ := addEdge_eq_ok.mp hr
      obtain ⟨hes, rfl⟩ := ih.mp hrest
      rw [nodes_insert] at hes
      exact ⟨⟨⟨hx, hy⟩, hes⟩, rfl⟩
    · rintro ⟨⟨⟨hx, hy⟩, hes⟩, rfl⟩
      have hadd : (g.addEdge e).map (·.1) = .ok (g.insert e).1 :=
        map_eq_ok.mpr ⟨_, addEdge_eq_ok.mpr ⟨hx, hy, rfl⟩, rfl⟩
      refine ⟨_, hadd, ih.mpr ⟨?_, rfl⟩⟩
      rw [nodes_insert]
      exact hes

theorem ofEdges_eq_ok : ofEdges ids es = .ok g ↔
    ids.Nodup ∧ (∀ e ∈ es, e.ticket ∈ ids ∧ e.dependsOn ∈ ids) ∧
      g = es.foldl (fun g e => (g.insert e).1) ⟨ids, []⟩ := by
  unfold ofEdges
  rw [bind_eq_ok]
  constructor
  · rintro ⟨g₀, h₀, hfold⟩
    obtain ⟨hnodup, rfl⟩ := ofNodes_eq_ok.mp h₀
    exact ⟨hnodup, foldlM_addEdge_eq_ok.mp hfold⟩
  · rintro ⟨hnodup, hes⟩
    exact ⟨_, ofNodes_eq_ok.mpr ⟨hnodup, rfl⟩, foldlM_addEdge_eq_ok.mpr hes⟩

/-- Edges that join different pairs of nodes are all accepted. -/
theorem foldl_insert_of_single : ∀ {es : List Dependency} {g : Graph}, (∀ e ∈ es, e.ticket ≠ e.dependsOn) →
    (g.accepted ++ es).Pairwise (fun e f => ¬ SameEnds e f) →
      es.foldl (fun g e => (g.insert e).1) g = { g with accepted := g.accepted ++ es }
  | [], g, _, _ => by rw [List.foldl_nil, List.append_nil]
  | e :: es, g, hne, hsingle => by
    obtain ⟨he, hes⟩ := List.forall_mem_cons.mp hne
    have hnew : ¬ g.Edge e.ticket e.dependsOn := by
      intro hedge
      obtain ⟨f, hf, hends⟩ := edge_iff.mp hedge
      exact (List.pairwise_append.mp hsingle).2.2 f hf e List.mem_cons_self hends
    have hinsert : (g.insert e).1 = { g with accepted := g.accepted ++ [e] } := by
      rw [insert_eq, if_neg (not_or.mpr ⟨he, hnew⟩)]
    have hassoc : g.accepted ++ e :: es = g.accepted ++ [e] ++ es := by simp
    rw [hassoc] at hsingle ⊢
    rw [List.foldl_cons, hinsert, foldl_insert_of_single hes hsingle]

/-! ### Building again -/

section WellFormed
variable (hg : g.WellFormed)
include hg

theorem WellFormed.edges_perm : g.edges.Perm g.accepted := by
  have hedges : g.edges.Nodup := hg.pairwise_edges.imp ne_of_not_sameEnds
  have haccepted : g.accepted.Nodup := hg.single.imp ne_of_not_sameEnds
  exact (List.perm_ext_iff_of_nodup hedges haccepted).mpr fun e => hg.mem_edges

/-- **A graph is built again** from its nodes and its edges in any order. -/
theorem ofEdges_of_perm (hids : ids.Perm g.nodes) (hes : es.Perm g.edges) : ofEdges ids es = .ok ⟨ids, es⟩ := by
  have hmem : ∀ e ∈ es, e ∈ g.accepted := fun e he => hg.mem_edges.mp (hes.mem_iff.mp he)
  have hsingle : es.Pairwise fun e f => ¬ SameEnds e f :=
    hes.symm.pairwise hg.pairwise_edges fun hne hsame => hne hsame.symm
  refine ofEdges_eq_ok.mpr ⟨hids.nodup_iff.mpr hg.nodup, ?_, ?_⟩
  · intro e he
    obtain ⟨hx, hy⟩ := hg.ends e (hmem e he)
    exact ⟨hids.mem_iff.mpr hx, hids.mem_iff.mpr hy⟩
  · have hfold := foldl_insert_of_single (g := ⟨ids, []⟩) (fun e he => hg.loopless e (hmem e he)) hsingle
    exact hfold.symm

theorem edge_of_perm (hes : es.Perm g.edges) : Edge ⟨ids, es⟩ x y ↔ g.Edge x y := by
  simp only [edge_iff, hes.mem_iff, hg.mem_edges]

/-- A graph whose nodes stand in an execution order is put in this order. -/
theorem order_of_executionOrder (ho : g.ExecutionOrder g.nodes) : g.order = .ok g.nodes := by
  rw [order_of_acyclic hg (ho.acyclic hg), postOrder_of_order hg ho]

end WellFormed

/-- **An execution order is kept.** Let a graph have no cycle. It is put in an execution order; and from its nodes in
any execution order, such as the one it was put in, and its edges in any order, a graph with the same edges is built
that is put in exactly this order. A graph whose nodes stand in an execution order already is left as it
stands. -/
theorem order_of_rebuilt (hg : g.Built) (hacyclic : g.Acyclic) :
    (∃ o, g.order = .ok o ∧ g.ExecutionOrder o) ∧
      (∀ ids es, g.ExecutionOrder ids → es.Perm g.edges →
        ∃ g', ofEdges ids es = .ok g' ∧ g'.nodes = ids ∧ g'.edges.Perm g.edges ∧ g'.order = .ok ids) ∧
      (g.ExecutionOrder g.nodes → g.order = .ok g.nodes) := by
  have hwf := hg.wellFormed
  refine ⟨⟨_, order_of_acyclic hwf hacyclic, executionOrder_postOrder hwf hacyclic⟩, ?_,
    order_of_executionOrder hwf⟩
  intro ids es hids hes
  have hbuild := ofEdges_of_perm hwf hids.perm hes
  have hwf' := (built_of_ofEdges ids es hbuild).wellFormed
  have hids' : ExecutionOrder ⟨ids, es⟩ ids := by
    refine ⟨.refl _, fun x y hxy => ?_⟩
    exact hids.before x y ((edge_of_perm hwf hes).mp hxy)
  exact ⟨⟨ids, es⟩, hbuild, rfl, hwf'.edges_perm.trans hes, order_of_executionOrder hwf' hids'⟩

/-- The diamond is put in one of its two orders from a single end; from the other order, and its edges turned
round, it is put in that one. -/
theorem order_of_rebuilt_diamond :
    diamond.Built ∧ diamond.Acyclic ∧ diamond.order = .ok ["a", "b", "c", "d", "e"] ∧
      diamond.ExecutionOrder ["a", "c", "b", "d", "e"] ∧
      ∃ g', ofEdges ["a", "c", "b", "d", "e"] diamond.edges.reverse = .ok g' ∧ g'.edges.Perm diamond.edges ∧
        g'.order = .ok ["a", "c", "b", "d", "e"] := by
  have hg : diamond.Built := built_of_ofEdges diamond.nodes diamond.accepted rfl
  have horder : diamond.order = .ok ["a", "b", "c", "d", "e"] := rfl
  have hacyclic : diamond.Acyclic := (order_iff_acyclic hg).1.mp ⟨_, horder⟩
  have hother : diamond.ExecutionOrder ["a", "c", "b", "d", "e"] := by
    refine ⟨by decide, fun x y hxy => ?_⟩
    obtain ⟨e, he, rfl, rfl⟩ := edge_iff.mp hxy
    revert e
    decide
  obtain ⟨-, hrebuilt, -⟩ := order_of_rebuilt hg hacyclic
  obtain ⟨g', hbuild, -, hedges, horder'⟩ := hrebuilt _ _ hother (List.reverse_perm diamond.edges)
  exact ⟨hg, hacyclic, horder, hother, g', hbuild, hedges, horder'⟩

end Backlog.Graph
