import Backlog.Graph.Indexed
import Backlog.Proofs.Graph.Rebuilt

/-! # Laying a graph out by position

A graph is laid out by putting the position of a node in its place (`layout`). Everything that is done to a
well-formed graph can be done to its layout instead, with the same answer: adding a node (`addNode_layout`), adding
an edge (`addEdge_layout`), building from nodes and edges (`ofEdges_layout`), and listing the edges
(`edges_layout`), from which the same layout is built again (`ofEdges_edges_layout`). In a layout the table of
positions and the list of nodes are inverse to each other, and the rows go with the nodes (`aligned_layout`). -/

namespace Backlog

namespace Graph

variable {g : Graph} {e : Dependency} {ids : List String} {es : List Dependency} {x y : String} {i : ℕ}

/-! ### Layouts -/

/-- Where an edge leads, and how. -/
def target (g : Graph) (e : Dependency) : ℕ × DependencyKind := (g.nodes.idxOf e.dependsOn, e.kind)

/-- **A graph laid out by position.** -/
def layout (g : Graph) : IndexedGraph :=
  ⟨g.nodes, g.nodes.zipIdx, g.nodes.map fun n => (g.edgesFrom n).map g.target⟩

theorem lookup_zipIdx (x : String) : ∀ (ns : List String) (k : ℕ),
    (ns.zipIdx k).lookup x = (ns.idxOf? x).map (· + k)
  | [], k => rfl
  | n :: ns, k => by
    rw [List.zipIdx_cons, List.lookup_cons, lookup_zipIdx x ns, List.idxOf?_cons]
    by_cases h : n = x
    · rw [if_pos (beq_iff_eq.mpr h), beq_iff_eq.mpr h.symm]
      exact congrArg some (Nat.zero_add k).symm
    · rw [if_neg (mt beq_iff_eq.mp h), beq_eq_false_iff_ne.mpr (Ne.symm h), Option.map_map]
      refine congrArg (Option.map · _) (funext fun i => ?_)
      simp only [Function.comp_apply]
      omega

theorem indexOf?_layout (g : Graph) (x : String) : g.layout.indexOf? x = g.indexOf? x := by
  rw [IndexedGraph.indexOf?, layout, lookup_zipIdx]
  simp only [Nat.add_zero, Option.map_id', indexOf?]

theorem indexOf?_of_mem (h : x ∈ g.nodes) : g.indexOf? x = some (g.nodes.idxOf x) := by
  obtain ⟨i, hi⟩ := Option.isSome_iff_exists.mp (List.isSome_idxOf?.mpr h)
  rw [indexOf?, List.idxOf_eq_getD_idxOf?, hi]
  rfl

theorem indexOf?_of_notMem (h : x ∉ g.nodes) : g.indexOf? x = none := List.idxOf?_eq_none_iff.mpr h

theorem indexOf?_eq_some (hnodup : g.nodes.Nodup) : g.indexOf? x = some i ↔ g.nodes[i]? = some x := by
  constructor
  · intro h
    have hx : x ∈ g.nodes := not_not.mp fun hnot => by rw [indexOf?_of_notMem hnot] at h; cases h
    rw [indexOf?_of_mem hx] at h
    cases h
    exact List.getElem?_idxOf hx
  · intro h
    obtain ⟨hi, hget⟩ := List.getElem?_eq_some_iff.mp h
    rw [indexOf?_of_mem (List.mem_of_getElem? h), ← hget, hnodup.idxOf_getElem]

/-! ### Nodes -/

theorem addNode_layout (ns : List String) (x : String) :
    (layout ⟨ns, []⟩).addNode x = (addNode ⟨ns, []⟩ x).map layout := by
  rw [IndexedGraph.addNode, indexOf?_layout, addNode]
  by_cases hx : x ∈ ns
  · have hsome : indexOf? ⟨ns, []⟩ x = some _ := indexOf?_of_mem hx
    rw [hsome, if_pos (List.contains_iff_mem.mpr hx)]
    rfl
  · have hnone : indexOf? ⟨ns, []⟩ x = none := indexOf?_of_notMem hx
    rw [hnone, if_neg (mt List.contains_iff_mem.mp hx)]
    simp [Except.map, layout, edgesFrom, List.zipIdx_append]

theorem foldlM_addNode_layout : ∀ (ids ns : List String),
    ids.foldlM IndexedGraph.addNode (layout ⟨ns, []⟩) = (ids.foldlM addNode ⟨ns, []⟩).map layout
  | [], _ => rfl
  | x :: ids, ns => by
    rw [List.foldlM_cons, List.foldlM_cons, addNode_layout]
    by_cases hx : x ∈ ns
    · rw [addNode, if_pos (List.contains_iff_mem.mpr hx)]
      rfl
    · rw [addNode, if_neg (mt List.contains_iff_mem.mp hx)]
      exact foldlM_addNode_layout ids (ns ++ [x])

theorem ofNodes_layout (ids : List String) : IndexedGraph.ofNodes ids = (ofNodes ids).map layout :=
  foldlM_addNode_layout ids []

/-! ### Edges -/

theorem require_layout_of_mem (h : x ∈ g.nodes) : g.layout.require x = .ok (g.nodes.idxOf x) := by
  rw [IndexedGraph.require, indexOf?_layout, indexOf?_of_mem h]

theorem require_layout_of_notMem (h : x ∉ g.nodes) : g.layout.require x = .error (.unknownNode x) := by
  rw [IndexedGraph.require, indexOf?_layout, indexOf?_of_notMem h]

theorem getD_rows (h : x ∈ g.nodes) : g.layout.rows.getD (g.nodes.idxOf x) [] = (g.edgesFrom x).map g.target := by
  rw [List.getD_eq_getElem?_getD, layout, List.getElem?_map, List.getElem?_idxOf h]
  rfl

theorem edgesFrom_concat (g : Graph) (e : Dependency) (x : String) :
    edgesFrom ⟨g.nodes, g.accepted ++ [e]⟩ x = g.edgesFrom x ++ if e.ticket = x then [e] else [] := by
  rw [edgesFrom, edgesFrom, List.filter_append]
  by_cases h : e.ticket = x <;> simp [h]

/-- What a call to add an edge leaves of a graph, also if it fails. -/
def attempt (g : Graph) (e : Dependency) : Graph :=
  match g.addEdge e with
  | .ok r => r.1
  | .error _ => g

theorem Built.attempt (hg : g.Built) (e : Dependency) : (g.attempt e).Built := by
  unfold Graph.attempt
  cases hadd : g.addEdge e with
  | error fault => exact hg
  | ok r => exact hg.edge hadd

section WellFormed
variable (hg : g.WellFormed)
include hg

theorem any_target_eq (x y : String) :
    ((g.edgesFrom x).map g.target).any (·.1 == g.nodes.idxOf y) = g.dependsOn x y := by
  rw [List.any_map, Bool.eq_iff_iff, List.any_eq_true]
  show _ ↔ g.Edge x y
  rw [← mem_dependencies, dependencies, List.mem_map]
  refine exists_congr fun f => and_congr_right fun hf => ?_
  have hmem := (hg.ends f (List.mem_of_mem_filter hf)).2
  simp only [Function.comp_apply, target, beq_iff_eq]
  exact List.idxOf_inj hmem

/-- An edge that is accepted goes to the end of its row. -/
theorem modify_rows (hx : e.ticket ∈ g.nodes) :
    g.layout.rows.modify (g.nodes.idxOf e.ticket) (· ++ [g.target e]) =
      (layout ⟨g.nodes, g.accepted ++ [e]⟩).rows := by
  refine List.ext_getElem? fun k => ?_
  rw [List.getElem?_modify]
  simp only [layout, List.getElem?_map]
  cases hk : g.nodes[k]? with
  | none => rfl
  | some n =>
    have hn := (indexOf?_eq_some hg.nodup).mpr hk
    rw [indexOf?_of_mem (List.mem_of_getElem? hk), Option.some.injEq] at hn
    have hplace : g.nodes.idxOf e.ticket = k ↔ e.ticket = n := by rw [← hn, List.idxOf_inj hx]
    rw [Option.map_some, Option.map_some, edgesFrom_concat, List.map_append]
    simp only [hplace, Option.map_eq_map, Option.map_some]
    split_ifs
    · rfl
    · exact congrArg some (List.append_nil _).symm

theorem join_layout (hx : e.ticket ∈ g.nodes) :
    g.layout.join (g.nodes.idxOf e.ticket) (g.nodes.idxOf e.dependsOn) e.kind =
      ((g.insert e).2, (g.insert e).1.layout) := by
  have hsame : (g.nodes.idxOf e.ticket == g.nodes.idxOf e.dependsOn) = (e.ticket == e.dependsOn) := by
    rw [Bool.eq_iff_iff, beq_iff_eq, beq_iff_eq, List.idxOf_inj hx]
  rw [IndexedGraph.join, getD_rows hx, any_target_eq hg, hsame, insert]
  split_ifs
  · rfl
  · exact congrArg (fun rows => (true, (⟨g.nodes, g.nodes.zipIdx, rows⟩ : IndexedGraph))) (modify_rows hg hx)

/-- **A call makes the same of a layout** and is answered in the same way. -/
theorem addEdge_layout (e : Dependency) :
    g.layout.addEdge e = ((g.addEdge e).map (·.2), (g.attempt e).layout) := by
  unfold attempt
  by_cases hx : e.ticket ∈ g.nodes
  · by_cases hy : e.dependsOn ∈ g.nodes
    · have hadd : g.addEdge e = .ok (g.insert e) := addEdge_eq_ok.mpr ⟨hx, hy, rfl⟩
      rw [IndexedGraph.addEdge, require_layout_of_mem hx, require_layout_of_mem hy, hadd]
      dsimp only
      rw [join_layout hg hx]
      rfl
    · have hadd : g.addEdge e = .error (.unknownNode e.dependsOn) := by simp [addEdge, hx, hy]
      rw [IndexedGraph.addEdge, require_layout_of_mem hx, require_layout_of_notMem hy, hadd]
      rfl
  · have hadd : g.addEdge e = .error (.unknownNode e.ticket) := by simp [addEdge, hx]
    rw [IndexedGraph.addEdge, require_layout_of_notMem hx, hadd]
    rfl

end WellFormed

theorem foldlM_addEdge_layout : ∀ {es : List Dependency} {g : Graph}, g.Built →
    es.foldlM (fun (g : IndexedGraph) e => (g.addEdge e).1.map fun _ => (g.addEdge e).2) g.layout =
      (es.foldlM (fun (g : Graph) e => (g.addEdge e).map (·.1)) g).map layout
  | [], _, _ => rfl
  | e :: es, g, hg => by
    rw [List.foldlM_cons, List.foldlM_cons, addEdge_layout hg.wellFormed]
    cases hadd : g.addEdge e with
    | error fault => rfl
    | ok r =>
      have hattempt : g.attempt e = r.1 := by rw [attempt, hadd]
      rw [hattempt]
      exact foldlM_addEdge_layout (hg.edge hadd)

/-- **Nodes and edges make the same graph.** -/
theorem ofEdges_layout (ids : List String) (es : List Dependency) :
    IndexedGraph.ofEdges ids es = (ofEdges ids es).map layout := by
  rw [IndexedGraph.ofEdges, ofNodes_layout, ofEdges]
  cases hnodes : ofNodes ids with
  | error fault => rfl
  | ok g => exact foldlM_addEdge_layout (.nodes hnodes)

/-! ### Listing the edges -/

/-- Listing the edges leaves those of each node in their order. -/
theorem edgesFrom_edges (hnodup : g.nodes.Nodup) (hx : x ∈ g.nodes) :
    edgesFrom ⟨g.nodes, g.edges⟩ x = g.edgesFrom x := by
  have hsame : (g.edgesFrom x).filter (·.ticket == x) = g.edgesFrom x := by
    rw [edgesFrom, List.filter_filter]
    simp only [Bool.and_self]
  have hother : ∀ ns : List String, x ∉ ns →
      (ns.flatMap fun n => (g.edgesFrom n).filter (·.ticket == x)) = [] := by
    refine fun ns hns => List.flatMap_eq_nil_iff.mpr fun n hn => List.filter_eq_nil_iff.mpr fun e he hticket => ?_
    have hat : e.ticket = n := beq_iff_eq.mp (List.mem_filter.mp he).2
    rw [← hat, beq_iff_eq.mp hticket] at hn
    exact hns hn
  obtain ⟨pre, post, hsplit⟩ := List.append_of_mem hx
  rw [hsplit] at hnodup
  have hrest : x ∉ pre ++ post := (List.nodup_cons.mp (List.nodup_middle.mp hnodup)).1
  obtain ⟨hpre, hpost⟩ := not_or.mp (mt List.mem_append.mpr hrest)
  rw [edgesFrom, edges, List.filter_flatMap, hsplit, List.flatMap_append, List.flatMap_cons, hother pre hpre,
    hother post hpost, hsame, List.nil_append, List.append_nil]

section WellFormed
variable (hg : g.WellFormed)
include hg

theorem map_target_readBack (hi : g.nodes[i]? = some x) :
    ((g.edgesFrom x).map g.target).map (fun (j, kind) => ⟨g.nodes.getD i "", g.nodes.getD j "", kind⟩) =
      g.edgesFrom x := by
  rw [List.map_map]
  refine (List.map_congr_left fun e he => ?_).trans (List.map_id _)
  obtain ⟨hmem, hticket⟩ := List.mem_filter.mp he
  have hleft : g.nodes.getD i "" = e.ticket := by
    rw [List.getD_eq_getElem?_getD, hi, beq_iff_eq.mp hticket]
    rfl
  have hright : g.nodes.getD (g.nodes.idxOf e.dependsOn) "" = e.dependsOn := by
    rw [List.getD_eq_getElem?_getD, List.getElem?_idxOf (hg.ends e hmem).2]
    rfl
  simp only [Function.comp_apply, target, hleft, hright, id_eq]

theorem edges_layout : g.layout.edges = g.edges := by
  have hrows : ∀ p ∈ g.nodes.zipIdx,
      ((g.edgesFrom p.1).map g.target).map
          (fun (j, kind) => ⟨g.nodes.getD p.2 "", g.nodes.getD j "", kind⟩) = g.edgesFrom p.1 :=
    fun p hp => map_target_readBack hg (List.mem_zipIdx_iff_getElem?.mp hp)
  calc g.layout.edges
      = g.nodes.zipIdx.flatMap (fun p => ((g.edgesFrom p.1).map g.target).map
          (fun (j, kind) => ⟨g.nodes.getD p.2 "", g.nodes.getD j "", kind⟩)) := by
        rw [IndexedGraph.edges, layout, List.zipIdx_map, List.flatMap_map]
        rfl
    _ = g.nodes.zipIdx.flatMap (fun p => g.edgesFrom p.1) := List.flatMap_congr hrows
    _ = (g.nodes.zipIdx.map Prod.fst).flatMap g.edgesFrom := (List.flatMap_map ..).symm
    _ = g.edges := by rw [List.zipIdx_map_fst, edges]

theorem edgeCount_layout : g.layout.edgeCount = g.edgeCount := by
  calc g.layout.edgeCount
      = (g.nodes.map fun n => (g.edgesFrom n).length).sum := by
        rw [IndexedGraph.edgeCount, layout, List.foldl_map, List.sum_eq_foldl, List.foldl_map]
        simp only [List.length_map]
    _ = g.edges.length := by rw [edges, List.length_flatMap]
    _ = g.edgeCount := hg.edges_perm.length_eq

/-- The order in which the edges are listed makes the same layout. -/
theorem layout_edges : layout ⟨g.nodes, g.edges⟩ = g.layout := by
  have hrows : ∀ n ∈ g.nodes,
      (edgesFrom ⟨g.nodes, g.edges⟩ n).map (target ⟨g.nodes, g.edges⟩) = (g.edgesFrom n).map g.target :=
    fun n hn => congrArg (List.map g.target) (edgesFrom_edges hg.nodup hn)
  exact congrArg (IndexedGraph.mk g.nodes g.nodes.zipIdx) (List.map_congr_left hrows)

/-- **A layout is built again** from its nodes and its edges as they are listed. -/
theorem ofEdges_edges_layout : IndexedGraph.ofEdges g.layout.nodes g.layout.edges = .ok g.layout := by
  have hrebuilt : ofEdges g.nodes g.edges = .ok ⟨g.nodes, g.edges⟩ := ofEdges_of_perm hg (.refl _) (.refl _)
  rw [edges_layout hg, ofEdges_layout]
  exact map_eq_ok.mpr ⟨_, hrebuilt, layout_edges hg⟩

end WellFormed

end Graph

/-! ### Nodes, positions and rows -/

namespace IndexedGraph

/-- **Nodes, positions and rows go together.** -/
structure Aligned (g : IndexedGraph) : Prop where
  /-- The position of an id is where it stands among the nodes. -/
  inverse : ∀ id i, g.indexOf? id = some i ↔ g.nodes[i]? = some id
  /-- There is a row for each node. -/
  rows : g.rows.length = g.nodes.length
  inside : ∀ row ∈ g.rows, ∀ t ∈ row, t.1 < g.nodes.length
  /-- No node leads to itself. -/
  loopless : ∀ (i : ℕ) (row : List (ℕ × DependencyKind)), g.rows[i]? = some row → ∀ t ∈ row, t.1 ≠ i
  /-- No node leads to another twice. -/
  single : ∀ row ∈ g.rows, (row.map (·.1)).Nodup

end IndexedGraph

theorem Graph.aligned_layout {g : Graph} (hg : g.WellFormed) : g.layout.Aligned where
  inverse id i := by rw [indexOf?_layout]; exact indexOf?_eq_some hg.nodup
  rows := List.length_map ..
  inside row hrow t ht := by
    obtain ⟨n, -, rfl⟩ := List.mem_map.mp hrow
    obtain ⟨e, he, rfl⟩ := List.mem_map.mp ht
    exact List.idxOf_lt_length_iff.mpr (hg.ends e (List.mem_of_mem_filter he)).2
  loopless i row hrow t ht := by
    rw [layout, List.getElem?_map, Option.map_eq_some_iff] at hrow
    obtain ⟨n, hn, rfl⟩ := hrow
    obtain ⟨e, he, rfl⟩ := List.mem_map.mp ht
    obtain ⟨hmem, hticket⟩ := List.mem_filter.mp he
    rintro rfl
    have hback : g.nodes[g.nodes.idxOf e.dependsOn]? = some e.dependsOn := List.getElem?_idxOf (hg.ends e hmem).2
    rw [target] at hn
    rw [hn, Option.some.injEq] at hback
    exact hg.loopless e hmem ((beq_iff_eq.mp hticket).trans hback)
  single row hrow := by
    obtain ⟨n, -, rfl⟩ := List.mem_map.mp hrow
    rw [List.map_map, List.Nodup, List.pairwise_map]
    refine (hg.single.filter _).imp_of_mem fun {e f} he hf hne hsame => hne ⟨?_, ?_⟩
    · rw [beq_iff_eq.mp (List.mem_filter.mp he).2, beq_iff_eq.mp (List.mem_filter.mp hf).2]
    · exact (List.idxOf_inj (hg.ends e (List.mem_of_mem_filter he)).2).mp hsame

end Backlog
