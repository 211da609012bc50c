import Backlog.Graph.Basic
import Backlog.Proofs.Except
import Mathlib.Logic.Relation

/-! # Graphs that can be built

A graph is built from a list of nodes by adding edges (`Built`). Such a graph is well-formed
(`Built.wellFormed`): its nodes are distinct, its edges join two different nodes, and no two of them join
the same nodes in the same direction.

* `ofNodes_eq_ok`, `ofNodes_eq_error`: nodes are taken if and only if they are distinct.
* `addEdge_eq_ok`: an edge is taken or passed over if and only if both its ends are nodes.
* `Edge`, `Acyclic`: the relation of a graph, and what it means to have no cycle. -/

namespace Backlog.Graph

variable {g g' : Graph} {x y : String}

/-! ### The relation of a graph -/

/-- `x` depends directly on `y`. -/
def Edge (g : Graph) (x y : String) : Prop := g.dependsOn x y = true

/-- **No node depends on itself**, directly or not. -/
def Acyclic (g : Graph) : Prop := ∀ x, ¬ Relation.TransGen g.Edge x x

instance (g : Graph) (x y : String) : Decidable (g.Edge x y) := by
  unfold Edge; infer_instance

theorem edge_iff : g.Edge x y ↔ ∃ e ∈ g.accepted, e.ticket = x ∧ e.dependsOn = y := by
  simp [Edge, dependsOn]

theorem mem_dependencies : y ∈ g.dependencies x ↔ g.Edge x y := by
  simp only [edge_iff, dependencies, edgesFrom, List.mem_map, List.mem_filter, beq_iff_eq]
  constructor
  · rintro ⟨e, ⟨he, hx⟩, hy⟩; exact ⟨e, he, hx, hy⟩
  · rintro ⟨e, he, hx, hy⟩; exact ⟨e, ⟨he, hx⟩, hy⟩

/-- Things named by nodes, which edges take down in some measure. -/
theorem acyclic_of_measure {α : Type} {l : List α} {f : α → String} (measure : α → ℕ)
    (hf : ∀ a ∈ l, ∀ b ∈ l, f a = f b → a = b)
    (h : ∀ x y, g.Edge x y → ∃ a ∈ l, ∃ b ∈ l, f a = x ∧ f b = y ∧ measure b < measure a) :
    g.Acyclic := by
  have hlt : ∀ x y, Relation.TransGen g.Edge x y →
      ∃ a ∈ l, ∃ b ∈ l, f a = x ∧ f b = y ∧ measure b < measure a := by
    intro x y hxy
    induction hxy with
    | single hxy => exact h _ _ hxy
    | tail _ hyz ih =>
      obtain ⟨a, ha, b, hb, rfl, hby, hba⟩ := ih
      obtain ⟨b', hb', c, hc, hby', rfl, hcb⟩ := h _ _ hyz
      rw [hf b' hb' b hb (hby'.trans hby.symm)] at hcb
      exact ⟨a, ha, c, hc, rfl, rfl, Nat.lt_trans hcb hba⟩
  intro x hx
  obtain ⟨a, ha, b, hb, rfl, hba, hlt'⟩ := hlt x x hx
  rw [hf b hb a ha hba] at hlt'
  exact Nat.lt_irrefl _ hlt'

/-! ### Well-formed graphs -/

/-- Two edges join the same nodes in the same direction. -/
def SameEnds (e f : Dependency) : Prop := e.ticket = f.ticket ∧ e.dependsOn = f.dependsOn

theorem SameEnds.symm {e f : Dependency} (h : SameEnds e f) : SameEnds f e := ⟨h.1.symm, h.2.symm⟩

theorem ne_of_not_sameEnds {e f : Dependency} (h : ¬ SameEnds e f) : e ≠ f := by
  rintro rfl
  exact h ⟨rfl, rfl⟩

/-- **A well-formed graph.** -/
structure WellFormed (g : Graph) : Prop where
  nodup : g.nodes.Nodup
  ends : ∀ e ∈ g.accepted, e.ticket ∈ g.nodes ∧ e.dependsOn ∈ g.nodes
  loopless : ∀ e ∈ g.accepted, e.ticket ≠ e.dependsOn
  single : g.accepted.Pairwise fun e f => ¬ SameEnds e f

theorem WellFormed.left_mem (hg : g.WellFormed) (h : g.Edge x y) : x ∈ g.nodes := by
  obtain ⟨e, he, rfl, -⟩ := edge_iff.mp h
  exact (hg.ends e he).1

theorem WellFormed.right_mem (hg : g.WellFormed) (h : g.Edge x y) : y ∈ g.nodes := by
  obtain ⟨e, he, -, rfl⟩ := edge_iff.mp h
  exact (hg.ends e he).2

theorem WellFormed.ne (hg : g.WellFormed) (h : g.Edge x y) : x ≠ y := by
  obtain ⟨e, he, rfl, rfl⟩ := edge_iff.mp h
  exact hg.loopless e he

theorem WellFormed.mem_edges (hg : g.WellFormed) {e : Dependency} :
    e ∈ g.edges ↔ e ∈ g.accepted := by
  simp only [edges, edgesFrom, List.mem_flatMap, List.mem_filter, beq_iff_eq]
  constructor
  · rintro ⟨_, -, he, -⟩; exact he
  · intro he; exact ⟨e.ticket, (hg.ends e he).1, he, rfl⟩

/-- Grouped by their nodes, no two edges join the same nodes in the same direction. -/
theorem WellFormed.pairwise_edges (hg : g.WellFormed) : g.edges.Pairwise fun e f => ¬ SameEnds e f := by
  refine List.pairwise_flatMap.mpr ⟨fun n _ => hg.single.filter _, hg.nodup.imp fun hne e he f hf h => ?_⟩
  simp only [edgesFrom, List.mem_filter, beq_iff_eq] at he hf
  exact hne (he.2.symm.trans (h.1.trans hf.2))

/-! ### Nodes -/

theorem addNode_eq_ok {id : String} :
    g.addNode id = .ok g' ↔ id ∉ g.nodes ∧ g' = { g with nodes := g.nodes ++ [id] } := by
  unfold addNode
  by_cases h : id ∈ g.nodes
  · simp [h]
  · simp [h, eq_comm]

theorem foldlM_addNode_eq_ok : ∀ {ids : List String} {g : Graph},
    ids.foldlM addNode g = .ok g' ↔
      ids.Nodup ∧ (∀ id ∈ ids, id ∉ g.nodes) ∧ g' = { g with nodes := g.nodes ++ ids }
  | [], g => by
    simp only [List.foldlM_nil, List.nodup_nil, List.not_mem_nil, false_implies, implies_true,
      List.append_nil, true_and]
    exact ⟨fun h => by cases h; rfl, fun h => by rw [h]; rfl⟩
  | id :: ids, g => by
    rw [List.foldlM_cons, bind_eq_ok]
    simp only [addNode_eq_ok, foldlM_addNode_eq_ok, List.nodup_cons, List.forall_mem_cons]
    constructor
    · rintro ⟨_, ⟨hid, rfl⟩, hnd, hnew, rfl⟩
      have hfresh : ∀ a ∈ ids, a ∉ g.nodes ∧ a ≠ id := fun a ha => by simpa using hnew a ha
      exact ⟨⟨fun h => (hfresh id h).2 rfl, hnd⟩, ⟨hid, fun a ha => (hfresh a ha).1⟩, by simp⟩
    · rintro ⟨⟨hid, hnd⟩, ⟨hg, hnew⟩, rfl⟩
      refine ⟨_, ⟨hg, rfl⟩, hnd, fun a ha => ?_, by simp⟩
      have hne : a ≠ id := fun h => hid (h ▸ ha)
      simp [hnew a ha, hne]

theorem ofNodes_eq_ok {ids : List String} : ofNodes ids = .ok g ↔ ids.Nodup ∧ g = ⟨ids, []⟩ := by
  rw [ofNodes, foldlM_addNode_eq_ok]
  simp

/-- Nodes are refused at the first that stands there already. -/
theorem foldlM_addNode_eq_error : ∀ {ids : List String} {g : Graph} {e : GraphError},
    ids.foldlM addNode g = .error e →
      ∃ pre id post, ids = pre ++ id :: post ∧ pre.Nodup ∧ (∀ a ∈ pre, a ∉ g.nodes) ∧
        id ∈ g.nodes ++ pre ∧ e = .duplicateNode id
  | [], g, e, h => by cases h
  | id :: ids, g, e, h => by
    rw [List.foldlM_cons, bind_eq_error] at h
    rcases h with h | ⟨g', hg', h⟩
    · unfold addNode at h
      split_ifs at h with hid
      cases h
      exact ⟨[], id, ids, rfl, List.nodup_nil, by simp, by simpa using hid, rfl⟩
    · obtain ⟨hid, rfl⟩ := addNode_eq_ok.mp hg'
      obtain ⟨pre, a, post, rfl, hnd, hnew, ha, rfl⟩ := foldlM_addNode_eq_error h
      have hfresh : ∀ b ∈ pre, b ∉ g.nodes ∧ b ≠ id := fun b hb => by simpa using hnew b hb
      refine ⟨id :: pre, a, post, rfl, ?_, ?_, by simpa using ha, rfl⟩
      · exact List.nodup_cons.mpr ⟨fun h => (hfresh id h).2 rfl, hnd⟩
      · exact List.forall_mem_cons.mpr ⟨hid, fun b hb => (hfresh b hb).1⟩

/-- **Nodes are refused** if and only if one repeats another, and the first that does is named. -/
theorem ofNodes_eq_error {ids : List String} {e : GraphError} :
    ofNodes ids = .error e ↔
      ∃ pre id post, ids = pre ++ id :: post ∧ pre.Nodup ∧ id ∈ pre ∧ e = .duplicateNode id := by
  constructor
  · intro h
    obtain ⟨pre, id, post, rfl, hnd, -, hid, rfl⟩ := foldlM_addNode_eq_error h
    exact ⟨pre, id, post, rfl, hnd, by simpa using hid, rfl⟩
  · rintro ⟨pre, id, post, rfl, hnd, hid, rfl⟩
    rw [ofNodes, List.foldlM_append, bind_eq_error]
    refine Or.inr ⟨⟨pre, []⟩, ofNodes_eq_ok.mpr ⟨hnd, rfl⟩, ?_⟩
    rw [List.foldlM_cons, bind_eq_error]
    exact Or.inl (by simp [addNode, hid])

/-! ### Edges -/

/-- An edge that is taken joins two different nodes that were not joined. -/
theorem insert_eq (g : Graph) (e : Dependency) :
    g.insert e = if e.ticket = e.dependsOn ∨ g.Edge e.ticket e.dependsOn then (g, false)
      else ({ g with accepted := g.accepted ++ [e] }, true) := by
  unfold insert
  by_cases h : e.ticket = e.dependsOn ∨ g.Edge e.ticket e.dependsOn
  · rw [if_pos h, if_pos (by simpa [Edge] using h)]
  · rw [if_neg h, if_neg (by simpa [Edge] using h)]

theorem nodes_insert (g : Graph) (e : Dependency) : (g.insert e).1.nodes = g.nodes := by
  rw [insert_eq]; split_ifs <;> rfl

theorem addEdge_eq_ok {e : Dependency} {r : Graph × Bool} :
    g.addEdge e = .ok r ↔ e.ticket ∈ g.nodes ∧ e.dependsOn ∈ g.nodes ∧ r = g.insert e := by
  unfold addEdge
  by_cases h1 : e.ticket ∈ g.nodes
  · by_cases h2 : e.dependsOn ∈ g.nodes
    · simp [h1, h2, eq_comm]
    · simp [h1, h2]
  · simp [h1]

theorem WellFormed.insert (hg : g.WellFormed) {e : Dependency} (h1 : e.ticket ∈ g.nodes)
    (h2 : e.dependsOn ∈ g.nodes) : (g.insert e).1.WellFormed := by
  rw [insert_eq]
  split_ifs with h
  · exact hg
  · rw [not_or] at h
    refine ⟨hg.nodup, ?_, ?_, ?_⟩
    · intro f hf
      rcases List.mem_append.mp hf with hf | hf
      · exact hg.ends f hf
      · rw [List.mem_singleton.mp hf]; exact ⟨h1, h2⟩
    · intro f hf
      rcases List.mem_append.mp hf with hf | hf
      · exact hg.loopless f hf
      · rw [List.mem_singleton.mp hf]; exact h.1
    · refine List.pairwise_append.mpr ⟨hg.single, List.pairwise_singleton _ _, ?_⟩
      intro f hf e' he' hsame
      rw [List.mem_singleton.mp he'] at hsame
      exact h.2 (edge_iff.mpr ⟨f, hf, hsame⟩)

theorem edge_insert {e : Dependency} (he : e.ticket ≠ e.dependsOn) :
    (g.insert e).1.Edge x y ↔ g.Edge x y ∨ (e.ticket = x ∧ e.dependsOn = y) := by
  rw [insert_eq]
  split_ifs with h
  · refine ⟨Or.inl, ?_⟩
    rintro (h' | ⟨rfl, rfl⟩)
    · exact h'
    · exact h.resolve_left he
  · simp only [edge_iff, List.mem_append, List.mem_singleton]
    constructor
    · rintro ⟨f, hf | rfl, hx, hy⟩
      · left; exact ⟨f, hf, hx, hy⟩
      · right; exact ⟨hx, hy⟩
    · rintro (⟨f, hf, hx, hy⟩ | ⟨hx, hy⟩)
      · exact ⟨f, Or.inl hf, hx, hy⟩
      · exact ⟨e, Or.inr rfl, hx, hy⟩

/-! ### Edges proposed in turn -/

theorem nodes_foldl_insert (es : List Dependency) (g : Graph) :
    (es.foldl (fun g e => (g.insert e).1) g).nodes = g.nodes := by
  induction es generalizing g with
  | nil => rfl
  | cons e es ih => rw [List.foldl_cons, ih, nodes_insert]

theorem WellFormed.foldl_insert (hg : g.WellFormed) {es : List Dependency}
    (h : ∀ e ∈ es, e.ticket ∈ g.nodes ∧ e.dependsOn ∈ g.nodes) :
    (es.foldl (fun g e => (g.insert e).1) g).WellFormed := by
  induction es generalizing g with
  | nil => exact hg
  | cons e es ih =>
    obtain ⟨he, hes⟩ := List.forall_mem_cons.mp h
    refine ih (hg.insert he.1 he.2) ?_
    rw [nodes_insert]
    exact hes

theorem edge_foldl_insert {es : List Dependency} (h : ∀ e ∈ es, e.ticket ≠ e.dependsOn) :
    (es.foldl (fun g e => (g.insert e).1) g).Edge x y ↔
      g.Edge x y ∨ ∃ e ∈ es, e.ticket = x ∧ e.dependsOn = y := by
  induction es generalizing g with
  | nil => simp
  | cons e es ih =>
    obtain ⟨he, hes⟩ := List.forall_mem_cons.mp h
    rw [List.foldl_cons, ih hes, edge_insert he, or_assoc, List.exists_mem_cons_iff]

/-! ### Building -/

/-- **A graph that can be built**: from distinct nodes, adding edges one by one. -/
inductive Built : Graph → Prop where
  | nodes {ids : List String} {g : Graph} : ofNodes ids = .ok g → Built g
  | edge {g g' : Graph} {e : Dependency} {isNew : Bool} :
    Built g → g.addEdge e = .ok (g', isNew) → Built g'

theorem Built.wellFormed (h : g.Built) : g.WellFormed := by
  induction h with
  | nodes h =>
    obtain ⟨hnd, rfl⟩ := ofNodes_eq_ok.mp h
    exact ⟨hnd, by simp, by simp, List.Pairwise.nil⟩
  | @edge g g' e isNew _ he ih =>
    obtain ⟨h1, h2, hr⟩ := addEdge_eq_ok.mp he
    have hg' : g' = (g.insert e).1 := congrArg Prod.fst hr
    rw [hg']
    exact ih.insert h1 h2

theorem built_of_ofEdges (ids : List String) (edges : List Dependency)
    (h : ofEdges ids edges = .ok g) : g.Built := by
  obtain ⟨g₀, h₀, hfold⟩ := bind_eq_ok.mp h
  have hrun : ∀ (es : List Dependency) (g₁ : Graph), g₁.Built →
      es.foldlM (fun g e => (g.addEdge e).map (·.1)) g₁ = .ok g → g.Built := by
    intro es
    induction es with
    | nil => intro g₁ hg₁ h; cases h; exact hg₁
    | cons e es ih =>
      intro g₁ hg₁ h
      rw [List.foldlM_cons, bind_eq_ok] at h
      obtain ⟨g₂, h₂, h⟩ := h
      obtain ⟨r, hr, rfl⟩ := map_eq_ok.mp h₂
      exact ih r.1 (hg₁.edge hr) h
  exact hrun edges g₀ (.nodes h₀) hfold

end Backlog.Graph
