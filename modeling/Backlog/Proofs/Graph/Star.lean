import Backlog.Proofs.Graph.Kinds

/-! # Features around a setup ticket

In the graph of a setup ticket and some features every feature depends on the setup ticket and on nothing else
(`edges_of_features`): it is a star (`Star`). Its nodes stand in an execution order already, and a
walk through such a graph lists them as they stand (`postOrder_of_order`). The chain from the setup ticket is
this ticket alone, the chain from each feature leads to it, and the first of the longest is taken
(`Star.longestChain_nodes`). -/

namespace Backlog.Graph

variable {g : Graph} {root v : String} {leaves pre : List String} {ts us : List Ticket} {t u : Ticket}
  {e : Dependency}

/-! ### Nodes that stand in an execution order -/

theorem foldl_goOn_of_visited {go : Walk → String → Walk} {s : Walk} : ∀ {ws : List String},
    (∀ w ∈ ws, w ∈ s.visited) → ws.foldl (goOn go) s = s
  | [], _ => rfl
  | w :: ws, h => by
    have hw : goOn go s w = s := if_pos (by simpa using h w List.mem_cons_self)
    rw [List.foldl_cons, hw, foldl_goOn_of_visited fun v hv => h v (List.mem_cons_of_mem w hv)]

section Ordered
variable (hg : g.WellFormed) (ho : g.ExecutionOrder g.nodes)
include hg ho

theorem dependencies_before {rest : List String} (hsplit : g.nodes = pre ++ v :: rest) :
    ∀ w ∈ g.dependencies v, w ∈ pre := by
  intro w hw
  have hlt := ho.before v w (mem_dependencies.mp hw)
  have hnodup := hg.nodup
  rw [hsplit] at hlt hnodup
  have hv : v ∉ pre := fun h => (List.nodup_append.mp hnodup).2.2 v h v List.mem_cons_self rfl
  by_contra hw
  rw [List.idxOf_append_of_notMem hv, List.idxOf_append_of_notMem hw, List.idxOf_cons_self] at hlt
  omega

/-- A walk from each of the nodes that are left lists them one by one. -/
theorem listed_foldl_walk (fuel : ℕ) : ∀ (rest pre : List String) (s : Walk), g.nodes = pre ++ rest →
    s.listed = pre → (∀ v, v ∈ s.visited ↔ v ∈ pre) →
      (rest.foldl (goOn (walk g (fuel + 1))) s).listed = g.nodes
  | [], pre, s, hsplit, hlisted, _ => by rw [List.foldl_nil, hlisted, hsplit, List.append_nil]
  | v :: rest, pre, s, hsplit, hlisted, hvisited => by
    have hnodup := hg.nodup
    rw [hsplit] at hnodup
    have hnew : v ∉ s.visited := fun h =>
      (List.nodup_append.mp hnodup).2.2 v ((hvisited v).mp h) v List.mem_cons_self rfl
    have hbefore := dependencies_before hg ho hsplit
    have hwalk : goOn (walk g (fuel + 1)) s v = ⟨v :: s.visited, s.listed ++ [v]⟩ := by
      rw [goOn, if_neg (by simpa using hnew), walk, foldl_goOn_of_visited]
      intro w hw
      exact List.mem_cons_of_mem v ((hvisited w).mpr (hbefore w hw))
    rw [List.foldl_cons, hwalk]
    refine listed_foldl_walk fuel rest (pre ++ [v]) _ (by rw [hsplit]; simp) (by rw [hlisted]) fun w => ?_
    rw [List.mem_cons, List.mem_append, List.mem_singleton, hvisited w, or_comm]

/-- **Nodes that stand in an execution order** are listed as they stand. -/
theorem postOrder_of_order : g.postOrder = g.nodes := by
  unfold postOrder
  cases hlength : g.nodes.length with
  | zero =>
    rw [List.length_eq_zero_iff] at hlength
    rw [hlength]
    rfl
  | succ fuel => exact listed_foldl_walk hg ho fuel g.nodes [] ⟨[], []⟩ rfl rfl (by simp)

end Ordered

/-! ### Stars -/

/-- **A star**: all nodes but the first depend on the first, and on nothing else. -/
structure Star (g : Graph) (root : String) (leaves : List String) : Prop where
  nodes : g.nodes = root :: leaves
  center : g.dependencies root = []
  points : ∀ l ∈ leaves, g.dependencies l = [root]

theorem Star.executionOrder (h : g.Star root leaves) (hg : g.WellFormed) : g.ExecutionOrder g.nodes where
  perm := .refl _
  before := by
    intro x y hxy
    have hx := hg.left_mem hxy
    have hy := mem_dependencies.mpr hxy
    have hne := hg.ne hxy
    rw [h.nodes] at hx ⊢
    rcases List.mem_cons.mp hx with rfl | hx
    · rw [h.center] at hy
      cases hy
    · rw [h.points x hx, List.mem_singleton] at hy
      subst hy
      rw [List.idxOf_cons_self, List.idxOf_cons_ne _ hne.symm]
      exact Nat.succ_pos _

theorem foldl_longer_of_le {c : List String} : ∀ {cs : List (List String)}, (∀ d ∈ cs, d.length ≤ c.length) →
    cs.foldl longer c = c
  | [], _ => rfl
  | d :: cs, h => by
    have hlonger : longer c d = c := if_neg (Nat.not_lt.mpr (h d List.mem_cons_self))
    rw [List.foldl_cons, hlonger, foldl_longer_of_le fun e he => h e (List.mem_cons_of_mem d he)]

/-- **The longest chain of a star** is its first node, with the next one if there is one. -/
theorem Star.longestChain_nodes (h : g.Star root leaves) (hg : g.WellFormed) :
    g.longestChain g.nodes = root :: leaves.head?.toList := by
  have ho := h.executionOrder hg
  have hroot : g.chainFrom g.nodes root = [root] := by
    rw [chainFrom_eq ho (by rw [h.nodes]; exact List.mem_cons_self), h.center]
    rfl
  have hleaf : ∀ l ∈ leaves, g.chainFrom g.nodes l = [l, root] := by
    intro l hl
    rw [chainFrom_eq ho (by rw [h.nodes]; exact List.mem_cons_of_mem root hl), h.points l hl, List.map_singleton,
      hroot]
    rfl
  have hchains : g.nodes.map (g.chainFrom g.nodes) = [root] :: leaves.map fun l => [l, root] := by
    conv_lhs => rw [h.nodes]
    rw [List.map_cons, ← h.nodes, hroot, List.map_congr_left hleaf]
  rw [longestChain_eq, hchains, longest, List.foldl_cons]
  cases leaves with
  | nil => rfl
  | cons l ls =>
    have hfirst : longer (longer [] [root]) [l, root] = [l, root] := rfl
    rw [List.map_cons, List.foldl_cons, hfirst, foldl_longer_of_le (by simp)]
    rfl

/-! ### Features -/

section Features
variable (ht : t.type = .setup) (hus : ∀ u ∈ us, u.type = .feature) (hg : ofTickets (t :: us) = .ok g)
include ht hus hg

/-- **Each feature depends on the setup ticket**, and there is no other edge. -/
theorem mem_accepted_of_features :
    e ∈ g.accepted ↔ ∃ u ∈ us, e = ⟨u.id, t.id, .blocks⟩ := by
  have hdepends : ∀ v ∈ t :: us, ∀ w ∈ t :: us, v.DependsOn w ↔ w = t := by
    intro v hv w hw
    have hidle : ¬ v.Changes ∧ ¬ v.Accompanies := by
      have htype : v.type = .setup ∨ v.type = .feature :=
        (List.mem_cons.mp hv).imp (fun h : v = t => h ▸ ht) fun h => hus v h
      rcases htype with h | h <;> simp [Ticket.Changes, Ticket.Accompanies, h]
    have hsetup : w.type = .setup ↔ w = t := by
      refine ⟨fun h => ?_, fun h => h ▸ ht⟩
      refine (List.mem_cons.mp hw).resolve_right fun hmem => ?_
      rw [hus w hmem] at h
      cases h
    simp [Ticket.DependsOn, hidle.1, hidle.2, hsetup]
  have hkind : ∀ v : Ticket, v.kindTowards t = .blocks := fun v => if_pos ht
  rw [← (wellFormed_ofTickets hg).mem_edges, mem_edges_ofTickets hg]
  constructor
  · rintro ⟨v, hv, w, hw, hne, hvw, rfl⟩
    obtain rfl := (hdepends v hv w hw).mp hvw
    exact ⟨v, (List.mem_cons.mp hv).resolve_left hne, by rw [hkind]⟩
  · rintro ⟨u, hu, rfl⟩
    have hmem : u ∈ t :: us := List.mem_cons_of_mem t hu
    refine ⟨u, hmem, t, List.mem_cons_self, ?_, (hdepends u hmem t List.mem_cons_self).mpr rfl, by rw [hkind]⟩
    rintro rfl
    have hfeature := hus u hu
    rw [ht] at hfeature
    cases hfeature

theorem edgesFrom_of_features :
    g.edgesFrom t.id = [] ∧ ∀ u ∈ us, g.edgesFrom u.id = [⟨u.id, t.id, .blocks⟩] := by
  have hmem := fun e => mem_accepted_of_features (e := e) ht hus hg
  have hwf := wellFormed_ofTickets hg
  constructor
  · refine List.filter_eq_nil_iff.mpr fun e he hid => ?_
    obtain ⟨u, -, rfl⟩ := (hmem e).mp he
    exact hwf.loopless _ he (beq_iff_eq.mp hid)
  · intro u hu
    have hnodup : (g.edgesFrom u.id).Nodup := (hwf.single.imp ne_of_not_sameEnds).filter _
    refine List.perm_singleton.mp ((List.perm_ext_iff_of_nodup hnodup (List.nodup_singleton _)).mpr ?_)
    intro e
    rw [edgesFrom, List.mem_filter, hmem, beq_iff_eq, List.mem_singleton]
    constructor
    · rintro ⟨⟨v, -, rfl⟩, hid⟩
      rw [← show v.id = u.id from hid]
    · rintro rfl
      exact ⟨⟨u, hu, rfl⟩, rfl⟩

/-- **The edges of a setup ticket and some features**, in the order of the features. -/
theorem edges_of_features : g.edges = us.map fun u => ⟨u.id, t.id, .blocks⟩ := by
  obtain ⟨hsetup, hfeature⟩ := edgesFrom_of_features ht hus hg
  rw [edges, nodes_ofTickets hg, List.map_cons, List.flatMap_cons, hsetup, List.nil_append, List.flatMap_map,
    List.flatMap_congr hfeature, ← List.map_eq_flatMap]

theorem star_of_features : g.Star t.id (us.map (·.id)) := by
  obtain ⟨hsetup, hfeature⟩ := edgesFrom_of_features ht hus hg
  refine ⟨by rw [nodes_ofTickets hg, List.map_cons], by rw [dependencies, hsetup]; rfl, fun l hl => ?_⟩
  obtain ⟨u, hu, rfl⟩ := List.mem_map.mp hl
  rw [dependencies, hfeature u hu]
  rfl

end Features

/-- **The analysis of a setup ticket and some features**: they stand in execution order, and the critical path is
the setup ticket, with the first feature if there is one. -/
theorem analysis_of_features (ht : t.type = .setup) (hus : ∀ u ∈ us, u.type = .feature) {a : Analysis}
    (ha : analyze (t :: us) = .ok a) :
    a.graph.edges = (us.map fun u => ⟨u.id, t.id, .blocks⟩) ∧ a.sorted = (t :: us).map (·.id) ∧
      a.criticalPath = t.id :: (us.head?.map (·.id)).toList := by
  obtain ⟨g, hg, rfl⟩ := analyze_eq_ok.mp ha
  have hwf := wellFormed_ofTickets hg
  have hstar := star_of_features ht hus hg
  have hsorted := postOrder_of_order hwf (hstar.executionOrder hwf)
  refine ⟨edges_of_features ht hus hg, hsorted.trans (nodes_ofTickets hg), ?_⟩
  show g.longestChain g.postOrder = _
  rw [hsorted, hstar.longestChain_nodes hwf, List.head?_map]

end Backlog.Graph
