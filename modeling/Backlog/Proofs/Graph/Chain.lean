import Backlog.Proofs.Graph.Order

/-! # Chains of dependencies

Along an execution order the table of chains is filled so that the chain from a node is the node followed
by the longest of the chains from its dependencies (`chainFrom_eq`): these stand before the node, so their
chains are known, and later entries do not change what is known (`lookup_chains_append`).

* `longest_mem`: the longest of some chains is one of them.
* `getLast?_chainFrom`: a longest chain ends at a node that depends on nothing. -/

namespace Backlog.Graph

variable {g : Graph} {o l r : List String} {v w : String}

/-! ### The longest of some chains -/

theorem foldl_longer_mem : ∀ (cs : List (List String)) (c : List String), cs.foldl longer c ∈ c :: cs
  | [], c => by simp
  | d :: cs, c => by
    have hmem := foldl_longer_mem cs (longer c d)
    rw [List.foldl_cons]
    rcases List.mem_cons.mp hmem with h | h
    · rw [h]
      unfold longer
      split_ifs
      · simp
      · simp
    · simp [h]

theorem longest_mem {cs : List (List String)} (h : longest cs ≠ []) : longest cs ∈ cs :=
  (List.mem_cons.mp (foldl_longer_mem cs [])).resolve_left h

theorem length_le_foldl_longer : ∀ (cs : List (List String)) (c : List String),
    ∀ d ∈ c :: cs, d.length ≤ (cs.foldl longer c).length
  | [], c => by simp
  | e :: cs, c => by
    have hle := length_le_foldl_longer cs (longer c e)
    have hfirst := hle (longer c e) (by simp)
    have hlonger : c.length ≤ (longer c e).length ∧ e.length ≤ (longer c e).length := by
      unfold longer
      split_ifs <;> omega
    intro d hd
    rw [List.foldl_cons]
    rcases List.mem_cons.mp hd with rfl | hd
    · omega
    · rcases List.mem_cons.mp hd with rfl | hd
      · omega
      · exact hle d (List.mem_cons_of_mem _ hd)

theorem length_le_longest {cs : List (List String)} {c : List String} (h : c ∈ cs) :
    c.length ≤ (longest cs).length :=
  length_le_foldl_longer cs [] c (List.mem_cons_of_mem _ h)

/-! ### The table of chains -/

theorem chains_concat (g : Graph) (l : List String) (v : String) :
    g.chains (l ++ [v]) = g.addChain (g.chains l) v := by
  simp [chains]

theorem map_fst_chains (g : Graph) (l : List String) : (g.chains l).map (·.1) = l := by
  induction l using List.reverseRecOn with
  | nil => rfl
  | append_singleton l v ih => rw [chains_concat, addChain, List.map_append, ih]; rfl

theorem lookup_chains_eq_none (hv : v ∉ l) : (g.chains l).lookup v = none := by
  rw [List.lookup_eq_none_iff]
  intro p hp
  have hmem : p.1 ∈ l := by
    rw [← map_fst_chains g l]
    exact List.mem_map_of_mem hp
  have hne : v ≠ p.1 := fun h => hv (h ▸ hmem)
  simpa using hne

theorem lookup_chains_append (hv : v ∈ l) (r : List String) :
    (g.chains (l ++ r)).lookup v = (g.chains l).lookup v := by
  induction r using List.reverseRecOn with
  | nil => rw [List.append_nil]
  | append_singleton r w ih =>
    have hsome : ((g.chains (l ++ r)).lookup v).isSome := by
      rw [Option.isSome_iff_ne_none, ne_eq, List.lookup_eq_none_iff]
      intro h
      have hmem : v ∈ (g.chains (l ++ r)).map (·.1) := by
        rw [map_fst_chains]
        exact List.mem_append_left r hv
      obtain ⟨p, hp, rfl⟩ := List.mem_map.mp hmem
      simpa using h p hp
    obtain ⟨c, hc⟩ := Option.isSome_iff_exists.mp hsome
    rw [← List.append_assoc, chains_concat, addChain, List.lookup_append, ← ih, hc]
    rfl

/-- The longest chain from a node, as the table along an order has it. -/
def chainFrom (g : Graph) (o : List String) (v : String) : List String :=
  ((g.chains o).lookup v).getD []

theorem longestChain_eq (g : Graph) (o : List String) :
    g.longestChain o = (longest (g.nodes.map (g.chainFrom o))).reverse := rfl

section Along
variable (ho : g.ExecutionOrder o)
include ho

/-- **The chain from a node** goes on with the longest of the chains from its dependencies. -/
theorem chainFrom_eq (hv : v ∈ g.nodes) :
    g.chainFrom o v = v :: longest ((g.dependencies v).map (g.chainFrom o)) := by
  obtain ⟨l, r, rfl, hvl⟩ := List.eq_append_cons_of_mem (ho.mem_iff.mpr hv)
  have hdeps : ∀ w ∈ g.dependencies v, w ∈ l := by
    intro w hw
    have hlt := ho.before v w (mem_dependencies.mp hw)
    by_contra hwl
    rw [List.idxOf_append_of_notMem hvl, List.idxOf_append_of_notMem hwl, List.idxOf_cons_self] at hlt
    omega
  have hknown : ∀ w ∈ g.dependencies v,
      ((g.chains l).lookup w).getD [] = g.chainFrom (l ++ v :: r) w := by
    intro w hw
    rw [chainFrom, lookup_chains_append (hdeps w hw)]
  have hsplit : l ++ v :: r = (l ++ [v]) ++ r := by simp
  rw [← List.map_congr_left hknown, chainFrom, hsplit, lookup_chains_append (by simp),
    chains_concat, addChain, List.lookup_append, lookup_chains_eq_none hvl]
  simp

variable (hg : g.WellFormed)
include hg

/-- **A longest chain ends** at a node that depends on nothing. -/
theorem getLast?_chainFrom (v : String) (hv : v ∈ g.nodes) :
    ∃ w ∈ g.nodes, (g.chainFrom o v).getLast? = some w ∧ ∀ u, ¬ g.Edge w u := by
  -- by induction on the place of the node in the order
  induction hn : o.idxOf v using Nat.strong_induction_on generalizing v with
  | _ n ih =>
    subst hn
    rw [chainFrom_eq ho hv]
    by_cases hrest : longest ((g.dependencies v).map (g.chainFrom o)) = []
    · refine ⟨v, hv, by rw [hrest]; rfl, ?_⟩
      intro u hu
      have hle := length_le_longest
        (List.mem_map_of_mem (f := g.chainFrom o) (mem_dependencies.mpr hu))
      rw [hrest, chainFrom_eq ho (hg.right_mem hu)] at hle
      simp at hle
    · obtain ⟨u, hu, hchain⟩ := List.mem_map.mp (longest_mem hrest)
      have hvu := mem_dependencies.mp hu
      obtain ⟨w, hw, hlast, hend⟩ := ih _ (ho.before v u hvu) u (hg.right_mem hvu) rfl
      refine ⟨w, hw, ?_, hend⟩
      rw [List.getLast?_cons_of_ne_nil hrest, ← hchain, hlast]

/-- **The critical path starts** at a node that depends on nothing. -/
theorem head?_longestChain (h : g.nodes ≠ []) :
    ∃ w ∈ g.nodes, (g.longestChain o).head? = some w ∧ ∀ u, ¬ g.Edge w u := by
  obtain ⟨v, hv⟩ := List.exists_mem_of_ne_nil _ h
  have hne : longest (g.nodes.map (g.chainFrom o)) ≠ [] := by
    intro hnil
    have hle := length_le_longest (List.mem_map_of_mem (f := g.chainFrom o) hv)
    rw [hnil, chainFrom_eq ho hv] at hle
    simp at hle
  obtain ⟨u, hu, hchain⟩ := List.mem_map.mp (longest_mem hne)
  rw [longestChain_eq, List.head?_reverse, ← hchain]
  exact getLast?_chainFrom ho hg u hu

end Along

end Backlog.Graph
