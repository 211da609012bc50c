import Backlog.Proofs.Graph.Chain

/-! # The critical path is the first of the longest chains

A chain of dependencies follows edges from node to node (`Descends`). The chain that the table along an
execution order has for a node is one of them (`descends_chainFrom`) and none from that node is longer
(`length_le_chainFrom`); where it passes a node it goes on as the chain from there
(`chainFrom_of_eq_append`). Of equally long chains the first is taken, both among the nodes of the graph
and among the dependencies of a node (`exists_first_longest`).

* `criticalPath_first_longest`: so **the critical path** is a longest chain of the graph, starts at the first node
  where such a chain starts, and follows at each node the first edge that leads on to a longest chain. -/

namespace Backlog.Graph

variable {g : Graph} {o c pre post : List String} {u v x : String}

/-- **A chain of dependencies**: each of its nodes depends directly on the next. -/
structure Descends (g : Graph) (c : List String) : Prop where
  nodes : ∀ v ∈ c, v ∈ g.nodes
  chain : c.IsChain g.Edge

/-- A chain of so many nodes starts at `v`. -/
def Starts (g : Graph) (v : String) (n : ℕ) : Prop :=
  ∃ c, g.Descends c ∧ c.head? = some v ∧ c.length = n

/-- **A critical path**, in execution order. -/
structure IsCriticalPath (g : Graph) (p : List String) : Prop where
  nodes : ∀ v ∈ p, v ∈ g.nodes
  /-- Each node depends directly on the one before it. -/
  chain : p.IsChain fun x y => g.Edge y x
  /-- No chain of dependencies in the graph has more nodes. -/
  longest : ∀ c, g.Descends c → c.length ≤ p.length
  /-- Of the nodes at which a chain of as many nodes can start, its last node stands first in the graph. -/
  firstStart : ∀ v, p.getLast? = some v → ∀ u, g.Starts u p.length → g.nodes.idxOf v ≤ g.nodes.idxOf u
  /-- Walking back, the step from `x` leads to `y`: no chain from a dependency of `x` is longer than what remains, and
  of the dependencies at which a chain as long can start `y` was added first. -/
  firstStep : ∀ pre y x post, p = pre ++ y :: x :: post →
    (∀ z, g.Edge x z → ∀ c, g.Descends c → c.head? = some z → c.length ≤ (pre ++ [y]).length) ∧
      ∀ z, g.Edge x z → g.Starts z (pre ++ [y]).length →
        (g.dependencies x).idxOf y ≤ (g.dependencies x).idxOf z

theorem Descends.tail (h : g.Descends (v :: c)) : g.Descends c where
  nodes u hu := h.nodes u (List.mem_cons_of_mem v hu)
  chain := h.chain.tail

theorem Descends.cons (h : g.Descends c) (hv : v ∈ g.nodes) (hnext : ∀ u, c.head? = some u → g.Edge v u) :
    g.Descends (v :: c) where
  nodes := List.forall_mem_cons.mpr ⟨hv, h.nodes⟩
  chain := List.isChain_cons.mpr ⟨fun u hu => hnext u hu, h.chain⟩

/-! ### The first of the longest -/

/-- Longer chains are taken as they come, so that of equally long ones the first is kept. -/
theorem foldl_longer_map (f : String → List String) : ∀ (vs : List String) (c : List String),
    (vs.map f).foldl longer c = c ∨
      ∃ v ∈ vs, (vs.map f).foldl longer c = f v ∧ c.length < (f v).length ∧
        ∀ u ∈ vs, (f v).length ≤ (f u).length → vs.idxOf v ≤ vs.idxOf u
  | [], c => Or.inl rfl
  | w :: vs, c => by
    -- a node after `w` is passed over in favour of `v`, and so is `w` if its chain is shorter
    have hlater {v : String} (hw : (f w).length < (f v).length)
        (hfirst : ∀ u ∈ vs, (f v).length ≤ (f u).length → vs.idxOf v ≤ vs.idxOf u) :
        ∀ u ∈ w :: vs, (f v).length ≤ (f u).length → (w :: vs).idxOf v ≤ (w :: vs).idxOf u := by
      intro u hu hle
      have hne : w ≠ u := fun h => by subst h; omega
      have hne' : w ≠ v := fun h => by subst h; omega
      rw [List.idxOf_cons_ne _ hne, List.idxOf_cons_ne _ hne']
      exact Nat.succ_le_succ (hfirst u ((List.mem_cons.mp hu).resolve_left hne.symm) hle)
    rw [List.map_cons, List.foldl_cons]
    by_cases hw : c.length < (f w).length
    · have hlonger : longer c (f w) = f w := if_pos hw
      rw [hlonger]
      rcases foldl_longer_map f vs (f w) with h | ⟨v, hv, h, hlt, hfirst⟩
      · refine Or.inr ⟨w, List.mem_cons_self, h, hw, fun u _ _ => ?_⟩
        rw [List.idxOf_cons_self]
        exact Nat.zero_le _
      · exact Or.inr ⟨v, List.mem_cons_of_mem w hv, h, hw.trans hlt, hlater hlt hfirst⟩
    · have hlonger : longer c (f w) = c := if_neg hw
      rw [hlonger]
      rcases foldl_longer_map f vs c with h | ⟨v, hv, h, hlt, hfirst⟩
      · exact Or.inl h
      · exact Or.inr ⟨v, List.mem_cons_of_mem w hv, h, hlt, hlater (by omega) hfirst⟩

/-- **The longest of the chains of some nodes** is that of the first node whose chain is as long. -/
theorem exists_first_longest {f : String → List String} {vs : List String} (h : longest (vs.map f) ≠ []) :
    ∃ v ∈ vs, longest (vs.map f) = f v ∧
      ∀ u ∈ vs, (f v).length ≤ (f u).length → vs.idxOf v ≤ vs.idxOf u := by
  obtain ⟨v, hv, heq, -, hfirst⟩ := (foldl_longer_map f vs []).resolve_left h
  exact ⟨v, hv, heq, hfirst⟩

/-! ### The longest chain from a node -/

/-- What follows a node in its chain is the chain from one of its dependencies, the first of the longest. -/
theorem exists_next (hrest : longest ((g.dependencies v).map (g.chainFrom o)) ≠ []) :
    ∃ u, g.Edge v u ∧ longest ((g.dependencies v).map (g.chainFrom o)) = g.chainFrom o u ∧
      ∀ w ∈ g.dependencies v, (g.chainFrom o u).length ≤ (g.chainFrom o w).length →
        (g.dependencies v).idxOf u ≤ (g.dependencies v).idxOf w := by
  obtain ⟨u, hu, heq, hfirst⟩ := exists_first_longest hrest
  exact ⟨u, mem_dependencies.mp hu, heq, hfirst⟩

section Along
variable (ho : g.ExecutionOrder o)
include ho

theorem head?_chainFrom (hv : v ∈ g.nodes) : (g.chainFrom o v).head? = some v := by
  rw [chainFrom_eq ho hv]
  rfl

theorem length_le_chainFrom : ∀ {c : List String} {v : String}, g.Descends (v :: c) →
    (v :: c).length ≤ (g.chainFrom o v).length
  | [], v, h => by
    rw [chainFrom_eq ho (h.nodes v List.mem_cons_self)]
    simp
  | u :: c, v, h => by
    have hvu : g.Edge v u := (List.isChain_cons_cons.mp h.chain).1
    have hrest := length_le_chainFrom h.tail
    have hlongest := length_le_longest (List.mem_map_of_mem (f := g.chainFrom o) (mem_dependencies.mpr hvu))
    rw [chainFrom_eq ho (h.nodes v List.mem_cons_self)]
    exact Nat.succ_le_succ (hrest.trans hlongest)

theorem length_le_of_head? (h : g.Descends c) (hv : c.head? = some v) :
    c.length ≤ (g.chainFrom o v).length := by
  obtain ⟨c, rfl⟩ := List.head?_eq_some_iff.mp hv
  exact length_le_chainFrom ho h

variable (hg : g.WellFormed)
include hg

theorem descends_chainFrom (v : String) (hv : v ∈ g.nodes) : g.Descends (g.chainFrom o v) := by
  -- by induction on the place of the node in the order
  induction hn : o.idxOf v using Nat.strong_induction_on generalizing v with
  | _ n ih =>
    subst hn
    rw [chainFrom_eq ho hv]
    by_cases hrest : longest ((g.dependencies v).map (g.chainFrom o)) = []
    · rw [hrest]
      exact ⟨by simpa using hv, List.IsChain.singleton v⟩
    · obtain ⟨u, hvu, heq, -⟩ := exists_next hrest
      have hu := hg.right_mem hvu
      rw [heq]
      refine (ih _ (ho.before v u hvu) u hu rfl).cons hv fun w hw => ?_
      rw [head?_chainFrom ho hu, Option.some.injEq] at hw
      exact hw ▸ hvu

/-- Where the chain from a node passes another, it goes on as the chain from there. -/
theorem chainFrom_of_eq_append : ∀ {pre : List String} {v : String}, v ∈ g.nodes →
    g.chainFrom o v = pre ++ x :: post → x ∈ g.nodes ∧ g.chainFrom o x = x :: post
  | [], v, hv, h => by
    have hhead := head?_chainFrom ho hv
    rw [h, List.nil_append, List.head?_cons, Option.some.injEq] at hhead
    subst hhead
    exact ⟨hv, h⟩
  | w :: pre, v, hv, h => by
    rw [chainFrom_eq ho hv, List.cons_append] at h
    obtain ⟨-, hrest⟩ := List.cons.inj h
    obtain ⟨u, hvu, heq, -⟩ := exists_next (by rw [hrest]; simp)
    exact chainFrom_of_eq_append (hg.right_mem hvu) (heq.symm.trans hrest)

/-- **From each node to the next** the chain follows the first edge that leads on to a longest chain. -/
theorem next_of_chainFrom {y : String} (hx : x ∈ g.nodes) (h : g.chainFrom o x = x :: y :: post) :
    (∀ z, g.Edge x z → ∀ c, g.Descends c → c.head? = some z → c.length ≤ (y :: post).length) ∧
      ∀ z, g.Edge x z → g.Starts z (y :: post).length →
        (g.dependencies x).idxOf y ≤ (g.dependencies x).idxOf z := by
  rw [chainFrom_eq ho hx] at h
  obtain ⟨-, hrest⟩ := List.cons.inj h
  refine ⟨fun z hxz c hc hz => ?_, fun z hxz hstarts => ?_⟩
  · have hlongest := length_le_longest (List.mem_map_of_mem (f := g.chainFrom o) (mem_dependencies.mpr hxz))
    rw [hrest] at hlongest
    exact (length_le_of_head? ho hc hz).trans hlongest
  · obtain ⟨u, hxu, heq, hfirst⟩ := exists_next (by rw [hrest]; simp)
    have hchain : g.chainFrom o u = y :: post := heq.symm.trans hrest
    have hhead := head?_chainFrom ho (hg.right_mem hxu)
    rw [hchain, List.head?_cons, Option.some.injEq] at hhead
    subst hhead
    obtain ⟨c, hc, hz, hlen⟩ := hstarts
    refine hfirst z (mem_dependencies.mpr hxz) ?_
    rw [hchain, ← hlen]
    exact length_le_of_head? ho hc hz

/-! ### The longest chain of all -/

theorem isCriticalPath_longestChain : g.IsCriticalPath (g.longestChain o) := by
  have hle : ∀ c, g.Descends c → c.length ≤ (longest (g.nodes.map (g.chainFrom o))).length := by
    rintro (_ | ⟨v, c⟩) hc
    · exact Nat.zero_le _
    · have hv := hc.nodes v List.mem_cons_self
      exact (length_le_chainFrom ho hc).trans (length_le_longest (List.mem_map_of_mem hv))
  rw [longestChain_eq]
  by_cases hnil : longest (g.nodes.map (g.chainFrom o)) = []
  · rw [hnil] at hle ⊢
    exact ⟨by simp, List.IsChain.nil, hle, by simp, by simp⟩
  · obtain ⟨v, hv, heq, hfirst⟩ := exists_first_longest hnil
    have hdesc := descends_chainFrom ho hg v hv
    rw [heq] at hle ⊢
    refine ⟨by simpa using hdesc.nodes, List.isChain_reverse.mpr hdesc.chain, by simpa using hle, ?_, ?_⟩
    · rintro w hw u ⟨c, hc, hu, hlen⟩
      rw [List.getLast?_reverse, head?_chainFrom ho hv, Option.some.injEq] at hw
      subst hw
      have hmem : u ∈ g.nodes := hc.nodes u (List.mem_of_mem_head? hu)
      rw [List.length_reverse] at hlen
      exact hfirst u hmem (hlen ▸ length_le_of_head? ho hc hu)
    · intro pre y x post hsplit
      have hchain : g.chainFrom o v = post.reverse ++ x :: y :: pre.reverse := by
        rw [← List.reverse_reverse (g.chainFrom o v), hsplit]
        simp
      obtain ⟨hx, hpass⟩ := chainFrom_of_eq_append ho hg hv hchain
      have hlength : (pre ++ [y]).length = (y :: pre.reverse).length := by simp
      rw [hlength]
      exact next_of_chainFrom ho hg hx hpass

end Along

/-- **The critical path.** A graph without cycles has one, as it should be: each of its nodes depends directly on the
one before it, no chain of dependencies in the graph is longer, it ends at the first node at which a chain as long can
start, and walking back from there it follows the first edge that leads on to a longest chain. Any other graph has no
critical path, but cycles. -/
theorem criticalPath_first_longest (hg : g.Built) :
    (g.Acyclic → ∃ p, g.criticalPath = .ok p ∧ g.IsCriticalPath p) ∧
      (¬ g.Acyclic → ∃ cycles, cycles ≠ [] ∧ g.criticalPath = .error (.cyclic cycles)) := by
  have hwf := hg.wellFormed
  refine ⟨fun hac => ?_, fun hcyclic => ?_⟩
  · have ho := executionOrder_postOrder hwf hac
    exact ⟨g.longestChain g.postOrder, by rw [criticalPath, order_of_acyclic hwf hac]; rfl,
      isCriticalPath_longestChain ho hwf⟩
  · obtain ⟨hne, herr⟩ := order_of_not_acyclic hwf hcyclic
    exact ⟨g.cycles, hne, by rw [criticalPath, herr]; rfl⟩

/-- Two nodes start longest chains, and the first of them two. -/
def forks : Graph where
  nodes := ["z", "p", "q", "a", "b", "c", "d"]
  accepted := [⟨"p", "z", .blocks⟩, ⟨"q", "c", .blocks⟩, ⟨"p", "b", .related⟩, ⟨"p", "a", .blocks⟩,
    ⟨"b", "d", .blocks⟩, ⟨"a", "d", .blocks⟩, ⟨"c", "d", .blocks⟩]

theorem criticalPath_first_longest_forks :
    forks.Built ∧ forks.Acyclic ∧ forks.criticalPath = .ok ["d", "b", "p"] ∧
      forks.IsCriticalPath ["d", "b", "p"] ∧ ¬ triangle.Acyclic ∧
      ∃ cycles, triangle.criticalPath = .error (.cyclic cycles) := by
  have hf : forks.Built := built_of_ofEdges forks.nodes forks.accepted rfl
  have ht : triangle.Built := built_of_ofEdges triangle.nodes triangle.accepted rfl
  have hpath : forks.criticalPath = .ok ["d", "b", "p"] := rfl
  have hacyclic : forks.Acyclic := (cycles_eq_nil_iff hf.wellFormed).mp rfl
  have hcyclic : ¬ triangle.Acyclic := fun h => by
    have hnil := (cycles_eq_nil_iff ht.wellFormed).mpr h
    exact absurd hnil (by decide)
  obtain ⟨p, hp, hcritical⟩ := (criticalPath_first_longest hf).1 hacyclic
  obtain ⟨cycles, -, herr⟩ := (criticalPath_first_longest ht).2 hcyclic
  rw [hpath] at hp
  cases hp
  exact ⟨hf, hacyclic, hpath, hcritical, hcyclic, cycles, herr⟩

end Backlog.Graph
