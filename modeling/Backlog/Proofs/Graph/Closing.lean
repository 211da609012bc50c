import Backlog.Proofs.Graph.Order

/-! # What the reported cycles leave

A graph can be opened by taking out the last edge of every cycle that is reported (`opened`). The search
finishes a node after all that it depends on, but for these edges, so the open graph has no cycle
(`acyclic_opened`): every circle in the graph goes over the last edge of a reported cycle
(`exists_closing_of_circle`), which therefore lies in the same strongly connected part.

* `cycles_genuine_and_complete`: **what is reported are cycles, and enough of them**. -/

namespace Backlog.Graph

variable {g : Graph} {c : List String} {v w x y : String}

/-! ### The open graph -/

/-- Whether an edge from `x` to `y` is the last one of a reported cycle. -/
def closes (g : Graph) (x y : String) : Bool := g.cycles.any fun c => [x, y].isSuffixOf c

/-- **The graph without the edges that close a reported cycle.** -/
def opened (g : Graph) : Graph :=
  { g with accepted := g.accepted.filter fun e => !g.closes e.ticket e.dependsOn }

theorem closes_iff : g.closes x y = true ↔ ∃ c ∈ g.cycles, [x, y] <:+ c := by
  simp only [closes, List.any_eq_true, List.isSuffixOf_iff_suffix]

theorem edge_opened : g.opened.Edge x y ↔ g.Edge x y ∧ g.closes x y = false := by
  simp only [edge_iff, opened, List.mem_filter, Bool.not_eq_true']
  constructor
  · rintro ⟨e, ⟨he, hopen⟩, rfl, rfl⟩
    exact ⟨⟨e, he, rfl, rfl⟩, hopen⟩
  · rintro ⟨⟨e, he, rfl, rfl⟩, hopen⟩
    exact ⟨e, ⟨he, hopen⟩, rfl, rfl⟩

/-- **The open graph has no cycle.** -/
theorem acyclic_opened (hg : g.WellFormed) : g.opened.Acyclic := by
  refine acyclic_of_measure (l := g.nodes) (f := id) g.search.finished.idxOf (fun _ _ _ _ h => h) ?_
  intro x y hxy
  obtain ⟨hedge, hopen⟩ := edge_opened.mp hxy
  refine ⟨x, hg.left_mem hedge, y, hg.right_mem hedge, rfl, rfl, ?_⟩
  refine (finished_before hg hedge).resolve_right fun hclosing => ?_
  rw [closes_iff.mpr hclosing] at hopen
  cases hopen

/-! ### Circles -/

/-- A way through the graph keeps to the open graph or goes over an edge that closes a cycle. -/
theorem transGen_opened_or (h : Relation.TransGen g.Edge x y) :
    Relation.TransGen g.opened.Edge x y ∨ ∃ v w, g.closes v w = true ∧
      Relation.ReflTransGen g.Edge x v ∧ Relation.ReflTransGen g.Edge w y := by
  induction h with
  | @single y hxy =>
    by_cases hclosing : g.closes x y = true
    · exact Or.inr ⟨x, y, hclosing, .refl, .refl⟩
    · exact Or.inl (.single (edge_opened.mpr ⟨hxy, by simpa using hclosing⟩))
  | @tail y z hxy hyz ih =>
    rcases ih with ih | ⟨v, w, hclosing, hxv, hwy⟩
    · by_cases hclosing : g.closes y z = true
      · exact Or.inr ⟨y, z, hclosing, hxy.to_reflTransGen, .refl⟩
      · exact Or.inl (ih.tail (edge_opened.mpr ⟨hyz, by simpa using hclosing⟩))
    · exact Or.inr ⟨v, w, hclosing, hxv, hwy.tail hyz⟩

/-- **Every circle goes over the last edge of a reported cycle.** -/
theorem exists_closing_of_circle (hg : g.WellFormed) (h : Relation.TransGen g.Edge x x) :
    ∃ c ∈ g.cycles, ∃ v w, [v, w] <:+ c ∧ Relation.ReflTransGen g.Edge x v ∧
      Relation.ReflTransGen g.Edge w x := by
  obtain ⟨v, w, hclosing, hxv, hwx⟩ := (transGen_opened_or h).resolve_left (acyclic_opened hg x)
  obtain ⟨c, hc, hsuf⟩ := closes_iff.mp hclosing
  exact ⟨c, hc, v, w, hsuf, hxv, hwx⟩

theorem reflTransGen_of_isChain {r : String → String → Prop} : ∀ {l : List String} {a b : String},
    (a :: l).IsChain r → b ∈ a :: l → Relation.ReflTransGen r a b
  | [], a, b, _, hb => by rw [List.mem_singleton.mp hb]
  | d :: l, a, b, h, hb => by
    obtain ⟨had, hl⟩ := List.isChain_cons_cons.mp h
    rcases List.mem_cons.mp hb with rfl | hb
    · exact .refl
    · exact (reflTransGen_of_isChain hl hb).head had

theorem reflTransGen_getLast {r : String → String → Prop} : ∀ {l : List String} {a b z : String},
    (a :: l).IsChain r → b ∈ a :: l → (a :: l).getLast? = some z → Relation.ReflTransGen r b z
  | [], a, b, z, _, hb, hz => by
    rw [List.getLast?_singleton, Option.some.injEq] at hz
    rw [List.mem_singleton.mp hb, hz]
  | d :: l, a, b, z, h, hb, hz => by
    obtain ⟨had, hl⟩ := List.isChain_cons_cons.mp h
    rw [List.getLast?_cons_cons] at hz
    rcases List.mem_cons.mp hb with rfl | hb
    · exact (reflTransGen_getLast hl List.mem_cons_self hz).head had
    · exact reflTransGen_getLast hl hb hz

theorem IsCycle.transGen (hc : g.IsCycle c) (hx : x ∈ c) (hy : y ∈ c) : Relation.TransGen g.Edge x y := by
  obtain ⟨hchain, hclosed, -, hlong⟩ := hc
  match c, hlong with
  | a :: b :: l, _ =>
    have hlast : (a :: b :: l).getLast? = some a := hclosed.symm
    obtain ⟨hab, htail⟩ := List.isChain_cons_cons.mp hchain
    have hback : Relation.ReflTransGen g.Edge b a :=
      reflTransGen_getLast hchain (by simp) hlast
    -- from `x` to the end of the cycle, once around it, and from its start to `y`
    have hxa : Relation.ReflTransGen g.Edge x a := reflTransGen_getLast hchain hx hlast
    have haa : Relation.TransGen g.Edge a a := .head' hab hback
    have hay : Relation.ReflTransGen g.Edge a y := reflTransGen_of_isChain hchain hy
    exact (haa.trans_left hay).trans_right hxa

/-! ### The report -/

/-- **The cycles that are reported.** Each is one: it has two nodes at least, ends where it begins, passes no node
twice, and each of its nodes depends directly on the next. Without their last edges the graph has no cycle. So
there are some if and only if the graph has a cycle, and wherever in the graph a node depends on itself, one of them
lies in the same strongly connected part. -/
theorem cycles_genuine_and_complete (hg : g.Built) :
    (∀ c ∈ g.cycles, g.IsCycle c) ∧ g.opened.Acyclic ∧ (g.cycles = [] ↔ g.Acyclic) ∧
      ∀ x, Relation.TransGen g.Edge x x →
        ∃ c ∈ g.cycles, ∀ y ∈ c, Relation.TransGen g.Edge x y ∧ Relation.TransGen g.Edge y x := by
  have hwf := hg.wellFormed
  refine ⟨fun c hc => isCycle_of_mem_cycles hwf hc, acyclic_opened hwf, cycles_eq_nil_iff hwf, ?_⟩
  intro x hx
  obtain ⟨c, hc, v, w, hsuf, hxv, hwx⟩ := exists_closing_of_circle hwf hx
  have hcycle := isCycle_of_mem_cycles hwf hc
  have hv : v ∈ c := hsuf.subset (by simp)
  have hw : w ∈ c := hsuf.subset (by simp)
  exact ⟨c, hc, fun y hy =>
    ⟨(hcycle.transGen hv hy).trans_right hxv, (hcycle.transGen hy hw).trans_left hwx⟩⟩

/-- A node in front of two circles that have two nodes in common, and a circle of two nodes apart from them. -/
def roundabouts : Graph where
  nodes := ["x", "a", "b", "c", "d", "e"]
  accepted := [⟨"x", "a", .blocks⟩, ⟨"a", "b", .blocks⟩, ⟨"b", "c", .related⟩, ⟨"c", "a", .blocks⟩,
    ⟨"b", "a", .fileConflict⟩, ⟨"d", "e", .blocks⟩, ⟨"e", "d", .blocks⟩]

theorem cycles_genuine_and_complete_roundabouts :
    roundabouts.Built ∧
      roundabouts.cycles = [["a", "b", "c", "a"], ["a", "b", "a"], ["d", "e", "d"]] ∧
      roundabouts.opened.Acyclic ∧
      ∃ c ∈ roundabouts.cycles, ∀ y ∈ c,
        Relation.TransGen roundabouts.Edge "e" y ∧ Relation.TransGen roundabouts.Edge y "e" := by
  have hg : roundabouts.Built := built_of_ofEdges roundabouts.nodes roundabouts.accepted rfl
  obtain ⟨-, hopened, -, hparts⟩ := cycles_genuine_and_complete hg
  have hed : roundabouts.Edge "e" "d" := by decide
  have hde : roundabouts.Edge "d" "e" := by decide
  exact ⟨hg, rfl, hopened, hparts "e" (.tail (.single hed) hde)⟩

end Backlog.Graph
