import Backlog.Proofs.Graph.Search

/-! # The execution order

An execution order lists every node once and each after all that it depends on (`ExecutionOrder`).

* `cycles_eq_nil_iff`: no cycle is reported if and only if there is none.
* `executionOrder_postOrder`: then the walk gives an execution order.
* `order_iff_acyclic`: so an order is given if and only if there is no cycle, and otherwise cycles are. -/

namespace Backlog.Graph

variable {g : Graph} {o : List String} {x y : String}

/-- **An execution order**: every node once, each strictly after what it depends on. -/
structure ExecutionOrder (g : Graph) (o : List String) : Prop where
  perm : o.Perm g.nodes
  before : ∀ x y, g.Edge x y → o.idxOf y < o.idxOf x

theorem ExecutionOrder.mem_iff (h : g.ExecutionOrder o) : x ∈ o ↔ x ∈ g.nodes := h.perm.mem_iff

theorem ExecutionOrder.nodup (h : g.ExecutionOrder o) (hg : g.WellFormed) : o.Nodup :=
  h.perm.nodup_iff.mpr hg.nodup

theorem ExecutionOrder.acyclic (hg : g.WellFormed) (h : g.ExecutionOrder o) : g.Acyclic := by
  refine acyclic_of_measure (l := g.nodes) (f := id) o.idxOf (fun _ _ _ _ hxy => hxy) ?_
  intro x y hxy
  exact ⟨x, hg.left_mem hxy, y, hg.right_mem hxy, rfl, rfl, h.before x y hxy⟩

section WellFormed
variable (hg : g.WellFormed)
include hg

/-- **A node is finished after what it depends on**, unless the edge is the last one of a reported cycle. -/
theorem finished_before (hxy : g.Edge x y) :
    g.search.finished.idxOf y < g.search.finished.idxOf x ∨ ∃ c ∈ g.cycles, [x, y] <:+ c := by
  have hx : x ∈ g.search.finished := (finished_perm hg).mem_iff.mpr (hg.left_mem hxy)
  obtain ⟨l, r, hsplit, hxl⟩ := List.eq_append_cons_of_mem hx
  refine (finished_settled hg hsplit hxy).imp_left fun hy => ?_
  have hylt := List.idxOf_lt_length_of_mem hy
  rw [hsplit, List.idxOf_append, List.idxOf_append, if_pos hy, if_neg hxl]
  omega

theorem executionOrder_finished (h : g.cycles = []) : g.ExecutionOrder g.search.finished where
  perm := finished_perm hg
  before := by
    intro x y hxy
    refine (finished_before hg hxy).resolve_right ?_
    rintro ⟨c, hc, -⟩
    rw [h] at hc
    simp at hc

/-- **Cycles are reported if and only if there are any.** -/
theorem cycles_eq_nil_iff : g.cycles = [] ↔ g.Acyclic := by
  constructor
  · intro h
    exact (executionOrder_finished hg h).acyclic hg
  · intro h
    refine List.eq_nil_iff_forall_not_mem.mpr fun c hc => ?_
    exact (isCycle_of_mem_cycles hg hc).not_acyclic h

/-- **The walk through an acyclic graph gives an execution order.** -/
theorem executionOrder_postOrder (h : g.Acyclic) : g.ExecutionOrder g.postOrder := by
  rw [postOrder_eq_finished]
  exact executionOrder_finished hg ((cycles_eq_nil_iff hg).mpr h)

theorem order_of_acyclic (h : g.Acyclic) : g.order = .ok g.postOrder := by
  rw [order, (cycles_eq_nil_iff hg).mpr h]
  rfl

theorem order_of_not_acyclic (h : ¬ g.Acyclic) :
    g.cycles ≠ [] ∧ g.order = .error (.cyclic g.cycles) := by
  have hne : g.cycles ≠ [] := fun hnil => h ((cycles_eq_nil_iff hg).mp hnil)
  refine ⟨hne, ?_⟩
  rw [order, if_neg (by simpa using hne)]

end WellFormed

/-- **Ordering a graph.** An order is given exactly for acyclic graphs, and it is an execution order; for
any other graph nothing but its cycles is given, at least one. -/
theorem order_iff_acyclic (hg : g.Built) :
    ((∃ o, g.order = .ok o) ↔ g.Acyclic) ∧ (∀ o, g.order = .ok o → g.ExecutionOrder o) ∧
      (¬ g.Acyclic → ∃ cycles, cycles ≠ [] ∧ g.order = .error (.cyclic cycles)) := by
  have hwf := hg.wellFormed
  by_cases h : g.Acyclic
  · have hok := order_of_acyclic hwf h
    refine ⟨⟨fun _ => h, fun _ => ⟨_, hok⟩⟩, ?_, fun hn => absurd h hn⟩
    intro o ho
    rw [hok] at ho
    cases ho
    exact executionOrder_postOrder hwf h
  · obtain ⟨hne, herr⟩ := order_of_not_acyclic hwf h
    refine ⟨⟨?_, fun h' => absurd h' h⟩, ?_, fun _ => ⟨_, hne, herr⟩⟩
    · rintro ⟨o, ho⟩
      rw [herr] at ho
      cases ho
    · intro o ho
      rw [herr] at ho
      cases ho

/-- Five nodes, two of which depend on one and are depended on by another. -/
def diamond : Graph where
  nodes := ["e", "d", "c", "b", "a"]
  accepted := [⟨"d", "b", .blocks⟩, ⟨"d", "c", .related⟩, ⟨"b", "a", .blocks⟩, ⟨"c", "a", .blocks⟩,
    ⟨"e", "d", .blocks⟩]

/-- Three nodes that depend on each other in turn. -/
def triangle : Graph where
  nodes := ["a", "b", "c"]
  accepted := [⟨"a", "b", .blocks⟩, ⟨"b", "c", .blocks⟩, ⟨"c", "a", .blocks⟩]

theorem order_iff_acyclic_diamond_triangle :
    diamond.Built ∧ diamond.ExecutionOrder ["a", "b", "c", "d", "e"] ∧
      triangle.Built ∧ ¬ triangle.Acyclic ∧ triangle.order = .error (.cyclic [["a", "b", "c", "a"]]) := by
  have hd : diamond.Built := built_of_ofEdges diamond.nodes diamond.accepted rfl
  have ht : triangle.Built := built_of_ofEdges triangle.nodes triangle.accepted rfl
  have herr : triangle.order = .error (.cyclic [["a", "b", "c", "a"]]) := rfl
  refine ⟨hd, (order_iff_acyclic hd).2.1 _ rfl, ht, fun h => ?_, herr⟩
  obtain ⟨o, ho⟩ := (order_iff_acyclic ht).1.mpr h
  rw [herr] at ho
  cases ho

end Backlog.Graph
