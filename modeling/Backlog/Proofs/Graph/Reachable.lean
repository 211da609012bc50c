import Backlog.Proofs.Graph.Closing
import Backlog.Proofs.Graph.Closure

/-! # What a node depends on, on graphs with cycles

The collecting of what a node depends on comes to an end on every graph, for a node is expanded when it is
seen first and at no other time (`nodup_reach`). A way from a node back to itself can be cut short until it
passes no node twice (`exists_simple_chain`), so a node that depends on itself lies on a cycle
(`exists_isCycle_of_circle`).

* `closure_follows_edges`: **what the closure of a node is**. -/

namespace Backlog.Graph

variable {g : Graph} {x y : String} {stack seen : List String}

theorem nodup_reach (h : seen.Nodup) : (g.reach stack seen).Nodup := by
  induction stack, seen using reach.induct g with
  | case1 seen =>
    rw [reach]
    exact h
  | case2 seen u rest hu ih =>
    rw [reach, dif_pos hu]
    have hnew : (u :: seen).Nodup := List.nodup_cons.mpr ⟨hu.2, h⟩
    exact ih ((List.perm_append_singleton u seen).nodup_iff.mpr hnew)
  | case3 seen u rest hu ih =>
    rw [reach, dif_neg hu]
    exact ih h

/-! ### Nodes on a cycle -/

/-- **Wherever a way leads, there is one that passes no node twice.** -/
theorem exists_simple_chain (h : Relation.ReflTransGen g.Edge x y) :
    ∃ l, (x :: l).IsChain g.Edge ∧ (x :: l).Nodup ∧ (x :: l).getLast? = some y := by
  -- on the way from its end to its start
  induction h using Relation.ReflTransGen.head_induction_on with
  | refl => exact ⟨[], .singleton y, List.nodup_singleton y, rfl⟩
  | @head x w hxw _ ih =>
    obtain ⟨l, hchain, hnodup, hlast⟩ := ih
    by_cases hx : x ∈ w :: l
    · -- the way comes back to `x`: it is cut there
      obtain ⟨pre, post, hsplit⟩ := List.append_of_mem hx
      rw [hsplit] at hchain hnodup hlast
      have hend : (x :: post).getLast? = some y := by
        rwa [List.getLast?_append_of_ne_nil _ (List.cons_ne_nil x post)] at hlast
      exact ⟨post, hchain.right_of_append, (List.nodup_append.mp hnodup).2.1, hend⟩
    · refine ⟨w :: l, hchain.cons_cons hxw, List.nodup_cons.mpr ⟨hx, hnodup⟩, ?_⟩
      rw [List.getLast?_cons_cons]
      exact hlast

/-- **A node that depends on itself lies on a cycle.** -/
theorem exists_isCycle_of_circle (hg : g.WellFormed) (h : Relation.TransGen g.Edge x x) :
    ∃ c, g.IsCycle c ∧ x ∈ c := by
  obtain ⟨w, hxw, hwx⟩ := Relation.TransGen.head'_iff.mp h
  obtain ⟨l, hchain, hnodup, hlast⟩ := exists_simple_chain hwx
  have hlong : l ≠ [] := by
    rintro rfl
    rw [List.getLast?_singleton, Option.some.injEq] at hlast
    exact hg.ne hxw hlast.symm
  refine ⟨x :: w :: l, ⟨hchain.cons_cons hxw, ?_, hnodup, ?_⟩, List.mem_cons_self⟩
  · rw [List.head?_cons, List.getLast?_cons_cons, hlast]
  · have := List.length_pos_of_ne_nil hlong
    simp only [List.length_cons]
    omega

/-! ### The closure -/

theorem closure_of_notMem (hg : g.WellFormed) (hx : x ∉ g.nodes) : g.closure x = [] := by
  refine List.eq_nil_iff_forall_not_mem.mpr fun y hy => ?_
  obtain ⟨w, hxw, -⟩ := Relation.TransGen.head'_iff.mp ((mem_closure_iff hg).mp hy)
  exact hx (hg.left_mem hxw)

/-- **The closure of an id**, on any graph, with cycles or without: it holds each id once that can be reached by
one or more edges, and no other. So it is empty for an id that is no node, and an id is in its own closure if
and only if it lies on a cycle. -/
theorem closure_follows_edges (hg : g.Built) (x : String) :
    (∀ y, y ∈ g.closure x ↔ Relation.TransGen g.Edge x y) ∧ (g.closure x).Nodup ∧
      (x ∉ g.nodes → g.closure x = []) ∧ (x ∈ g.closure x ↔ ∃ c, g.IsCycle c ∧ x ∈ c) := by
  have hwf := hg.wellFormed
  refine ⟨fun y => mem_closure_iff hwf, nodup_reach List.nodup_nil, closure_of_notMem hwf, ?_⟩
  rw [mem_closure_iff hwf]
  constructor
  · exact exists_isCycle_of_circle hwf
  · rintro ⟨c, hc, hx⟩
    exact hc.transGen hx hx

/-- In front of the circles and on one of them: the node in front reaches both circles behind it and is on none,
a node that is on two of them reaches itself, and one that is not there reaches nothing. -/
theorem closure_follows_edges_roundabouts :
    roundabouts.Built ∧ roundabouts.closure "x" = ["a", "b", "c"] ∧
      Relation.TransGen roundabouts.Edge "x" "c" ∧ (¬ ∃ c, roundabouts.IsCycle c ∧ "x" ∈ c) ∧
      (∃ c, roundabouts.IsCycle c ∧ "a" ∈ c) ∧ roundabouts.closure "z" = [] := by
  have hg : roundabouts.Built := built_of_ofEdges roundabouts.nodes roundabouts.accepted rfl
  have hx : roundabouts.closure "x" = ["a", "b", "c"] := by
    simp [closure, reach, dependencies, edgesFrom, roundabouts]
  have ha : "a" ∈ roundabouts.closure "a" := by
    simp [closure, reach, dependencies, edgesFrom, roundabouts]
  obtain ⟨hreach, -, -, hcycle⟩ := closure_follows_edges hg "x"
  refine ⟨hg, hx, (hreach "c").mp (by simp [hx]), ?_, ?_, ?_⟩
  · rw [← hcycle, hx]
    decide
  · exact (closure_follows_edges hg "a").2.2.2.mp ha
  · exact (closure_follows_edges hg "z").2.2.1 (by decide)

end Backlog.Graph
