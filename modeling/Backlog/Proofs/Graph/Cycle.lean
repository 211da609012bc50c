import Backlog.Graph.Search
import Backlog.Proofs.Graph.Built
import Mathlib.Data.List.Chain
import Mathlib.Data.List.Nodup
import Mathlib.Data.List.Perm.Subperm

/-! # Paths and cycles

The search keeps the current path with the nearest node first (`IsPath`); a cycle is reported from a node
to its next occurrence (`IsCycle`).

* `isCycle_closeCycle`: an edge from the end of a path back onto it closes a cycle.
* `suffix_closeCycle`: that edge is the last one of the cycle.
* `IsCycle.not_acyclic`: a graph with a cycle is not acyclic. -/

namespace Backlog.Graph

variable {g : Graph} {path c : List String} {v w : String}

/-- **A path**: distinct nodes, nearest first, each the dependency of the next. -/
structure IsPath (g : Graph) (path : List String) : Prop where
  nodes : ∀ v ∈ path, v ∈ g.nodes
  nodup : path.Nodup
  chain : path.IsChain fun x y => g.Edge y x

/-- **A cycle as it is reported**: at least two nodes, each depending on the next, from one of them back to
it, without passing any twice. -/
structure IsCycle (g : Graph) (c : List String) : Prop where
  chain : c.IsChain g.Edge
  closed : c.head? = c.getLast?
  nodup : c.tail.Nodup
  long : 3 ≤ c.length

theorem IsPath.cons (hg : g.WellFormed) (hp : g.IsPath (v :: path)) (hvw : g.Edge v w)
    (hw : w ∉ v :: path) : g.IsPath (w :: v :: path) where
  nodes := by
    intro u hu
    rcases List.mem_cons.mp hu with rfl | hu
    · exact hg.right_mem hvw
    · exact hp.nodes u hu
  nodup := List.nodup_cons.mpr ⟨hw, hp.nodup⟩
  chain := List.IsChain.cons_cons hvw hp.chain

theorem IsPath.length_le (hp : g.IsPath path) : path.length ≤ g.nodes.length :=
  (List.subperm_of_subset hp.nodup hp.nodes).length_le

/-- The cycle that an edge back to `w` closes starts at `w`, follows the path to its end and returns. -/
theorem closeCycle_eq (hw : w ∈ path) :
    ∃ pre post, path.reverse = pre ++ w :: post ∧ closeCycle path w = w :: (post ++ [w]) := by
  obtain ⟨pre, post, hsplit, hpre⟩ := List.eq_append_cons_of_mem (List.mem_reverse.mpr hw)
  refine ⟨pre, post, hsplit, ?_⟩
  have hne : ∀ u ∈ pre, (u != w) = true := by
    intro u hu
    simpa using fun h : u = w => hpre (h ▸ hu)
  rw [closeCycle, hsplit, List.dropWhile_append_of_pos hne, List.dropWhile_cons_of_neg (by simp)]
  rfl

section Closing
variable (hg : g.WellFormed) (hvw : g.Edge v w) (hw : w ∈ v :: path)
include hg hvw hw

/-- The closing edge is no loop, so the path goes from `w` through other nodes to `v`. -/
theorem exists_closeCycle_eq :
    ∃ pre post, path.reverse = pre ++ w :: post ∧
      closeCycle (v :: path) w = w :: (post ++ [v, w]) := by
  obtain ⟨pre, post, hsplit, hclose⟩ := closeCycle_eq hw
  rcases List.eq_nil_or_concat post with rfl | ⟨post, u, rfl⟩
  · rw [List.reverse_cons] at hsplit
    have hlast := (List.append_inj' hsplit rfl).2
    exact absurd (List.singleton_inj.mp hlast) (hg.ne hvw)
  · rw [List.concat_eq_append] at hsplit hclose
    rw [List.reverse_cons, ← List.cons_append, ← List.append_assoc] at hsplit
    obtain ⟨hpath, hlast⟩ := List.append_inj' hsplit rfl
    obtain rfl : v = u := List.singleton_inj.mp hlast
    exact ⟨pre, post, hpath, by rw [hclose]; simp⟩

/-- **An edge back onto the path closes a cycle.** -/
theorem isCycle_closeCycle (hp : g.IsPath (v :: path)) :
    g.IsCycle (closeCycle (v :: path) w) := by
  obtain ⟨pre, post, hsplit, hclose⟩ := exists_closeCycle_eq hg hvw hw
  have hrev : (v :: path).reverse = pre ++ (w :: post ++ [v]) := by simp [hsplit]
  have hchain : (w :: post ++ [v]).IsChain g.Edge := by
    have h := List.isChain_reverse.mpr hp.chain
    rw [hrev] at h
    exact h.right_of_append
  have hnodup : (w :: post ++ [v]).Nodup := by
    have h := List.nodup_reverse.mpr hp.nodup
    rw [hrev] at h
    exact (List.nodup_append.mp h).2.1
  rw [hclose]
  refine ⟨?_, by simp [List.getLast?_cons], ?_, by simp⟩
  · rw [← List.cons_append, show [v, w] = [v] ++ [w] from rfl, ← List.append_assoc]
    refine hchain.append (List.IsChain.singleton w) ?_
    intro a ha b hb
    simp only [List.getLast?_append, List.getLast?_singleton, Option.some_or, Option.mem_def,
      Option.some.injEq, List.head?_cons] at ha hb
    rw [← ha, ← hb]; exact hvw
  · rw [List.tail_cons, show [v, w] = [v] ++ [w] from rfl, ← List.append_assoc]
    exact (List.perm_append_singleton w (post ++ [v])).nodup_iff.mpr hnodup

theorem suffix_closeCycle : [v, w] <:+ closeCycle (v :: path) w := by
  obtain ⟨-, post, -, hclose⟩ := exists_closeCycle_eq hg hvw hw
  exact ⟨w :: post, by rw [hclose]; rfl⟩

end Closing

theorem IsCycle.not_acyclic (hc : g.IsCycle c) : ¬ g.Acyclic := by
  obtain ⟨hchain, hclosed, -, hlong⟩ := hc
  match c, hlong with
  | a :: b :: l, _ =>
    have hab : g.Edge a b := (List.isChain_cons_cons.mp hchain).1
    have hlast : (b :: l).getLast (by simp) = a := by
      simpa [List.getLast?_eq_some_getLast] using hclosed.symm
    have hba : Relation.ReflTransGen g.Edge b a := by
      have h := List.relationReflTransGen_of_exists_isChain_cons l
        (List.isChain_cons_cons.mp hchain).2 hlast
      exact h
    exact fun hacyclic => hacyclic a (Relation.TransGen.head' hab hba)

end Backlog.Graph
