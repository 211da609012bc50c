import Backlog.Proofs.Graph.Built

/-! # What a node depends on

`closure` collects exactly the nodes to which a path of one or more edges leads (`mem_closure_iff`). What
has been seen while it is collected can be reached (`reachable_of_mem_reach`), and in the end it is closed:
an edge from a node that has been seen leads to a node that has been seen (`reach_closed`). -/

namespace Backlog.Graph

variable {g : Graph} {x y v w : String} {stack seen : List String}

theorem mem_reach_of_mem (h : v ∈ seen ∨ v ∈ stack ∧ v ∈ g.nodes) : v ∈ g.reach stack seen := by
  induction stack, seen using reach.induct g with
  | case1 seen =>
    rw [reach]
    simpa using h
  | case2 seen u rest hu ih =>
    rw [reach, dif_pos hu]
    refine ih ?_
    simp only [List.mem_append, List.mem_singleton]
    rcases h with h | ⟨h, hv⟩
    · exact Or.inl (Or.inl h)
    · rcases List.mem_cons.mp h with rfl | h
      · exact Or.inl (Or.inr rfl)
      · exact Or.inr ⟨Or.inr h, hv⟩
  | case3 seen u rest hu ih =>
    rw [reach, dif_neg hu]
    refine ih ?_
    rcases h with h | ⟨h, hv⟩
    · exact Or.inl h
    · rcases List.mem_cons.mp h with rfl | h
      · exact Or.inl (not_not.mp fun hnew => hu ⟨hv, hnew⟩)
      · exact Or.inr ⟨h, hv⟩

theorem reachable_of_mem_reach (h : v ∈ g.reach stack seen) :
    v ∈ seen ∨ ∃ w ∈ stack, Relation.ReflTransGen g.Edge w v := by
  induction stack, seen using reach.induct g with
  | case1 seen =>
    rw [reach] at h
    exact Or.inl h
  | case2 seen u rest hu ih =>
    rw [reach, dif_pos hu] at h
    rcases ih h with h | ⟨w, hw, hwv⟩
    · rcases List.mem_append.mp h with h | h
      · exact Or.inl h
      · rw [List.mem_singleton.mp h]
        exact Or.inr ⟨u, by simp, .refl⟩
    · rcases List.mem_append.mp hw with hw | hw
      · exact Or.inr ⟨u, by simp, .head (mem_dependencies.mp hw) hwv⟩
      · exact Or.inr ⟨w, by simp [hw], hwv⟩
  | case3 seen u rest hu ih =>
    rw [reach, dif_neg hu] at h
    rcases ih h with h | ⟨w, hw, hwv⟩
    · exact Or.inl h
    · exact Or.inr ⟨w, by simp [hw], hwv⟩

/-- **In the end edges lead from what has been seen to what has been seen**, if at the start they lead
there or to the stack. -/
theorem reach_closed (hg : g.WellFormed)
    (h : ∀ v ∈ seen, ∀ w, g.Edge v w → w ∈ seen ∨ w ∈ stack)
    (hv : v ∈ g.reach stack seen) (hvw : g.Edge v w) : w ∈ g.reach stack seen := by
  induction stack, seen using reach.induct g with
  | case1 seen =>
    rw [reach] at hv ⊢
    simpa using h v hv w hvw
  | case2 seen u rest hu ih =>
    rw [reach, dif_pos hu] at hv ⊢
    refine ih ?_ hv
    intro a ha b hab
    simp only [List.mem_append, List.mem_singleton] at ha ⊢
    rcases ha with ha | rfl
    · rcases h a ha b hab with hb | hb
      · exact Or.inl (Or.inl hb)
      · rcases List.mem_cons.mp hb with rfl | hb
        · exact Or.inl (Or.inr rfl)
        · exact Or.inr (Or.inr hb)
    · exact Or.inr (Or.inl (mem_dependencies.mpr hab))
  | case3 seen u rest hu ih =>
    rw [reach, dif_neg hu] at hv ⊢
    refine ih ?_ hv
    intro a ha b hab
    rcases h a ha b hab with hb | hb
    · exact Or.inl hb
    · rcases List.mem_cons.mp hb with rfl | hb
      · exact Or.inl (not_not.mp fun hnew => hu ⟨hg.right_mem hab, hnew⟩)
      · exact Or.inr hb

/-- **The closure of a node** holds what can be reached from it by one or more edges. -/
theorem mem_closure_iff (hg : g.WellFormed) : y ∈ g.closure x ↔ Relation.TransGen g.Edge x y := by
  constructor
  · intro h
    obtain ⟨w, hw, hwy⟩ := (reachable_of_mem_reach h).resolve_left List.not_mem_nil
    exact .head' (mem_dependencies.mp hw) hwy
  · intro h
    induction h with
    | single h => exact mem_reach_of_mem (Or.inr ⟨mem_dependencies.mpr h, hg.right_mem h⟩)
    | tail _ h ih => exact reach_closed hg (by simp) ih h

end Backlog.Graph
