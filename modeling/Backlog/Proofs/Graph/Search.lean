import Backlog.Proofs.Graph.Cycle

/-! # What the two searches find

`Sound` is the invariant of the search for cycles: what has been finished, and in which order. Along the
current path nothing is finished; a finished node has its dependencies before it, or else the edge to such
a dependency closes a cycle that is reported. Following an edge keeps it (`foldl_follow`), so a visit
does (`visit_spec`), and so does the whole search (`search_spec`, `finished_perm`).

The walk that lists the nodes comes to the same nodes in the same order, whether there are cycles or not:
it has been to a node when the search has finished it or has it on its path (`Agree`,
`postOrder_eq_finished`). -/

namespace Backlog.Graph

variable {g : Graph} {path : List String} {s s' : Search} {v w : String}

/-! ### The invariant -/

/-- **The state of a search** that has come along a path. -/
structure Sound (g : Graph) (path : List String) (s : Search) : Prop where
  nodup : s.finished.Nodup
  nodes : ∀ v ∈ s.finished, v ∈ g.nodes
  apart : ∀ v ∈ s.finished, v ∉ path
  settled : ∀ l v r, s.finished = l ++ v :: r → ∀ w, g.Edge v w →
    w ∈ l ∨ ∃ c ∈ s.cycles, [v, w] <:+ c
  genuine : ∀ c ∈ s.cycles, g.IsCycle c

/-- What a search has found stays. -/
structure Grows (s s' : Search) : Prop where
  finished : s.finished <+: s'.finished
  cycles : s.cycles ⊆ s'.cycles

theorem Grows.refl (s : Search) : Grows s s := ⟨List.prefix_refl _, List.Subset.refl _⟩

theorem Grows.trans {s₁ s₂ s₃ : Search} (h : Grows s₁ s₂) (h' : Grows s₂ s₃) : Grows s₁ s₃ :=
  ⟨h.finished.trans h'.finished, List.Subset.trans h.cycles h'.cycles⟩

theorem sound_start (g : Graph) : Sound g [] ⟨[], []⟩ where
  nodup := List.nodup_nil
  nodes := by simp
  apart := by simp
  settled l v r h := by simp at h
  genuine := by simp

/-- Going on to a node that is not finished. -/
theorem Sound.enter (hs : Sound g path s) (hv : v ∉ s.finished) : Sound g (v :: path) s :=
  { hs with
    apart := by
      intro u hu hmem
      rcases List.mem_cons.mp hmem with rfl | hmem
      · exact hv hu
      · exact hs.apart u hu hmem }

/-- Finishing the last node of the path, once every edge from it has been followed. -/
theorem Sound.leave (hs : Sound g (v :: path) s) (hp : g.IsPath (v :: path))
    (hv : ∀ w, g.Edge v w → w ∈ s.finished ∨ ∃ c ∈ s.cycles, [v, w] <:+ c) :
    Sound g path { s with finished := s.finished ++ [v] } where
  nodup := by
    have hnew : v ∉ s.finished := fun h => hs.apart v h (by simp)
    exact (List.perm_append_singleton v s.finished).nodup_iff.mpr
      (List.nodup_cons.mpr ⟨hnew, hs.nodup⟩)
  nodes := by
    intro u hu
    rcases List.mem_append.mp hu with hu | hu
    · exact hs.nodes u hu
    · rw [List.mem_singleton.mp hu]; exact hp.nodes v (by simp)
  apart := by
    intro u hu hmem
    rcases List.mem_append.mp hu with hu | hu
    · exact hs.apart u hu (List.mem_cons_of_mem v hmem)
    · rw [List.mem_singleton.mp hu] at hmem
      exact (List.nodup_cons.mp hp.nodup).1 hmem
  settled := by
    intro l u r h w hw
    rcases List.eq_nil_or_concat r with rfl | ⟨r, z, rfl⟩
    · obtain ⟨rfl, hlast⟩ := List.append_inj' h rfl
      obtain rfl : v = u := List.singleton_inj.mp hlast
      exact hv w hw
    · rw [List.concat_eq_append, ← List.cons_append, ← List.append_assoc] at h
      exact hs.settled l u r (List.append_inj' h rfl).1 w hw
  genuine := hs.genuine

/-! ### Following edges -/

/-- A way to visit a node that lies off the path keeps the invariant and finishes the node. -/
def Visits (g : Graph) (path : List String) (go : Search → String → Search) (w : String) : Prop :=
  ∀ s, Sound g path s → w ∉ s.finished →
    Sound g path (go s w) ∧ Grows s (go s w) ∧ w ∈ (go s w).finished

/-- After an edge to `w` has been followed, `w` is finished or the edge has closed a cycle. -/
theorem follow_spec {go : Search → String → Search} (hs : Sound g path s)
    (hgo : w ∉ path → Visits g path go w) (hclose : w ∈ path → g.IsCycle (closeCycle path w)) :
    Sound g path (follow go path s w) ∧ Grows s (follow go path s w) ∧
      (w ∈ (follow go path s w).finished ∨
        w ∈ path ∧ closeCycle path w ∈ (follow go path s w).cycles) := by
  unfold follow
  by_cases hfin : w ∈ s.finished
  · rw [if_pos (by simpa using hfin)]
    exact ⟨hs, Grows.refl s, Or.inl hfin⟩
  · rw [if_neg (by simpa using hfin)]
    by_cases hpath : w ∈ path
    · rw [if_pos (by simpa using hpath)]
      refine ⟨⟨hs.nodup, hs.nodes, hs.apart, ?_, ?_⟩, ⟨List.prefix_refl _, by simp⟩,
        Or.inr ⟨hpath, by simp⟩⟩
      · intro l v r h u hu
        rcases hs.settled l v r h u hu with hmem | ⟨c, hc, hsuf⟩
        · exact Or.inl hmem
        · exact Or.inr ⟨c, List.mem_append_left _ hc, hsuf⟩
      · intro c hc
        rcases List.mem_append.mp hc with hc | hc
        · exact hs.genuine c hc
        · rw [List.mem_singleton.mp hc]; exact hclose hpath
    · rw [if_neg (by simpa using hpath)]
      obtain ⟨h1, h2, h3⟩ := hgo hpath s hs hfin
      exact ⟨h1, h2, Or.inl h3⟩

theorem foldl_follow (go : Search → String → Search) : ∀ (ws : List String) (s : Search),
    Sound g path s → (∀ w ∈ ws, w ∉ path → Visits g path go w) →
      (∀ w ∈ ws, w ∈ path → g.IsCycle (closeCycle path w)) →
      Sound g path (ws.foldl (follow go path) s) ∧ Grows s (ws.foldl (follow go path) s) ∧
        ∀ w ∈ ws, w ∈ (ws.foldl (follow go path) s).finished ∨
          w ∈ path ∧ closeCycle path w ∈ (ws.foldl (follow go path) s).cycles
  | [], s, hs, _, _ => ⟨hs, Grows.refl s, by simp⟩
  | w :: ws, s, hs, hgo, hclose => by
    rw [List.foldl_cons]
    obtain ⟨h1, h2, h3⟩ := follow_spec hs (hgo w (by simp)) (hclose w (by simp))
    obtain ⟨h4, h5, h6⟩ := foldl_follow go ws (follow go path s w) h1
      (fun u hu => hgo u (List.mem_cons_of_mem w hu))
      (fun u hu => hclose u (List.mem_cons_of_mem w hu))
    refine ⟨h4, h2.trans h5, ?_⟩
    intro u hu
    rcases List.mem_cons.mp hu with rfl | hu
    · rcases h3 with h3 | ⟨hp, h3⟩
      · exact Or.inl (h5.finished.subset h3)
      · exact Or.inr ⟨hp, h5.cycles h3⟩
    · exact h6 u hu

/-- **A visit** finishes its node and whatever can be finished from there. The fuel suffices: with the
length of the path it makes up the number of nodes. -/
theorem visit_spec (hg : g.WellFormed) : ∀ (fuel : ℕ) (path : List String) (v : String),
    g.nodes.length ≤ fuel + path.length → g.IsPath (v :: path) → Visits g path (g.visit fuel path) v
  | 0, path, v, hfuel, hp => by
    have hlen := hp.length_le
    rw [List.length_cons] at hlen
    omega
  | fuel + 1, path, v, hfuel, hp => by
    intro s hs hv
    have hedge : ∀ w ∈ g.dependencies v, g.Edge v w := fun w hw => mem_dependencies.mp hw
    obtain ⟨h1, h2, h3⟩ := foldl_follow (g.visit fuel (v :: path)) (g.dependencies v) s
      (hs.enter hv)
      (fun w hw hpath => visit_spec hg fuel (v :: path) w (by rw [List.length_cons]; omega)
        (hp.cons hg (hedge w hw) hpath))
      (fun w hw hpath => isCycle_closeCycle hg (hedge w hw) hpath hp)
    refine ⟨h1.leave hp ?_, ⟨h2.finished.trans (List.prefix_append _ _), h2.cycles⟩, ?_⟩
    · intro w hw
      rcases h3 w (mem_dependencies.mpr hw) with hfin | ⟨hpath, hc⟩
      · exact Or.inl hfin
      · exact Or.inr ⟨_, hc, suffix_closeCycle hg hw hpath⟩
    · exact List.mem_append_right _ (List.mem_singleton.mpr rfl)

/-! ### The search as a whole -/

section Whole
variable (hg : g.WellFormed)
include hg

theorem search_spec : Sound g [] g.search ∧ ∀ v ∈ g.nodes, v ∈ g.search.finished := by
  obtain ⟨h1, -, h3⟩ := foldl_follow (g.visit g.nodes.length []) g.nodes ⟨[], []⟩
    (sound_start g)
    (fun v hv _ => visit_spec hg g.nodes.length [] v (by simp)
      ⟨by simpa using hv, List.nodup_singleton v, List.IsChain.singleton v⟩)
    (fun v _ h => by simp at h)
  exact ⟨h1, fun v hv => (h3 v hv).resolve_right (by simp)⟩

theorem finished_perm : g.search.finished.Perm g.nodes := by
  obtain ⟨hs, hall⟩ := search_spec hg
  exact (List.perm_ext_iff_of_nodup hs.nodup hg.nodup).mpr fun v => ⟨hs.nodes v, hall v⟩

theorem isCycle_of_mem_cycles {c : List String} (hc : c ∈ g.cycles) : g.IsCycle c :=
  (search_spec hg).1.genuine c hc

/-- **A node is finished after its dependencies**, but for the edges that close a reported cycle. -/
theorem finished_settled {l r : List String} (h : g.search.finished = l ++ v :: r)
    (hvw : g.Edge v w) : w ∈ l ∨ ∃ c ∈ g.cycles, [v, w] <:+ c :=
  (search_spec hg).1.settled l v r h w hvw

end Whole

/-! ### The walk -/

/-- The walk has been where the search is or was, and lists what the search has finished. -/
structure Agree (path : List String) (s : Search) (t : Walk) : Prop where
  listed : t.listed = s.finished
  visited : ∀ v, v ∈ t.visited ↔ v ∈ s.finished ∨ v ∈ path

theorem agree_follow {go : Search → String → Search} {go' : Walk → String → Walk}
    (hgo : ∀ s t w, Agree path s t → Agree path (go s w) (go' t w)) :
    ∀ (ws : List String) (s : Search) (t : Walk), Agree path s t →
      Agree path (ws.foldl (follow go path) s) (ws.foldl (goOn go') t)
  | [], _, _, h => h
  | w :: ws, s, t, h => by
    rw [List.foldl_cons, List.foldl_cons]
    refine agree_follow hgo ws _ _ ?_
    unfold follow goOn
    by_cases hfin : w ∈ s.finished
    · rw [if_pos (by simpa using hfin), if_pos (by simpa using (h.visited w).mpr (Or.inl hfin))]
      exact h
    · by_cases hpath : w ∈ path
      · rw [if_neg (by simpa using hfin), if_pos (by simpa using hpath),
          if_pos (by simpa using (h.visited w).mpr (Or.inr hpath))]
        exact ⟨h.listed, h.visited⟩
      · have hnew : w ∉ t.visited := fun hw => ((h.visited w).mp hw).elim hfin hpath
        rw [if_neg (by simpa using hfin), if_neg (by simpa using hpath),
          if_neg (by simpa using hnew)]
        exact hgo s t w h

theorem agree_visit (g : Graph) : ∀ (fuel : ℕ) (path : List String) (s : Search) (t : Walk)
    (v : String), Agree path s t → Agree path (g.visit fuel path s v) (g.walk fuel t v)
  | 0, _, _, _, _, h => h
  | fuel + 1, path, s, t, v, h => by
    have henter : Agree (v :: path) s { t with visited := v :: t.visited } := by
      refine ⟨h.listed, fun u => ?_⟩
      simp only [List.mem_cons, h.visited u]
      tauto
    have hfold := agree_follow (fun s t w => agree_visit g fuel (v :: path) s t w)
      (g.dependencies v) s _ henter
    refine ⟨?_, fun u => ?_⟩
    · exact congrArg (· ++ [v]) hfold.listed
    · refine (hfold.visited u).trans ?_
      simp only [visit, List.mem_cons, List.mem_append, List.not_mem_nil, or_false]
      tauto

/-- **The two searches agree**: the walk lists the nodes in the order in which the search for cycles
finishes them. -/
theorem postOrder_eq_finished (g : Graph) : g.postOrder = g.search.finished :=
  (agree_follow (fun s t w => agree_visit g g.nodes.length [] s t w) g.nodes ⟨[], []⟩ ⟨[], []⟩
    ⟨rfl, by simp⟩).listed

end Backlog.Graph
