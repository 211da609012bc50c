import Backlog.Graph.Rules
import Backlog.Proofs.Graph.Chain
import Backlog.Proofs.Graph.Closure

/-! # The graph of a set of tickets

Rules join tickets of different tiers only: setup below features, features below all others
(`tier_lt_of_waits`). So no set of tickets depends on itself in a circle, whatever their files and texts
are (`acyclic_ofTickets`), and tickets are refused for two reasons only (`analyze_eq_error`).

All other tickets wait for the setup ticket. It is first in the execution order, in the closure of each,
and where the critical path starts (`head?_sorted`, `mem_closure_setup`, `head?_criticalPath`). -/

namespace Backlog

theorem Ticket.isSetup_iff {t : Ticket} : t.isSetup ↔ t.type = .setup := beq_iff_eq

/-! ### Which tickets wait for which -/

/-- **The rules together**: `a` waits for `b`. -/
def Facts.Waits (a b : Facts) : Prop :=
  b.type = .setup ∨ (a.sharesFile b ∧ a.amends b) ∨ (a.accompanies b ∧ a.isRelated b)

/-- How far up a type of ticket stands: it waits for lower ones only. -/
def TicketType.tier : TicketType → ℕ
  | .setup => 0
  | .feature => 1
  | _ => 2

theorem Facts.tier_lt_of_waits {a b : Facts} (h : a.Waits b) (ha : a.type ≠ .setup) :
    b.type.tier < a.type.tier := by
  rcases h with hb | ⟨-, h⟩ | ⟨h, -⟩
  · rw [hb]
    cases hta : a.type with
    | setup => exact absurd hta ha
    | _ => decide
  · simp only [Facts.amends, Bool.and_eq_true, Bool.or_eq_true, beq_iff_eq] at h
    obtain ⟨hb, hta | hta⟩ := h <;> rw [hb, hta] <;> decide
  · simp only [Facts.accompanies, Bool.and_eq_true, Bool.or_eq_true, beq_iff_eq] at h
    obtain ⟨hb, (hta | hta) | hta⟩ := h <;> rw [hb, hta] <;> decide

namespace Graph

variable {ts : List Ticket} {t u : Ticket} {g : Graph} {o : List String} {x y : String}

theorem mem_ruleEdges {facts : List Facts} {kind : DependencyKind} {joins : Facts → Facts → Bool}
    {e : Dependency} :
    e ∈ ruleEdges facts kind joins ↔
      ∃ a ∈ facts, ∃ b ∈ facts, a.id ≠ b.id ∧ joins a b ∧ e = ⟨a.id, b.id, kind⟩ := by
  simp only [ruleEdges, pairs, List.mem_map, List.mem_filter, List.mem_flatMap, Prod.exists,
    Bool.and_eq_true, bne_iff_ne]
  constructor
  · rintro ⟨a, b, ⟨⟨a', ha, b', hb, hab⟩, hne, hj⟩, rfl⟩
    cases hab
    exact ⟨a, ha, b, hb, hne, hj, rfl⟩
  · rintro ⟨a, ha, b, hb, hne, hj, rfl⟩
    exact ⟨a, b, ⟨⟨a, ha, b, hb, rfl⟩, hne, hj⟩, rfl⟩

/-- Some rule proposes an edge from one ticket to another if and only if the one waits for the other. -/
theorem exists_mem_proposed {facts : List Facts} :
    (∃ e ∈ proposed facts, e.ticket = x ∧ e.dependsOn = y) ↔
      ∃ a ∈ facts, ∃ b ∈ facts, a.id = x ∧ b.id = y ∧ x ≠ y ∧ a.Waits b := by
  simp only [proposed, List.mem_append, mem_ruleEdges, beq_iff_eq, Bool.and_eq_true,
    Bool.or_eq_true]
  constructor
  · rintro ⟨e, (⟨a, ha, b, hb, hne, hj, rfl⟩ | ⟨a, ha, b, hb, hne, hj, rfl⟩) |
      ⟨a, ha, b, hb, hne, hj, rfl⟩, rfl, rfl⟩
    · exact ⟨a, ha, b, hb, rfl, rfl, hne, Or.inl hj⟩
    · exact ⟨a, ha, b, hb, rfl, rfl, hne, hj.2.imp_right fun h => Or.inl ⟨hj.1, h⟩⟩
    · exact ⟨a, ha, b, hb, rfl, rfl, hne, Or.inr (Or.inr hj)⟩
  · rintro ⟨a, ha, b, hb, rfl, rfl, hne, hw⟩
    rcases hw with hj | hj | hj
    · exact ⟨⟨a.id, b.id, .blocks⟩, Or.inl (Or.inl ⟨a, ha, b, hb, hne, hj, rfl⟩), rfl, rfl⟩
    · exact ⟨⟨a.id, b.id, .fileConflict⟩,
        Or.inl (Or.inr ⟨a, ha, b, hb, hne, ⟨hj.1, Or.inr hj.2⟩, rfl⟩), rfl, rfl⟩
    · exact ⟨⟨a.id, b.id, .related⟩, Or.inr ⟨a, ha, b, hb, hne, hj, rfl⟩, rfl, rfl⟩

/-! ### Building the graph -/

theorem ofTickets_eq_ok :
    ofTickets ts = .ok g ↔ (ts.map (·.id)).Nodup ∧ (ts.filter (·.isSetup)).length ≤ 1 ∧
      g = (proposed (ts.map Facts.ofTicket)).foldl (fun g e => (g.insert e).1)
        ⟨ts.map (·.id), []⟩ := by
  rw [ofTickets, bind_eq_ok]
  simp only [ofNodes_eq_ok]
  constructor
  · rintro ⟨_, ⟨hnd, rfl⟩, h⟩
    split_ifs at h with hs
    cases h
    exact ⟨hnd, Nat.not_lt.mp hs, rfl⟩
  · rintro ⟨hnd, hs, rfl⟩
    exact ⟨_, ⟨hnd, rfl⟩, by rw [if_neg (Nat.not_lt.mpr hs)]; rfl⟩

/-- **Tickets are refused** if one repeats the id of another, else if several prepare the ground. -/
theorem ofTickets_eq_error {e : GraphError} :
    ofTickets ts = .error e ↔
      (∃ pre id post, ts.map (·.id) = pre ++ id :: post ∧ pre.Nodup ∧ id ∈ pre ∧
        e = .duplicateNode id) ∨
      (ts.map (·.id)).Nodup ∧ 1 < (ts.filter (·.isSetup)).length ∧
        e = .severalSetups (ts.filter (·.isSetup)).length := by
  rw [ofTickets, bind_eq_error, ofNodes_eq_error]
  refine or_congr_right ?_
  simp only [ofNodes_eq_ok]
  constructor
  · rintro ⟨_, ⟨hnd, rfl⟩, h⟩
    split_ifs at h with hs
    · cases h
      exact ⟨hnd, hs, rfl⟩
    · cases h
  · rintro ⟨hnd, hs, rfl⟩
    exact ⟨_, ⟨hnd, rfl⟩, by rw [if_pos hs]⟩

section Accepted
variable (h : ofTickets ts = .ok g)
include h

theorem nodes_ofTickets : g.nodes = ts.map (·.id) := by
  obtain ⟨-, -, rfl⟩ := ofTickets_eq_ok.mp h
  exact nodes_foldl_insert _ _

theorem mem_nodes_ofTickets (ht : t ∈ ts) : t.id ∈ g.nodes := by
  rw [nodes_ofTickets h]
  exact List.mem_map_of_mem ht

/-- **One ticket depends on another** if and only if it waits for it. -/
theorem edge_ofTickets :
    g.Edge x y ↔ ∃ t ∈ ts, ∃ u ∈ ts, t.id = x ∧ u.id = y ∧ x ≠ y ∧
      (Facts.ofTicket t).Waits (Facts.ofTicket u) := by
  obtain ⟨-, -, rfl⟩ := ofTickets_eq_ok.mp h
  have hne : ∀ e ∈ proposed (ts.map Facts.ofTicket), e.ticket ≠ e.dependsOn := by
    intro e he
    obtain ⟨_, -, _, -, -, -, hne, -⟩ := exists_mem_proposed.mp ⟨e, he, rfl, rfl⟩
    exact hne
  rw [edge_foldl_insert hne, exists_mem_proposed]
  have hnone : ¬ (⟨ts.map (·.id), []⟩ : Graph).Edge x y := by simp [edge_iff]
  simp only [hnone, false_or, List.mem_map, exists_exists_and_eq_and]
  rfl

theorem wellFormed_ofTickets : g.WellFormed := by
  obtain ⟨hnd, -, rfl⟩ := ofTickets_eq_ok.mp h
  have hempty : (⟨ts.map (·.id), []⟩ : Graph).WellFormed := ⟨hnd, by simp, by simp, .nil⟩
  refine hempty.foldl_insert fun e he => ?_
  obtain ⟨a, ha, b, hb, hx, hy, -⟩ := exists_mem_proposed.mp ⟨e, he, rfl, rfl⟩
  obtain ⟨t, ht, rfl⟩ := List.mem_map.mp ha
  obtain ⟨u, hu, rfl⟩ := List.mem_map.mp hb
  rw [← hx, ← hy]
  exact ⟨List.mem_map_of_mem ht, List.mem_map_of_mem hu⟩

theorem eq_of_id_eq (ht : t ∈ ts) (hu : u ∈ ts) (hid : t.id = u.id) : t = u :=
  List.inj_on_of_nodup_map (ofTickets_eq_ok.mp h).1 ht hu hid

theorem eq_of_isSetup (ht : t ∈ ts) (hu : u ∈ ts) (hts : t.isSetup) (hus : u.isSetup) : t = u := by
  have hle := (ofTickets_eq_ok.mp h).2.1
  have htf : t ∈ ts.filter (·.isSetup) := List.mem_filter.mpr ⟨ht, hts⟩
  have huf : u ∈ ts.filter (·.isSetup) := List.mem_filter.mpr ⟨hu, hus⟩
  obtain ⟨s, hs⟩ := List.length_eq_one_iff.mp (Nat.le_antisymm hle (List.length_pos_of_mem htf))
  rw [hs, List.mem_singleton] at htf huf
  rw [htf, huf]

/-- What depends on something stands in a higher tier. -/
theorem tier_lt_of_edge (hxy : g.Edge x y) :
    ∃ t ∈ ts, ∃ u ∈ ts, t.id = x ∧ u.id = y ∧ u.type.tier < t.type.tier := by
  obtain ⟨t, ht, u, hu, rfl, rfl, hne, hw⟩ := (edge_ofTickets h).mp hxy
  refine ⟨t, ht, u, hu, rfl, rfl, Facts.tier_lt_of_waits hw fun hts => hne ?_⟩
  -- a setup ticket could only wait for another one
  have hus : u.type = .setup := by
    rcases hw with hu | ⟨-, hw⟩ | ⟨hw, -⟩
    · exact hu
    · simp [Facts.amends, hts] at hw
    · simp [Facts.accompanies, hts] at hw
  rw [eq_of_isSetup h ht hu (Ticket.isSetup_iff.mpr hts) (Ticket.isSetup_iff.mpr hus)]

/-- **The rules never make a circle.** -/
theorem acyclic_ofTickets : g.Acyclic :=
  acyclic_of_measure (fun t => t.type.tier) (fun _ ht _ hu => eq_of_id_eq h ht hu)
    fun _ _ => tier_lt_of_edge h

/-! ### The setup ticket -/

variable (ht : t ∈ ts) (hts : t.isSetup)
include ht hts

theorem edge_setup (hx : x ∈ g.nodes) (hne : x ≠ t.id) : g.Edge x t.id := by
  rw [nodes_ofTickets h] at hx
  obtain ⟨u, hu, rfl⟩ := List.mem_map.mp hx
  refine (edge_ofTickets h).mpr ⟨u, hu, t, ht, rfl, rfl, hne, Or.inl ?_⟩
  exact Ticket.isSetup_iff.mp hts

theorem mem_closure_setup (hu : u ∈ ts) (hne : u.id ≠ t.id) : t.id ∈ g.closure u.id := by
  rw [mem_closure_iff (wellFormed_ofTickets h)]
  exact .single (edge_setup h ht hts (mem_nodes_ofTickets h hu) hne)

/-- **The setup ticket is first** in an execution order. -/
theorem head?_sorted (ho : g.ExecutionOrder o) : o.head? = some t.id := by
  have hmem : t.id ∈ o := ho.mem_iff.mpr (mem_nodes_ofTickets h ht)
  rcases o with _ | ⟨x, o⟩
  · exact absurd hmem List.not_mem_nil
  · have hx : x = t.id := by
      by_contra hne
      have hlt := ho.before x t.id (edge_setup h ht hts (ho.mem_iff.mp (by simp)) hne)
      rw [List.idxOf_cons_self] at hlt
      omega
    rw [hx]
    rfl

/-- **The critical path starts** at the setup ticket. -/
theorem head?_criticalPath (ho : g.ExecutionOrder o) : (g.longestChain o).head? = some t.id := by
  obtain ⟨w, hw, hhead, hend⟩ := head?_longestChain ho (wellFormed_ofTickets h)
    (List.ne_nil_of_mem (mem_nodes_ofTickets h ht))
  have hwt : w = t.id := by
    by_contra hne
    exact hend _ (edge_setup h ht hts hw hne)
  rw [hhead, hwt]

end Accepted

end Graph

/-! ### The analysis -/

variable {ts : List Ticket} {a : Analysis}

theorem analyze_of_ofTickets {g : Graph} (h : Graph.ofTickets ts = .ok g) :
    analyze ts = .ok ⟨g, g.postOrder, g.longestChain g.postOrder, false, []⟩ := by
  have hnil := (Graph.cycles_eq_nil_iff (Graph.wellFormed_ofTickets h)).mpr
    (Graph.acyclic_ofTickets h)
  rw [analyze, h]
  show (if g.cycles.isEmpty then _ else _) = _
  rw [hnil]
  rfl

theorem analyze_eq_ok :
    analyze ts = .ok a ↔
      ∃ g, Graph.ofTickets ts = .ok g ∧
        a = ⟨g, g.postOrder, g.longestChain g.postOrder, false, []⟩ := by
  constructor
  · intro h
    obtain ⟨g, hg, -⟩ := bind_eq_ok.mp h
    rw [analyze_of_ofTickets hg] at h
    cases h
    exact ⟨g, hg, rfl⟩
  · rintro ⟨g, hg, rfl⟩
    exact analyze_of_ofTickets hg

theorem analyze_eq_error {e : GraphError} :
    analyze ts = .error e ↔ Graph.ofTickets ts = .error e := by
  constructor
  · intro h
    rcases bind_eq_error.mp h with h | ⟨g, hg, -⟩
    · exact h
    · rw [analyze_of_ofTickets hg] at h
      cases h
  · intro h
    rw [analyze, h]
    rfl

/-- **Analyzing tickets.** They are refused, for being invalid, exactly if two share an id or several are
of type setup. No circle is ever found among the others, and a setup ticket is first in the execution order,
in the closure of every other ticket, and first on the critical path. -/
theorem analyze_setup_first (ts : List Ticket) :
    ((∃ e, analyze ts = .error e) ↔
      ¬ (ts.map (·.id)).Nodup ∨ 1 < (ts.filter (·.isSetup)).length) ∧
    (∀ e, analyze ts = .error e →
      (∃ pre id post, ts.map (·.id) = pre ++ id :: post ∧ id ∈ pre ∧ e = .duplicateNode id) ∨
        e = .severalSetups (ts.filter (·.isSetup)).length) ∧
    ∀ a, analyze ts = .ok a →
      a.cyclic = false ∧ a.cycles = [] ∧ a.graph.Acyclic ∧
      ∀ t ∈ ts, t.isSetup →
        a.sorted.head? = some t.id ∧ (∀ u ∈ ts, u ≠ t → t.id ∈ a.graph.closure u.id) ∧
        a.criticalPath.head? = some t.id := by
  refine ⟨⟨?_, ?_⟩, ?_, ?_⟩
  · rintro ⟨e, he⟩
    rcases Graph.ofTickets_eq_error.mp (analyze_eq_error.mp he) with
      ⟨pre, id, post, hids, -, hid, -⟩ | ⟨-, hs, -⟩
    · left
      rw [hids, List.nodup_append]
      exact fun h => h.2.2 id hid id (by simp) rfl
    · exact Or.inr hs
  · intro h
    rcases ha : analyze ts with e | a
    · exact ⟨e, rfl⟩
    · obtain ⟨g, hg, -⟩ := analyze_eq_ok.mp ha
      obtain ⟨hnd, hs, -⟩ := Graph.ofTickets_eq_ok.mp hg
      exact (h.elim (fun h => h hnd) (fun h => Nat.not_lt.mpr hs h)).elim
  · intro e he
    rcases Graph.ofTickets_eq_error.mp (analyze_eq_error.mp he) with
      ⟨pre, id, post, hids, -, hid, rfl⟩ | ⟨-, -, rfl⟩
    · exact Or.inl ⟨pre, id, post, hids, hid, rfl⟩
    · exact Or.inr rfl
  · intro a ha
    obtain ⟨g, hg, rfl⟩ := analyze_eq_ok.mp ha
    have hwf := Graph.wellFormed_ofTickets hg
    have hac := Graph.acyclic_ofTickets hg
    have ho := Graph.executionOrder_postOrder hwf hac
    refine ⟨rfl, rfl, hac, fun t ht hts => ⟨?_, fun u hu hne => ?_, ?_⟩⟩
    · exact Graph.head?_sorted hg ht hts ho
    · exact Graph.mem_closure_setup hg ht hts hu fun hid => hne (Graph.eq_of_id_eq hg hu ht hid)
    · exact Graph.head?_criticalPath hg ht hts ho

/-- A ticket that touches one file. -/
def fileTicket (id : String) (type : TicketType) : Ticket :=
  { (default : Ticket) with id := id, type := type, files := [⟨"cart.ts", "holds the cart", .modify⟩] }

/-- A test of a feature, the feature, and the setup ticket. -/
def threeTickets : List Ticket :=
  [fileTicket "t" .test, fileTicket "f" .feature, fileTicket "s" .setup]

theorem analyze_setup_first_three :
    ∃ a, analyze threeTickets = .ok a ∧ a.sorted = ["s", "f", "t"] ∧ a.cyclic = false ∧
      "s" ∈ a.graph.closure "t" ∧ ∃ e, analyze (threeTickets ++ threeTickets) = .error e := by
  obtain ⟨g, hg⟩ : ∃ g, Graph.ofTickets threeTickets = .ok g :=
    ⟨_, Graph.ofTickets_eq_ok.mpr ⟨by decide, by decide, rfl⟩⟩
  have ha := analyze_of_ofTickets hg
  obtain ⟨hcyclic, -, -, hsetup⟩ := (analyze_setup_first threeTickets).2.2 _ ha
  have hne : fileTicket "t" .test ≠ fileTicket "s" .setup :=
    fun h => absurd (congrArg Ticket.id h) (by decide)
  have hclosure := (hsetup (fileTicket "s" .setup) (by simp [threeTickets]) rfl).2.1
    (fileTicket "t" .test) (by simp [threeTickets]) hne
  refine ⟨_, ha, ?_, hcyclic, hclosure, (analyze_setup_first _).1.mpr (Or.inr (by decide))⟩
  cases hg
  decide

end Backlog
