import Backlog.Proofs.Graph.Rules
import Backlog.Proofs.Text.Keywords

/-! # Which tickets are joined, and how

What one ticket has to do with another is a matter of these two alone (`Ticket.DependsOn`, `Ticket.kindTowards`).
The rules propose edges in turn, and of several proposals for one pair the first is accepted
(`find?_foldl_insert`); so what is accepted for a pair is what the first rule says that joins it
(`find?_proposed`).

* `rules_join_tickets`: the graph of some tickets has an edge for each pair of which one depends on the other, of
  the kind that this pair has, **whatever the order of the tickets**. -/

namespace Backlog

/-! ### What one ticket has to do with another -/

namespace Ticket

/-- The keywords of title and description. -/
def keywords (t : Ticket) : List String := Text.keywords (t.title ++ " " ++ t.description)

/-- Two tickets touch a common file. -/
def SharesFile (t u : Ticket) : Prop := ∃ p ∈ t.paths, p ∈ u.paths

/-- **Related tickets** touch a common file or have two keywords in common. -/
def IsRelated (t u : Ticket) : Prop :=
  t.SharesFile u ∨ ∃ k l, k ≠ l ∧ (k ∈ t.keywords ∧ k ∈ u.keywords) ∧ l ∈ t.keywords ∧ l ∈ u.keywords

/-- A ticket that changes what is there. -/
def Changes (t : Ticket) : Prop := t.type = .enhancement ∨ t.type = .refactor

/-- A ticket that goes with something else. -/
def Accompanies (t : Ticket) : Prop := t.type = .test ∨ t.type = .documentation ∨ t.type = .refactor

/-- **One ticket depends on another**: this one prepares the ground, or it is a feature, and the former changes a file
of it or accompanies it. -/
def DependsOn (t u : Ticket) : Prop :=
  u.type = .setup ∨ (u.type = .feature ∧ t.Changes ∧ t.SharesFile u) ∨
    (u.type = .feature ∧ t.Accompanies ∧ t.IsRelated u)

instance (t u : Ticket) : Decidable (t.SharesFile u) := inferInstanceAs (Decidable (∃ p ∈ t.paths, p ∈ u.paths))

instance (t : Ticket) : Decidable t.Changes :=
  inferInstanceAs (Decidable (t.type = .enhancement ∨ t.type = .refactor))

instance (t : Ticket) : Decidable t.Accompanies :=
  inferInstanceAs (Decidable (t.type = .test ∨ t.type = .documentation ∨ t.type = .refactor))

/-- **The kind of a dependency** of one ticket on another. -/
def kindTowards (t u : Ticket) : DependencyKind :=
  if u.type = .setup then .blocks
  else if t.Changes ∧ t.SharesFile u then .fileConflict
  else .related

end Ticket

namespace Facts

variable {t u : Ticket}

theorem sharesFile_ofTicket : (ofTicket t).sharesFile (ofTicket u) = true ↔ t.SharesFile u := by
  simp only [sharesFile, ofTicket, List.any_eq_true, List.contains_iff_mem, Ticket.SharesFile]

theorem isRelated_ofTicket : (ofTicket t).isRelated (ofTicket u) = true ↔ t.IsRelated u := by
  rw [isRelated, Bool.or_eq_true, sharesFile_ofTicket, decide_eq_true_eq]
  exact or_congr_right (Text.two_le_sharedKeywords_iff (Text.nodup_keywords _))

theorem amends_ofTicket : (ofTicket t).amends (ofTicket u) = true ↔ u.type = .feature ∧ t.Changes := by
  simp only [amends, ofTicket, Bool.and_eq_true, Bool.or_eq_true, beq_iff_eq, Ticket.Changes]

theorem accompanies_ofTicket :
    (ofTicket t).accompanies (ofTicket u) = true ↔ u.type = .feature ∧ t.Accompanies := by
  simp only [accompanies, ofTicket, Bool.and_eq_true, Bool.or_eq_true, beq_iff_eq, Ticket.Accompanies, or_assoc]

end Facts

instance (t u : Ticket) : Decidable (t.IsRelated u) := decidable_of_iff _ Facts.isRelated_ofTicket

instance (t u : Ticket) : Decidable (t.DependsOn u) :=
  inferInstanceAs (Decidable (u.type = .setup ∨ (u.type = .feature ∧ t.Changes ∧ t.SharesFile u) ∨
    (u.type = .feature ∧ t.Accompanies ∧ t.IsRelated u)))

namespace Graph

variable {ts us : List Ticket} {t u : Ticket} {g : Graph} {e : Dependency} {es : List Dependency} {x y : String}

/-! ### The first proposal is accepted -/

/-- Whether an edge joins two nodes. -/
def joinsNodes (x y : String) (e : Dependency) : Bool := e.ticket == x && e.dependsOn == y

theorem joinsNodes_iff : joinsNodes x y e = true ↔ e.ticket = x ∧ e.dependsOn = y := by
  simp only [joinsNodes, Bool.and_eq_true, beq_iff_eq]

theorem find?_insert (he : e.ticket ≠ e.dependsOn) :
    (g.insert e).1.accepted.find? (joinsNodes x y) =
      (g.accepted.find? (joinsNodes x y)).or ([e].find? (joinsNodes x y)) := by
  rw [insert_eq]
  split_ifs with h
  · -- the edge is passed over: if it joins the nodes, another does so already
    cases hfind : g.accepted.find? (joinsNodes x y) with
    | some f => rfl
    | none =>
      have hnot : joinsNodes x y e = false := by
        rw [← Bool.not_eq_true]
        intro hjoins
        obtain ⟨rfl, rfl⟩ := joinsNodes_iff.mp hjoins
        obtain ⟨f, hf, hends⟩ := edge_iff.mp (h.resolve_left he)
        exact List.find?_eq_none.mp hfind f hf (joinsNodes_iff.mpr hends)
      simp [hnot]
  · rw [List.find?_append]

/-- **Of the edges proposed for a pair the first is accepted.** -/
theorem find?_foldl_insert (h : ∀ e ∈ es, e.ticket ≠ e.dependsOn) (x y : String) :
    (es.foldl (fun g e => (g.insert e).1) g).accepted.find? (joinsNodes x y) =
      (g.accepted.find? (joinsNodes x y)).or (es.find? (joinsNodes x y)) := by
  induction es generalizing g with
  | nil => simp
  | cons e es ih =>
    obtain ⟨he, hes⟩ := List.forall_mem_cons.mp h
    have hsplit : e :: es = [e] ++ es := rfl
    rw [List.foldl_cons, ih hes, find?_insert he, Option.or_assoc, hsplit, List.find?_append]

/-- The edge between two nodes is the one that is found. -/
theorem WellFormed.mem_iff_find? (hg : g.WellFormed) :
    e ∈ g.accepted ↔ g.accepted.find? (joinsNodes e.ticket e.dependsOn) = some e := by
  constructor
  · intro he
    obtain ⟨f, hf⟩ := Option.isSome_iff_exists.mp
      (List.find?_isSome.mpr ⟨e, he, joinsNodes_iff.mpr ⟨rfl, rfl⟩⟩)
    have hends : SameEnds f e := joinsNodes_iff.mp (List.find?_some hf)
    have hsame : f = e := by
      by_contra hne
      have : Std.Symm fun e f : Dependency => ¬ SameEnds e f := ⟨fun _ _ h hs => h hs.symm⟩
      exact hg.single.forall (List.mem_of_find?_eq_some hf) he hne hends
    rw [hf, hsame]
  · exact List.mem_of_find?_eq_some

/-! ### What the rules propose -/

section Distinct
variable (hids : (ts.map (·.id)).Nodup)
include hids

theorem find?_ruleEdges (ht : t ∈ ts) (hu : u ∈ ts) (hne : t ≠ u) (kind : DependencyKind)
    (joins : Facts → Facts → Bool) :
    (ruleEdges (ts.map Facts.ofTicket) kind joins).find? (joinsNodes t.id u.id) =
      if joins (Facts.ofTicket t) (Facts.ofTicket u) then some ⟨t.id, u.id, kind⟩ else none := by
  have hid {v w : Ticket} (hv : v ∈ ts) (hw : w ∈ ts) (h : v.id = w.id) : v = w :=
    List.inj_on_of_nodup_map hids hv hw h
  split_ifs with hjoins
  · have hmem : ⟨t.id, u.id, kind⟩ ∈ ruleEdges (ts.map Facts.ofTicket) kind joins :=
      mem_ruleEdges.mpr ⟨_, List.mem_map_of_mem ht, _, List.mem_map_of_mem hu, fun h => hne (hid ht hu h), hjoins,
        rfl⟩
    have hself : joinsNodes t.id u.id ⟨t.id, u.id, kind⟩ = true := joinsNodes_iff.mpr ⟨rfl, rfl⟩
    obtain ⟨⟨x, y, k⟩, hf⟩ := Option.isSome_iff_exists.mp (List.find?_isSome.mpr ⟨_, hmem, hself⟩)
    obtain ⟨rfl, rfl⟩ : x = t.id ∧ y = u.id := joinsNodes_iff.mp (List.find?_some hf)
    obtain ⟨_, -, _, -, -, -, hkind⟩ := mem_ruleEdges.mp (List.mem_of_find?_eq_some hf)
    rw [hf, (Dependency.mk.inj hkind).2.2]
  · refine List.find?_eq_none.mpr fun e he hends => hjoins ?_
    obtain ⟨hx, hy⟩ := joinsNodes_iff.mp hends
    obtain ⟨a, ha, b, hb, -, hab, rfl⟩ := mem_ruleEdges.mp he
    obtain ⟨v, hv, rfl⟩ := List.mem_map.mp ha
    obtain ⟨w, hw, rfl⟩ := List.mem_map.mp hb
    rwa [hid hv ht hx, hid hw hu hy] at hab

/-- **What is proposed first** for two tickets is the dependency of the one on the other. -/
theorem find?_proposed (ht : t ∈ ts) (hu : u ∈ ts) (hne : t ≠ u) :
    (proposed (ts.map Facts.ofTicket)).find? (joinsNodes t.id u.id) = some e ↔
      t.DependsOn u ∧ e = ⟨t.id, u.id, t.kindTowards u⟩ := by
  have hrule := find?_ruleEdges hids ht hu hne
  have hsetup : ((Facts.ofTicket u).type == .setup) = true ↔ u.type = .setup := beq_iff_eq
  have hfound (kind) : some (⟨t.id, u.id, kind⟩ : Dependency) = some e ↔ e = ⟨t.id, u.id, kind⟩ := by
    rw [Option.some.injEq, eq_comm]
  rw [proposed, List.find?_append, List.find?_append, hrule, hrule, hrule]
  simp only [Bool.and_eq_true, Bool.or_eq_true, hsetup, Facts.sharesFile_ofTicket, Facts.amends_ofTicket,
    Facts.accompanies_ofTicket, Facts.isRelated_ofTicket, Ticket.DependsOn, Ticket.kindTowards]
  -- which rule comes first that joins the two
  by_cases h1 : u.type = .setup
  · simp only [h1, if_true, Option.some_or, hfound, true_or, true_and]
  by_cases h2 : t.SharesFile u ∧ u.type = .feature ∧ t.Changes
  · obtain ⟨hfile, htype, hchanges⟩ := h2
    simp [htype, hfile, hchanges, hfound]
  by_cases h3 : (u.type = .feature ∧ t.Accompanies) ∧ t.IsRelated u
  · obtain ⟨⟨htype, haccompanies⟩, hrelated⟩ := h3
    have hkind : ¬ (t.Changes ∧ t.SharesFile u) := fun h => h2 ⟨h.2, htype, h.1⟩
    have hrule2 : ¬ (t.SharesFile u ∧ t.Changes) := fun h => hkind h.symm
    simp [htype, haccompanies, hrelated, hkind, hrule2, hfound]
  · have hnone : ¬ (u.type = .feature ∧ t.Changes ∧ t.SharesFile u) := fun h => h2 ⟨h.2.2, h.1, h.2.1⟩
    rw [and_assoc] at h3
    simp [h1, h2, h3, hnone, and_assoc]

end Distinct

section Accepted
variable (h : ofTickets ts = .ok g)
include h

theorem mem_edges_ofTickets :
    e ∈ g.edges ↔ ∃ t ∈ ts, ∃ u ∈ ts, t ≠ u ∧ t.DependsOn u ∧ e = ⟨t.id, u.id, t.kindTowards u⟩ := by
  have hg := wellFormed_ofTickets h
  obtain ⟨hids, -, hbuilt⟩ := ofTickets_eq_ok.mp h
  have hfound : ∀ t ∈ ts, ∀ u ∈ ts, t ≠ u →
      (g.accepted.find? (joinsNodes t.id u.id) = some e ↔
        t.DependsOn u ∧ e = ⟨t.id, u.id, t.kindTowards u⟩) := by
    intro t ht u hu hne
    have hloopless : ∀ e ∈ proposed (ts.map Facts.ofTicket), e.ticket ≠ e.dependsOn := by
      intro e he
      obtain ⟨_, -, _, -, -, -, hne, -⟩ := exists_mem_proposed.mp ⟨e, he, rfl, rfl⟩
      exact hne
    rw [hbuilt, find?_foldl_insert hloopless]
    exact find?_proposed hids ht hu hne
  rw [hg.mem_edges]
  constructor
  · intro he
    obtain ⟨t, ht, u, hu, hx, hy, hne, -⟩ := (edge_ofTickets h).mp (edge_iff.mpr ⟨e, he, rfl, rfl⟩)
    have htu : t ≠ u := fun heq => hne (by rw [← hx, ← hy, heq])
    rw [hg.mem_iff_find?, ← hx, ← hy] at he
    exact ⟨t, ht, u, hu, htu, (hfound t ht u hu htu).mp he⟩
  · rintro ⟨t, ht, u, hu, hne, hdepends⟩
    exact List.mem_of_find?_eq_some ((hfound t ht u hu hne).mpr hdepends)

theorem nodup_edges_ofTickets : g.edges.Nodup :=
  (wellFormed_ofTickets h).pairwise_edges.imp ne_of_not_sameEnds

end Accepted

/-- **The edges of the rules.** Of any tickets that tell each other apart, at most one of which prepares the ground,
there is a graph: it joins a ticket to another if and only if the one depends on the other, once, by the kind of
that dependency; and the order of the tickets has no part in it. -/
theorem rules_join_tickets (ts : List Ticket) (hids : (ts.map (·.id)).Nodup)
    (hsetup : (ts.filter (·.isSetup)).length ≤ 1) :
    ∃ g, ofTickets ts = .ok g ∧
      (∀ e, e ∈ g.edges ↔
        ∃ t ∈ ts, ∃ u ∈ ts, t ≠ u ∧ t.DependsOn u ∧ e = ⟨t.id, u.id, t.kindTowards u⟩) ∧
      g.edges.Pairwise (fun e f => ¬ SameEnds e f) ∧
      ∀ us, us.Perm ts → ∃ g', ofTickets us = .ok g' ∧ g'.edges.Perm g.edges := by
  obtain ⟨g, hg⟩ : ∃ g, ofTickets ts = .ok g := ⟨_, ofTickets_eq_ok.mpr ⟨hids, hsetup, rfl⟩⟩
  refine ⟨g, hg, fun e => mem_edges_ofTickets hg, (wellFormed_ofTickets hg).pairwise_edges, ?_⟩
  intro us hperm
  have hids' : (us.map (·.id)).Nodup := (hperm.map _).nodup_iff.mpr hids
  have hsetup' : (us.filter (·.isSetup)).length ≤ 1 := by rwa [(hperm.filter _).length_eq]
  obtain ⟨g', hg'⟩ : ∃ g, ofTickets us = .ok g := ⟨_, ofTickets_eq_ok.mpr ⟨hids', hsetup', rfl⟩⟩
  refine ⟨g', hg', (List.perm_ext_iff_of_nodup (nodup_edges_ofTickets hg') (nodup_edges_ofTickets hg)).mpr ?_⟩
  intro e
  simp only [mem_edges_ofTickets hg', mem_edges_ofTickets hg, hperm.mem_iff]

/-- The work on a shopping cart: its tests and its code have words in common, its code is tidied up in the same
file. -/
def cartWork (id : String) (type : TicketType) (title path : String) : Ticket :=
  { (default : Ticket) with id, type, title, files := [⟨path, "", .modify⟩] }

theorem rules_join_tickets_cart :
    let tests := cartWork "tests" .test "Test the shopping cart" "tests/cart.rs"
    let cart := cartWork "cart" .feature "Shopping cart" "src/cart.rs"
    let base := cartWork "base" .setup "Prepare" "Cargo.toml"
    let tidy := cartWork "tidy" .refactor "Split the module" "src/cart.rs"
    ∃ g, ofTickets [tests, cart, base, tidy] = .ok g ∧
      ⟨"tests", "cart", .related⟩ ∈ g.edges ∧ ⟨"tidy", "cart", .fileConflict⟩ ∈ g.edges ∧
      ⟨"tests", "base", .blocks⟩ ∈ g.edges ∧ ⟨"tests", "tidy", .related⟩ ∉ g.edges ∧
      ∀ us, us.Perm [tests, cart, base, tidy] → ∃ g', ofTickets us = .ok g' ∧ g'.edges.Perm g.edges := by
  intro tests cart base tidy
  obtain ⟨g, hg, hmem, -, horder⟩ :=
    rules_join_tickets [tests, cart, base, tidy] (by decide) (by decide)
  have hrelated : tests.DependsOn cart ∧ tests.kindTowards cart = .related := by decide +kernel
  have hconflict : tidy.DependsOn cart ∧ tidy.kindTowards cart = .fileConflict := by decide +kernel
  have hblocks : tests.DependsOn base ∧ tests.kindTowards base = .blocks := by decide
  have hne {t u : Ticket} (h : t.id ≠ u.id) : t ≠ u := fun heq => h (heq ▸ rfl)
  refine ⟨g, hg, ?_, ?_, ?_, ?_, horder⟩
  · exact (hmem _).mpr ⟨tests, by simp, cart, by simp, hne (by decide), hrelated.1, by rw [hrelated.2]; rfl⟩
  · exact (hmem _).mpr ⟨tidy, by simp, cart, by simp, hne (by decide), hconflict.1, by rw [hconflict.2]; rfl⟩
  · exact (hmem _).mpr ⟨tests, by simp, base, by simp, hne (by decide), hblocks.1, by rw [hblocks.2]; rfl⟩
  · rw [hmem]
    rintro ⟨t, ht, u, hu, -, hdepends, heq⟩
    obtain ⟨hx, hy, -⟩ := Dependency.mk.inj heq
    have hids : ([tests, cart, base, tidy].map (·.id)).Nodup := by decide
    have ht' : tests = t := List.inj_on_of_nodup_map hids (by simp) ht hx
    have hu' : tidy = u := List.inj_on_of_nodup_map hids (by simp) hu hy
    rw [← ht', ← hu'] at hdepends
    exact absurd hdepends (by decide)

end Graph

end Backlog
