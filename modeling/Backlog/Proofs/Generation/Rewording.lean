import Backlog.Proofs.Generation.Extraction
import Backlog.Proofs.Llm.Client

/-! # What a reply does to the texts of tickets

A ticket takes its texts from one entry of the reply, or from none: the last entry for its id, unless an
earlier ticket has this id too (`entryFor`, `getElem?_merge`). An entry gives its description if this is not
blank, and adds those criteria to the list that are neither blank nor there (`Addition`). The list grows as it
goes, so what was added is described together with the list that it was added to: one criterion keeps the
description (`Addition.keep`, `Addition.add`), and so do all of them (`addition_foldl`).

All this together is what an enricher that asks a model does to tickets, whatever the model replies
(`texts_of_reply`). -/

namespace Backlog.Enrichment

open Backlog.Text

variable {rs rs' : List Rewording} {ts us : List Ticket} {t u : Ticket} {cs added : List Criterion}
  {text : String} {texts : List String}

/-! ### Criteria -/

/-- **Criteria that texts add to others**: uncompleted, in the order of the texts, and each different from all
criteria before it; no text is left out but blank ones. -/
structure Addition (texts : List String) (cs added : List Criterion) : Prop where
  fresh : ∀ c ∈ added, c.completed = false ∧ isBlankText c.text = false ∧ c.text ∈ texts
  new : ∀ c ∈ added, ∀ b ∈ cs, b.text ≠ c.text
  distinct : added.Pairwise fun b c => b.text ≠ c.text
  order : (added.map (·.text)).Sublist texts
  complete : ∀ text ∈ texts, isBlankText text = false → ∃ c ∈ cs ++ added, c.text = text

theorem addition_nil (cs : List Criterion) : Addition [] cs [] where
  fresh := by simp
  new := by simp
  distinct := List.Pairwise.nil
  order := by simp
  complete := by simp

theorem addCriterion_cases (cs : List Criterion) (text : String) :
    (addCriterion cs text = cs ∧ (isBlankText text = false → ∃ c ∈ cs, c.text = text)) ∨
      (addCriterion cs text = cs ++ [⟨text, false⟩] ∧ isBlankText text = false ∧
        ∀ c ∈ cs, c.text ≠ text) := by
  unfold addCriterion
  split_ifs with h
  · refine Or.inl ⟨rfl, fun hblank => ?_⟩
    simpa [hblank] using h
  · refine Or.inr ⟨rfl, ?_⟩
    simpa using h

theorem Addition.keep (h : Addition texts cs added)
    (hthere : isBlankText text = false → ∃ c ∈ cs, c.text = text) : Addition (text :: texts) cs added where
  fresh := fun c hc =>
    ⟨(h.fresh c hc).1, (h.fresh c hc).2.1, List.mem_cons_of_mem text (h.fresh c hc).2.2⟩
  new := h.new
  distinct := h.distinct
  order := h.order.cons text
  complete := by
    intro t ht hblank
    rcases List.mem_cons.mp ht with rfl | ht
    · obtain ⟨c, hc, htext⟩ := hthere hblank
      exact ⟨c, List.mem_append_left added hc, htext⟩
    · exact h.complete t ht hblank

theorem Addition.add (h : Addition texts (cs ++ [⟨text, false⟩]) added)
    (hblank : isBlankText text = false) (hnew : ∀ c ∈ cs, c.text ≠ text) :
    Addition (text :: texts) cs (⟨text, false⟩ :: added) where
  fresh := by
    intro c hc
    rcases List.mem_cons.mp hc with rfl | hc
    · exact ⟨rfl, hblank, List.mem_cons_self⟩
    · obtain ⟨hopen, hfull, hmem⟩ := h.fresh c hc
      exact ⟨hopen, hfull, List.mem_cons_of_mem text hmem⟩
  new := by
    intro c hc b hb
    rcases List.mem_cons.mp hc with rfl | hc
    · exact hnew b hb
    · exact h.new c hc b (List.mem_append_left _ hb)
  distinct := List.pairwise_cons.mpr ⟨fun c hc => h.new c hc ⟨text, false⟩ (by simp), h.distinct⟩
  order := h.order.cons_cons text
  complete := by
    intro t ht hfull
    rcases List.mem_cons.mp ht with rfl | ht
    · exact ⟨⟨t, false⟩, by simp, rfl⟩
    · simpa only [List.append_assoc, List.singleton_append] using h.complete t ht hfull

/-- **Texts are added one by one**, each to the list that those before it made. -/
theorem addition_foldl : ∀ (texts : List String) (cs : List Criterion),
    ∃ added, texts.foldl addCriterion cs = cs ++ added ∧ Addition texts cs added
  | [], cs => ⟨[], by simp, addition_nil cs⟩
  | text :: texts, cs => by
    obtain ⟨added, hadded, h⟩ := addition_foldl texts (addCriterion cs text)
    rw [List.foldl_cons, hadded]
    rcases addCriterion_cases cs text with ⟨hsame, hthere⟩ | ⟨hmore, hblank, hnew⟩
    · rw [hsame] at h ⊢
      exact ⟨added, rfl, h.keep hthere⟩
    · rw [hmore] at h ⊢
      exact ⟨⟨text, false⟩ :: added, by simp, h.add hblank hnew⟩

/-! ### One ticket -/

/-- The ticket with the texts of an entry, if there is one. -/
def applied (e : Option Rewording) (t : Ticket) : Ticket := e.elim t fun r => r.apply t

/-- **A ticket that takes its texts from an entry**, if there is one: a description that is not blank in place
of its own, and criteria behind its own. -/
structure Reworded (e : Option Rewording) (t u : Ticket) : Prop where
  bare : u.bare = t.bare
  description : u.description = t.description ∨
    ∃ r, e = some r ∧ r.description = some u.description ∧ isBlankText u.description = false
  described : ∀ r d, e = some r → r.description = some d → isBlankText d = false → u.description = d
  criteria : ∃ added, u.criteria = t.criteria ++ added ∧
    Addition (e.elim [] (·.criteria)) t.criteria added

theorem reworded_applied (e : Option Rewording) (t : Ticket) : Reworded e t (applied e t) := by
  cases e with
  | none =>
    exact ⟨rfl, Or.inl rfl, fun r d hr _ _ => (Option.some_ne_none r hr.symm).elim,
      [], by simp [applied], addition_nil _⟩
  | some r =>
    refine ⟨rfl, ?_, ?_, addition_foldl r.criteria t.criteria⟩
    · cases hd : r.description.filter fun d => !isBlankText d with
      | none =>
        left
        simp [applied, Rewording.apply, hd]
      | some d =>
        right
        obtain ⟨hsome, hfull⟩ := Option.filter_eq_some_iff.mp hd
        have hu : (applied (some r) t).description = d := by simp [applied, Rewording.apply, hd]
        exact ⟨r, rfl, by rw [hu, hsome], by simpa [hu] using hfull⟩
    · intro r' d hr' hd hfull
      cases hr'
      simp [applied, Rewording.apply, hd, Option.filter_some, hfull]

/-! ### All tickets -/

/-- The entries for an id. -/
def entries (rs : List Rewording) (id : String) : List Rewording := rs.filter (·.id == id)

/-- The entry that a ticket behind some others takes its texts from. -/
def entryFor (rs : List Rewording) (before : List Ticket) (t : Ticket) : Option Rewording :=
  if t.id ∈ before.map (·.id) then none else (entries rs t.id).getLast?

theorem mem_of_entryFor {before : List Ticket} {r : Rewording} (h : entryFor rs before t = some r) :
    r ∈ rs ∧ r.id = t.id := by
  unfold entryFor at h
  split_ifs at h
  simpa [entries] using List.mem_of_getLast? h

theorem merge_cons (rs : List Rewording) (t : Ticket) (ts : List Ticket) :
    merge rs (t :: ts) = applied (entryFor rs [] t) t :: merge (rs.filter (·.id != t.id)) ts := by
  have hentry : entryFor rs [] t = (rs.filter (·.id == t.id)).getLast? := if_neg (by simp)
  rw [merge, hentry]
  cases hlast : (rs.filter (·.id == t.id)).getLast? with
  | some r => rfl
  | none =>
    -- Without an entry for the ticket there is nothing to take away.
    have hnone : ∀ r ∈ rs, (r.id != t.id) = true := by
      simpa [List.getLast?_eq_none_iff, List.filter_eq_nil_iff] using hlast
    rw [List.filter_eq_self.mpr hnone]
    rfl

theorem entries_filter_ne (rs : List Rewording) {id id' : String} :
    entries (rs.filter (·.id != id)) id' = if id' = id then [] else entries rs id' := by
  rw [entries, List.filter_filter]
  split_ifs with h
  · rw [List.filter_eq_nil_iff]
    intro r _
    simp [h]
  · refine List.filter_congr fun r _ => ?_
    by_cases hr : r.id = id' <;> simp [hr, h]

/-- What a ticket took is not there for tickets behind it. -/
theorem entryFor_filter_ne (rs : List Rewording) (t : Ticket) (before : List Ticket) (u : Ticket) :
    entryFor (rs.filter (·.id != t.id)) before u = entryFor rs (t :: before) u := by
  unfold entryFor
  rw [entries_filter_ne]
  by_cases hid : u.id = t.id
  · simp [hid]
  · simp [hid]

/-- **The ticket at a position** takes its texts from the entry for it. -/
theorem getElem?_merge : ∀ (rs : List Rewording) (ts : List Ticket) (n : ℕ),
    (merge rs ts)[n]? = ts[n]?.map fun t => applied (entryFor rs (ts.take n) t) t
  | _, [], n => by simp [merge]
  | rs, t :: ts, 0 => by simp [merge_cons]
  | rs, t :: ts, n + 1 => by
    rw [merge_cons, List.getElem?_cons_succ, List.getElem?_cons_succ, getElem?_merge, List.take_succ_cons]
    simp only [entryFor_filter_ne]

/-- The entries that are for some ticket. -/
def known (rs : List Rewording) (ts : List Ticket) : List Rewording :=
  rs.filter fun r => (ts.map (·.id)).contains r.id

theorem entries_known (ht : t ∈ ts) : entries (known rs ts) t.id = entries rs t.id := by
  rw [entries, known, List.filter_filter]
  refine List.filter_congr fun r _ => ?_
  by_cases hr : r.id = t.id
  · have hmem : t.id ∈ ts.map (·.id) := List.mem_map_of_mem ht
    simp [hr, hmem]
  · simp [hr]

/-- **Entries that are for no ticket have no effect.** -/
theorem merge_eq_of_known (h : known rs' ts = known rs ts) : merge rs' ts = merge rs ts := by
  refine List.ext_getElem? fun n => ?_
  rw [getElem?_merge, getElem?_merge]
  cases ht : ts[n]? with
  | none => rfl
  | some t =>
    have hmem : t ∈ ts := List.mem_of_getElem? ht
    have hentries : entries rs' t.id = entries rs t.id := by
      rw [← entries_known hmem, h, entries_known hmem]
    rw [Option.map_some, Option.map_some, entryFor, entryFor, hentries]

theorem merge_of_known_eq_nil (h : known rs ts = []) : merge rs ts = ts := by
  have hnone : known rs ts = known [] ts := h
  rw [merge_eq_of_known hnone]
  refine List.ext_getElem? fun n => ?_
  rw [getElem?_merge]
  have hnone : ∀ before t, entryFor [] before t = none := fun before t => by simp [entryFor, entries]
  simp [hnone, applied]

/-! ### A reply -/

theorem result_enricher {c : Llm.Client} {maxTokens : ℕ} {description : String} :
    (enricher c maxTokens ts description).result = .ok us ↔
      ∃ reply rs, c.complete (request maxTokens ts description) = .ok reply ∧
        reply.read readReply = .ok rs ∧ rs ≠ [] ∧ us = merge rs ts := by
  simp only [enricher, conclude_eq_ok, Llm.Client.ask_eq_ok]
  constructor
  · rintro ⟨rs, ⟨reply, hreply, hrs⟩, hne, rfl⟩
    exact ⟨reply, rs, hreply, hrs, hne, rfl⟩
  · rintro ⟨reply, rs, hreply, hrs, hne, rfl⟩
    exact ⟨rs, ⟨reply, hreply, hrs⟩, hne, rfl⟩

/-- **What asking a model does to tickets**, whatever it replies: they are the same in the same order but for
their texts, so that the result is used; each takes its texts from one entry of the reply for its id, if there
is one; and a reply with other entries for unknown ids has the same result. -/
theorem texts_of_reply {c : Llm.Client} {maxTokens : ℕ} {description : String}
    (h : (enricher c maxTokens ts description).result = .ok us) :
    ∃ reply rs, c.complete (request maxTokens ts description) = .ok reply ∧
      reply.read readReply = .ok rs ∧
      us.map Ticket.bare = ts.map Ticket.bare ∧ preservesStructure ts us = true ∧
      Planner.enriched ts (.ok us) = us ∧
      (∀ n t u, ts[n]? = some t → us[n]? = some u →
        Reworded (entryFor rs (ts.take n) t) t u ∧
          ∀ r, entryFor rs (ts.take n) t = some r → r ∈ rs ∧ r.id = t.id) ∧
      (known rs ts = [] → us = ts) ∧
      ∀ c' reply' rs', c'.complete (request maxTokens ts description) = .ok reply' →
        reply'.read readReply = .ok rs' → rs' ≠ [] → known rs' ts = known rs ts →
          (enricher c' maxTokens ts description).result = .ok us := by
  obtain ⟨reply, rs, hreply, hrs, -, rfl⟩ := result_enricher.mp h
  have hbare := map_bare_merge rs ts
  have hframe : (merge rs ts).map Ticket.frame = ts.map Ticket.frame :=
    map_eq_of_map_bare (fun _ => rfl) hbare
  have hpreserves := preservesStructure_iff.mpr hframe
  refine ⟨reply, rs, hreply, hrs, hbare, hpreserves, if_pos hpreserves, ?_, merge_of_known_eq_nil, ?_⟩
  · intro n t u ht hu
    rw [getElem?_merge, ht, Option.map_some, Option.some.injEq] at hu
    exact ⟨hu ▸ reworded_applied _ t, fun r hr => mem_of_entryFor hr⟩
  · intro c' reply' rs' hreply' hrs' hne hknown
    exact result_enricher.mpr ⟨reply', rs', hreply', hrs', hne, (merge_eq_of_known hknown).symm⟩

/-- Two tickets as they are drafted: the second has a criterion already. -/
def shopTickets : List Ticket := [
  { (default : Ticket) with id := "t0", title := "Setup", description := "old", type := .setup },
  { (default : Ticket) with
    id := "t1", title := "Login", description := "old", type := .feature, criteria := [⟨"Works", false⟩] }]

/-- A reply with a criterion that is there, one that is not, and an entry for no ticket. -/
def shopReply : String :=
  "\x7b\"tickets\":[\x7b\"id\":\"t1\",\"description\":\"Users sign in\"," ++
    "\"acceptanceCriteria\":[\"Works\",\"Refuses\"]\x7d,\x7b\"id\":\"ghost\",\"description\":\"no\"\x7d]\x7d"

def shopEntries : List Rewording :=
  [⟨"t1", some "Users sign in", ["Works", "Refuses"]⟩, ⟨"ghost", some "no", []⟩]

def shopDocument : Json :=
  .object [("tickets", .array [
    .object [("id", .string "t1"), ("description", .string "Users sign in"),
      ("acceptanceCriteria", .array [.string "Works", .string "Refuses"])],
    .object [("id", .string "ghost"), ("description", .string "no")]])]

theorem read_shopReply : (⟨shopReply, {}, "fake"⟩ : Llm.Reply).read readReply = .ok shopEntries := by
  have htext : Llm.unfence shopReply = shopReply := by cbv
  have hdocument : Json.read shopReply = ⟨shopDocument, false⟩ := by cbv
  exact Planner.read_of_document htext hdocument rfl

/-- A ticket keeps what it has, and the entry for no ticket is not used. -/
theorem texts_of_reply_shop :
    ∃ us, (enricher (Planner.replying shopReply) 4096 shopTickets "Shop").result = .ok us ∧
      preservesStructure shopTickets us = true := by
  have hresult : (enricher (Planner.replying shopReply) 4096 shopTickets "Shop").result =
      .ok (merge shopEntries shopTickets) :=
    result_enricher.mpr ⟨_, shopEntries, rfl, read_shopReply, by simp [shopEntries], rfl⟩
  obtain ⟨-, -, -, -, -, hpreserves, -⟩ := texts_of_reply hresult
  exact ⟨_, hresult, hpreserves⟩

example : (merge shopEntries shopTickets).map (·.criteria) =
    [[], [⟨"Works", false⟩, ⟨"Refuses", false⟩]] := by decide

end Backlog.Enrichment
