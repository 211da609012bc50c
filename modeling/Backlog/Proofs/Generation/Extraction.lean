import Backlog.Proofs.Feature.Grouping
import Backlog.Proofs.Generation.Success

/-! # Runs by the way features are found

Features of the file tree are refused for one reason alone, that a directory name has no word in it;
features that a model replies are refused for one reason alone, that two of them end up with one id. So
whether a run succeeds is told by the names of the directories (`heuristic_run_succeeds_iff`) or by the
ids in the reply (`inquiry_run_succeeds_iff`), and a run that succeeds has one ticket for each feature,
beside the setup ticket. Neither reason is ruled out by the extractors themselves: a directory may be
called by a hyphen, and a model may use a numbered id for a feature at another position. -/

namespace Backlog

variable {s : Store} {now : Instant} {mint : ℕ → String} {project description : String}
  {files : List String} {p : Planner} {b : Brief} {q : Project} {found : Option Findings} {plan : Plan}

/-- What a ticket was made for. -/
def Ticket.origin (t : Ticket) : TicketType × Option String := (t.type, t.feature)

/-- **An outcome from findings**: the setup ticket and a ticket for each feature, in some order. -/
structure Outcome.From (found : Option Findings) (o : Outcome) : Prop where
  error : o.error = none
  tickets : (o.tickets.map Ticket.origin).Perm
    ((.setup, none) :: (Planner.featuresOf found).map fun f => (.feature, some f.id))
  fallback : o.fallback = found.isNone

namespace Planner

/-! ### Runs with given findings -/

theorem origins_drafted (fs : List Feature) :
    (Synthesis.drafted project description now mint fs).map Ticket.origin =
      (.setup, none) :: fs.map fun f => (.feature, some f.id) := by
  rw [Synthesis.drafted, List.map_cons]
  refine congrArg _ (List.ext_getElem (by simp) fun i _ _ => ?_)
  simp [Synthesis.featureTicket, Ticket.origin]

theorem origins_of_plan (he : p.enricher.Rewords)
    (h : (p.plan now mint project description files).result = .ok plan) :
    (plan.commit.tickets.map Ticket.origin).Perm
        ((.setup, none) :: (featuresOf (p.extract files description).result).map
          fun f => (.feature, some f.id)) ∧
      plan.fallback = (p.extract files description).result.isNone := by
  obtain ⟨-, draft, hdraft, rfl⟩ := plan_eq_ok.mp h
  obtain ⟨ts, a, us, hts, -, -, hus, rfl⟩ := draft_eq_ok.mp hdraft
  obtain ⟨-, rfl⟩ := Synthesis.synthesize_eq_ok.mp hts
  refine ⟨?_, rfl⟩
  have hreworded : (enriched us (p.enricher us description).result).map Ticket.origin =
      us.map Ticket.origin := map_eq_of_map_bare (fun _ => rfl) (map_bare_enriched he us description)
  have hranked := (perm_of_rankAll hus).map Ticket.origin
  rw [List.map_map] at hranked
  rw [← origins_drafted]
  exact hreworded ▸ hranked

theorem exists_plan_of_run (hq : s.project? b.project = some q)
    (h : (p.run s now mint b).outcome.error = none) :
    ∃ plan, (p.plan now mint b.project (b.description.getD q.description) b.files).result = .ok plan ∧
      (p.run s now mint b).outcome.tickets = plan.commit.tickets ∧
      (p.run s now mint b).outcome.fallback = plan.fallback := by
  rw [run_of_project hq] at h ⊢
  dsimp only at h ⊢
  cases hplan : (p.plan now mint b.project (b.description.getD q.description) b.files).result with
  | error e =>
    rw [hplan] at h
    cases h
  | ok plan =>
    rw [hplan, Run.finish] at h
    cases hcommit : (s.putProject (Run.begun q now)).commit now plan.commit with
    | error e =>
      rw [hcommit] at h
      cases h
    | ok r =>
      rw [Run.finish, hcommit]
      exact ⟨plan, rfl, rfl, rfl⟩

/-- **How a run ends, given what is extracted**: it makes the tickets of acceptable features and refuses
others. -/
theorem outcome_of_extraction (hp : p.analyzer = analyze) (he : p.enricher.Standard) (hs : s.Fresh mint)
    (hq : s.project? b.project = some q) (hfiles : b.files ≠ []) {x : Extraction}
    (hx : p.extraction b.files (b.description.getD q.description) = x)
    (hhours : ∀ f ∈ featuresOf (findings? x), f.hours.isNaN = false) :
    (x.Acceptable ∧ (p.run s now mint b).outcome.From (findings? x)) ∨
      ∃ r, Synthesis.check [] (featuresOf (findings? x)) = .error r ∧
        (p.run s now mint b).outcome.error = some (.features r) := by
  subst hx
  rw [← result_extract] at hhours ⊢
  cases hcheck : Synthesis.check []
      (featuresOf (p.extract b.files (b.description.getD q.description)).result) with
  | ok _ =>
    have hgood : (p.extraction b.files (b.description.getD q.description)).Acceptable := by
      rw [acceptable_iff, ← result_extract, hcheck]
    obtain ⟨plan, hplan⟩ := exists_plan hp hs.injective hfiles hgood
    have hdone := error_run_of_plan hp he.rewords hs hq hhours hplan
    obtain ⟨plan', hplan', htickets, hfallback⟩ := exists_plan_of_run hq hdone
    obtain ⟨horigins, hnone⟩ := origins_of_plan he.rewords hplan'
    exact Or.inl ⟨hgood, hdone, htickets ▸ horigins, hfallback.trans hnone⟩
  | error r =>
    refine Or.inr ⟨r, rfl, error_run_of_plan_error hq ?_⟩
    exact plan_eq_error.mpr (Or.inr ⟨hfiles, draft_of_check_error hcheck⟩)

end Planner

/-! ### Features of the file tree -/

namespace Grouping

theorem acceptable_extract_iff :
    (Extraction.extracted (extract files)).Acceptable ↔ ∀ g ∈ groups files, ¬ Wordless g := by
  rw [← forall_named_extract_iff]
  constructor
  · intro h f hf
    exact (h.1 f hf).name
  · intro h
    exact ⟨fun f hf => ⟨h f hf, (of_mem_extract hf).1⟩, nodup_ids_extract files⟩

theorem exists_synthesize_extract_iff :
    (∃ ts, Synthesis.synthesize project description now mint (extract files).features = .ok ts) ↔
      ∀ g ∈ groups files, ¬ Wordless g := by
  have hcheck : Synthesis.check [] (extract files).features = .ok () ↔
      ∀ g ∈ groups files, ¬ Wordless g := by
    rw [← acceptable_extract_iff, Planner.acceptable_iff]
    rfl
  rw [← hcheck]
  constructor
  · rintro ⟨ts, hts⟩
    exact (Synthesis.synthesize_eq_ok.mp hts).1
  · intro hok
    exact ⟨_, Synthesis.synthesize_eq_ok.mpr ⟨hok, rfl⟩⟩

/-- **Why features of the tree are refused**: the first group without a word has no name. -/
theorem check_extract_eq_error {r : Synthesis.Refusal}
    (h : Synthesis.check [] (extract files).features = .error r) :
    ∃ before g after, groups files = before ++ g :: after ∧ (∀ g' ∈ before, ¬ Wordless g') ∧
      Wordless g ∧ r = .nameless (Feature.numberedId before.length) := by
  obtain ⟨fs, f, fs', hsplit, hok, hrefused⟩ := Synthesis.check_eq_error h
  have hmem : f ∈ (extract files).features := hsplit ▸ List.mem_append_cons_self
  have hnodup := nodup_ids_extract files
  rw [hsplit, List.map_append, List.map_cons, List.nodup_append] at hnodup
  rw [features_extract, List.mapIdx_eq_append_iff] at hsplit
  obtain ⟨before, rest, hgroups, hbefore, hrest⟩ := hsplit
  obtain ⟨g, after, rfl, rfl, -⟩ := List.mapIdx_eq_cons_iff.mp hrest
  have hwords : ∀ g' ∈ before, ¬ Wordless g' := by
    intro g' hg'
    obtain ⟨i, hi, rfl⟩ := List.getElem_of_mem hg'
    have hnamed := ((Synthesis.check_eq_ok.mp hok).1 (featureOf files i before[i])
      (hbefore ▸ List.mem_mapIdx.mpr ⟨i, hi, rfl⟩)).name
    rw [← isBlankText_title]
    exact Bool.eq_false_iff.mp hnamed
  refine ⟨before, g, after, hgroups, hwords, ?_⟩
  cases r with
  | nameless id =>
    obtain ⟨hblank, rfl⟩ := hrefused
    exact ⟨(isBlankText_title g).mp hblank, by simp [featureOf]⟩
  | complexityOutside id c =>
    obtain ⟨hlow, hhigh⟩ := (of_mem_extract hmem).1
    obtain ⟨hout, -, -⟩ := hrefused
    omega
  | duplicateId id =>
    rw [List.append_nil] at hrefused
    exact absurd rfl (hnodup.2.2 _ hrefused.1 _ List.mem_cons_self)

end Grouping

namespace Planner

open Grouping (groups Wordless)

/-- **When runs by the file tree succeed**: if every directory that makes a feature has a word in its
name. Otherwise the first that has none is reported. -/
theorem heuristic_run_succeeds_iff (hx : p.extractor = some .heuristic) (hp : p.analyzer = analyze)
    (he : p.enricher.Standard) (hs : s.Fresh mint) (hq : s.project? b.project = some q)
    (hfiles : b.files ≠ []) (now : Instant) :
    (∀ project description files, (∃ ts, Synthesis.synthesize project description now mint
        (Grouping.extract files).features = .ok ts) ↔ ∀ g ∈ groups files, ¬ Wordless g) ∧
    ((p.run s now mint b).outcome.error = none ↔ ∀ g ∈ groups b.files, ¬ Wordless g) ∧
    ((p.run s now mint b).outcome.error = none →
      (p.run s now mint b).outcome.From (some (Grouping.extract b.files))) ∧
    ∀ e, (p.run s now mint b).outcome.error = some e → ∃ before g after,
      groups b.files = before ++ g :: after ∧ (∀ g' ∈ before, ¬ Wordless g') ∧ Wordless g ∧
        e = .features (.nameless (Feature.numberedId before.length)) := by
  have hextraction : p.extraction b.files (b.description.getD q.description) =
      .extracted (Grouping.extract b.files) := by
    rw [extraction, hx]
    rfl
  refine ⟨fun _ _ _ => Grouping.exists_synthesize_extract_iff, ?_⟩
  rcases outcome_of_extraction hp he hs hq hfiles hextraction
    fun f hf => (Grouping.of_mem_extract hf).2 with ⟨hgood, hfrom⟩ | ⟨r, hcheck, herror⟩
  · refine ⟨⟨fun _ => Grouping.acceptable_extract_iff.mp hgood, fun _ => hfrom.error⟩, fun _ => hfrom,
      fun e he => ?_⟩
    rw [hfrom.error] at he
    cases he
  · obtain ⟨before, g, after, hgroups, hwords, hwordless, rfl⟩ := Grouping.check_extract_eq_error hcheck
    have hg : g ∈ groups b.files := hgroups ▸ List.mem_append_cons_self
    rw [herror]
    refine ⟨⟨fun h => (by cases h), fun h => absurd hwordless (h g hg)⟩, fun h => (by cases h),
      fun e he => ?_⟩
    cases he
    exact ⟨before, g, after, hgroups, hwords, hwordless, rfl⟩

/-- A planner that finds features by the file tree. -/
def byTree : Planner where
  extractor := some .heuristic

theorem heuristic_run_succeeds_iff_cart :
    (byTree.run oneProject default mintTally ⟨"p", ["cart/a.ts"], none⟩).outcome.error = none ∧
      Grouping.groups ["cart/a.ts"] = ["cart"] := by
  have hgroups : Grouping.groups ["cart/a.ts"] = ["cart"] := Grouping.groups_eq_singleton (by decide)
  have hq : oneProject.project? "p" = some oneProject.projects.head! := rfl
  refine ⟨(heuristic_run_succeeds_iff rfl rfl (Or.inl rfl)
    oneProject_fresh hq (by simp) default).2.1.mpr ?_, hgroups⟩
  rw [hgroups]
  decide

/-- A directory that is called by a hyphen makes a feature without a name, and the run fails. -/
theorem heuristic_run_of_hyphen :
    (Grouping.extract ["-/a.ts"]).features.map (·.name) = [""] ∧
    (byTree.run oneProject default mintTally ⟨"p", ["-/a.ts"], none⟩).outcome.error =
      some (.features (.nameless "feature-1")) := by
  have hgroups : Grouping.groups ["-/a.ts"] = ["-"] := Grouping.groups_eq_singleton (by decide)
  have hfeatures : (Grouping.extract ["-/a.ts"]).features = [Grouping.featureOf ["-/a.ts"] 0 "-"] := by
    rw [Grouping.features_extract, hgroups]
    rfl
  have hq : oneProject.project? "p" = some oneProject.projects.head! := rfl
  refine ⟨by rw [hfeatures]; rfl, error_run_of_plan_error hq ?_⟩
  refine plan_eq_error.mpr (Or.inr ⟨by simp, draft_of_check_error ?_⟩)
  show Synthesis.check [] (Grouping.extract ["-/a.ts"]).features = _
  rw [hfeatures]
  rfl

end Planner

/-! ### Features that a model replies -/

namespace Inquiry

variable {c : Llm.Client} {limit maxTokens : ℕ} {a : Findings}
  {reading : Except Llm.Failure Findings}

/-- What a model replies about a prototype. -/
def reply (c : Llm.Client) (limit maxTokens : ℕ) (files : List String) (description : String) :
    Except Llm.Failure Findings :=
  (c.ask Findings.read (request limit maxTokens files description)).result

theorem map_id_keepKnown (files : List String) (found : Findings) :
    (keepKnown files found).features.map (·.id) = found.features.map (·.id) := by
  rw [keepKnown, List.map_map]
  rfl

theorem of_mem_keepKnown {f : Feature} (h : f ∈ (keepKnown files a.normalize).features) :
    f.Sound ∧ f.hours.isNaN = false := by
  obtain ⟨g, hg, rfl⟩ := List.mem_map.mp h
  obtain ⟨hname, hrange, hnumber⟩ := Findings.of_mem_normalize hg
  exact ⟨⟨hname, hrange⟩, hnumber⟩

theorem findings_conclude : Planner.findings? (conclude files reading) =
    match reading with
    | .error _ => none
    | .ok a => if a.named = [] then none else some (keepKnown files a.normalize) := by
  cases reading with
  | error e => rfl
  | ok a =>
    have hempty : (keepKnown files a.normalize).features.isEmpty = true ↔ a.named = [] := by
      rw [List.isEmpty_iff, keepKnown, List.map_eq_nil_iff, Findings.features_normalize,
        List.mapIdx_eq_nil_iff]
    unfold conclude
    dsimp only
    by_cases hnone : a.named = []
    · rw [if_pos hnone, if_pos (hempty.mpr hnone)]
      rfl
    · rw [if_neg hnone, if_neg (mt hempty.mp hnone)]
      rfl

theorem check_keepKnown_eq_ok :
    Synthesis.check [] (keepKnown files a.normalize).features = .ok () ↔ a.Apart := by
  rw [Synthesis.check_eq_ok, map_id_keepKnown, Findings.nodup_ids_normalize_iff]
  exact ⟨fun h => h.2.2, fun h => ⟨fun f hf => (of_mem_keepKnown hf).1, by simp, h⟩⟩

/-- **Why features of a reply are refused**: two of them have one id. -/
theorem check_keepKnown_eq_error {r : Synthesis.Refusal}
    (h : Synthesis.check [] (keepKnown files a.normalize).features = .error r) :
    ∃ id, r = .duplicateId id := by
  obtain ⟨before, f, after, hsplit, -, hrefused⟩ := Synthesis.check_eq_error h
  have hmem : f ∈ (keepKnown files a.normalize).features := hsplit ▸ List.mem_append_cons_self
  have hsound := (of_mem_keepKnown hmem).1
  cases r with
  | nameless id =>
    have hname := hsound.name
    rw [hrefused.1] at hname
    cases hname
  | complexityOutside id c =>
    obtain ⟨hlow, hhigh⟩ := hsound.complexity
    obtain ⟨hout, -, -⟩ := hrefused
    omega
  | duplicateId id => exact ⟨id, rfl⟩

/-- **A conclusion is acceptable** unless the features of the reply do not keep apart. -/
theorem acceptable_conclude_iff :
    (conclude files reading).Acceptable ↔ ∀ a, reading = .ok a → a.Apart := by
  rw [Planner.acceptable_iff, findings_conclude]
  cases reading with
  | error e => simp [Planner.featuresOf, Synthesis.check]
  | ok a =>
    by_cases hnone : a.named = []
    · simp [hnone, Planner.featuresOf, Synthesis.check, Findings.apart_of_named_eq_nil hnone]
    · simp [hnone, Planner.featuresOf, check_keepKnown_eq_ok]

theorem hours_conclude {f : Feature}
    (h : f ∈ Planner.featuresOf (Planner.findings? (conclude files reading))) :
    f.hours.isNaN = false := by
  rw [findings_conclude] at h
  cases reading with
  | error e => cases h
  | ok a =>
    dsimp only at h
    split_ifs at h with hnone
    · cases h
    · exact (of_mem_keepKnown h).2

theorem check_conclude_eq_error {r : Synthesis.Refusal}
    (h : Synthesis.check [] (Planner.featuresOf (Planner.findings? (conclude files reading))) = .error r) :
    ∃ id, r = .duplicateId id := by
  rw [findings_conclude] at h
  cases reading with
  | error e => cases h
  | ok a =>
    dsimp only at h
    split_ifs at h with hnone
    · cases h
    · exact check_keepKnown_eq_error h

end Inquiry

namespace Planner

open Inquiry (keepKnown)

theorem extraction_inquiry {c : Llm.Client} {limit maxTokens : ℕ}
    (hx : p.extractor = some (Inquiry.extractor c limit maxTokens)) :
    p.extraction files description =
      Inquiry.conclude files (Inquiry.reply c limit maxTokens files description) := by
  rw [extraction, hx]
  rfl

/-- **When runs by a model succeed**: unless it replies features that do not keep apart, whatever else
it does. Then two of them have one id, and that is reported. A run that succeeds has one ticket for each
named feature of the reply, or the setup ticket alone if there is none or no reply that can be read. -/
theorem inquiry_run_succeeds_iff {c : Llm.Client} {limit maxTokens : ℕ}
    (hx : p.extractor = some (Inquiry.extractor c limit maxTokens)) (hp : p.analyzer = analyze)
    (he : p.enricher.Standard) (hs : s.Fresh mint) (hq : s.project? b.project = some q)
    (hfiles : b.files ≠ []) (now : Instant) :
    ((p.run s now mint b).outcome.error = none ↔
      ∀ a, Inquiry.reply c limit maxTokens b.files (b.description.getD q.description) = .ok a → a.Apart) ∧
    ((p.run s now mint b).outcome.error = none →
      (∃ a, Inquiry.reply c limit maxTokens b.files (b.description.getD q.description) = .ok a ∧
        a.named ≠ [] ∧ (p.run s now mint b).outcome.From (some (keepKnown b.files a.normalize))) ∨
      (∀ a, Inquiry.reply c limit maxTokens b.files (b.description.getD q.description) = .ok a →
        a.named = []) ∧ (p.run s now mint b).outcome.From none) ∧
    ∀ e, (p.run s now mint b).outcome.error = some e → ∃ id, e = .features (.duplicateId id) := by
  generalize hreply : Inquiry.reply c limit maxTokens b.files (b.description.getD q.description) = reply
  have hextraction : p.extraction b.files (b.description.getD q.description) =
      Inquiry.conclude b.files reply := by
    rw [extraction_inquiry hx, hreply]
  rcases outcome_of_extraction hp he hs hq hfiles hextraction fun f hf => Inquiry.hours_conclude hf with
    ⟨hgood, hfrom⟩ | ⟨r, hcheck, herror⟩
  · refine ⟨⟨fun _ => Inquiry.acceptable_conclude_iff.mp hgood, fun _ => hfrom.error⟩, fun _ => ?_,
      fun e he => ?_⟩
    · rw [Inquiry.findings_conclude] at hfrom
      cases reply with
      | error e => exact Or.inr ⟨fun a ha => (by cases ha), hfrom⟩
      | ok a =>
        dsimp only at hfrom
        split_ifs at hfrom with hnone
        · exact Or.inr ⟨fun a' ha => (by cases ha; exact hnone), hfrom⟩
        · exact Or.inl ⟨a, rfl, hnone, hfrom⟩
    · rw [hfrom.error] at he
      cases he
  · obtain ⟨id, rfl⟩ := Inquiry.check_conclude_eq_error hcheck
    rw [herror]
    refine ⟨⟨fun h => (by cases h), fun hapart => ?_⟩, fun h => (by cases h), fun e he => ?_⟩
    · have hgood : (Inquiry.conclude b.files reply).Acceptable :=
        Inquiry.acceptable_conclude_iff.mpr hapart
      rw [acceptable_iff, hcheck] at hgood
      cases hgood
    · cases he
      exact ⟨id, rfl⟩

/-- A model that replies one text whatever it is asked. -/
def replying (text : String) : Llm.Client where
  provider := "fake"
  complete := fun _ => .ok ⟨text, {}, "fake"⟩

/-- A planner that finds the features which a text lists. -/
def asking (text : String) : Planner where
  extractor := some (Inquiry.extractor (replying text) Inquiry.defaultLimit Inquiry.defaultMaxTokens)

theorem read_of_document {α : Type} {r : Json.Read α} {reply : Llm.Reply} {text : String} {document : Json}
    {a : α} (htext : Llm.unfence reply.text = text) (hdocument : Json.read text = ⟨document, false⟩)
    (ha : r document = .ok a) : reply.read r = .ok a := by
  rw [Llm.Reply.read, htext, Json.ofText, hdocument]
  simp only [ha, bind, Except.bind]
  rfl

theorem reply_replying {text : String} {document : Json} {a : Findings} {limit maxTokens : ℕ}
    (htext : Llm.unfence text = text) (hdocument : Json.read text = ⟨document, false⟩)
    (ha : Findings.read document = .ok a) :
    Inquiry.reply (replying text) limit maxTokens files description = .ok a := by
  have hread : (⟨text, {}, "fake"⟩ : Llm.Reply).read Findings.read = .ok a :=
    read_of_document htext hdocument ha
  have hcomplete : (replying text).completeJson Findings.read
      (Inquiry.request limit maxTokens files description) = .ok (a, {}) := by
    rw [Llm.Client.completeJson]
    simp only [replying, bind, Except.bind, hread]
    rfl
  rw [Inquiry.reply, Llm.Client.ask, hcomplete]

/-- A reply that names one feature. -/
def loginReply : String := "\x7b\"features\":[\x7b\"name\":\"Login\",\"complexity\":3\x7d]\x7d"

/-- A reply that gives the first of two features the number of the second. -/
def clashReply : String :=
  "\x7b\"features\":[\x7b\"id\":\"feature-2\",\"name\":\"Cart\",\"complexity\":3\x7d," ++
    "\x7b\"name\":\"Login\",\"complexity\":3\x7d]\x7d"

def loginDocument : Json :=
  .object [("name", .string "Login"), ("complexity", .number ⟨false, ['3'], [], none⟩)]

def cartDocument : Json :=
  .object [("id", .string "feature-2"), ("name", .string "Cart"),
    ("complexity", .number ⟨false, ['3'], [], none⟩)]

theorem inquiry_run_succeeds_iff_login :
    ((asking loginReply).run oneProject default mintTally ⟨"p", ["a.ts"], none⟩).outcome.error = none := by
  have hdocument : Json.read loginReply = ⟨.object [("features", .array [loginDocument])], false⟩ := by cbv
  have hreply : ∀ description, Inquiry.reply (replying loginReply) Inquiry.defaultLimit
      Inquiry.defaultMaxTokens ["a.ts"] description =
        .ok ⟨[⟨"", "Login", "", 3, [], false, 0⟩], [], none⟩ :=
    fun _ => reply_replying (by cbv) hdocument rfl
  have hq : oneProject.project? "p" = some oneProject.projects.head! := rfl
  refine (inquiry_run_succeeds_iff rfl rfl (Or.inl rfl) oneProject_fresh hq (by simp) default).1.mpr ?_
  intro a ha
  cases (hreply _).symm.trans ha
  exact Findings.nodup_ids_normalize_iff.mp (by decide)

/-- A feature without an id is given the number of its position, though another feature came with it,
and the run fails. -/
theorem inquiry_run_of_clash :
    (∃ a, Inquiry.reply (replying clashReply) Inquiry.defaultLimit Inquiry.defaultMaxTokens ["a.ts"]
        "sells books" = .ok a ∧
      (a.features.map (·.id)).Pairwise fun x y => Text.isBlankText x = false → x ≠ y) ∧
    ((asking clashReply).run oneProject default mintTally ⟨"p", ["a.ts"], none⟩).outcome.error =
      some (.features (.duplicateId "feature-2")) := by
  have hdocument : Json.read clashReply =
      ⟨.object [("features", .array [cartDocument, loginDocument])], false⟩ := by cbv
  have hreply : ∀ description, Inquiry.reply (replying clashReply) Inquiry.defaultLimit
      Inquiry.defaultMaxTokens ["a.ts"] description = .ok ⟨[⟨"feature-2", "Cart", "", 3, [], false, 0⟩,
        ⟨"", "Login", "", 3, [], false, 0⟩], [], none⟩ :=
    fun _ => reply_replying (by cbv) hdocument rfl
  have hq : oneProject.project? "p" = some oneProject.projects.head! := rfl
  refine ⟨⟨_, hreply _, by decide⟩, error_run_of_plan_error hq ?_⟩
  refine plan_eq_error.mpr (Or.inr ⟨by simp, draft_of_check_error ?_⟩)
  rw [result_extract, extraction_inquiry rfl, hreply, Inquiry.findings_conclude]
  rfl

end Planner

end Backlog
