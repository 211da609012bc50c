import Backlog.Proofs.Generation.Extraction
import Backlog.Proofs.Llm.Client

/-! # What is kept of a reply

Normal form does nothing to what is in normal form (`Findings.normalize_normalize`): a name that is kept is not
blank, so no feature is dropped the second time and each stays at its position, where its id is no longer blank,
its complexity is in range and its hours are an amount.

An inquiry makes one request, and what it comes to depends on nothing but the answer. It is made of the reply
feature by feature (`Feature.Kept`, `Inquiry.Keeps`), or it has failed because there is none
(`extracts_of_reply`). -/

namespace Backlog

variable {f : Feature} {a found : Findings} {files : List String} {i : ℕ}

/-! ### Normal form, the second time -/

theorem clampComplexity_of_mem {c : ℕ} (hlow : 1 ≤ c) (hhigh : c ≤ 10) : clampComplexity c = c := by
  unfold clampComplexity
  omega

theorem clampComplexity_clampComplexity (c : ℕ) :
    clampComplexity (clampComplexity c) = clampComplexity c := by
  obtain ⟨hlow, hhigh⟩ := clampComplexity_mem c
  exact clampComplexity_of_mem hlow hhigh

theorem cleanHours_cleanHours (h : Float) : cleanHours (cleanHours h) = cleanHours h := by
  by_cases hbad : (!h.isFinite || h < 0) = true
  · have hzero : cleanHours h = 0 := if_pos hbad
    have hamount : cleanHours 0 = 0 := by decide
    rw [hzero, hamount]
  · have hsame : cleanHours h = h := if_neg hbad
    rw [hsame, hsame]

theorem Feature.isBlankText_id_normalize (i : ℕ) (f : Feature) :
    Text.isBlankText (f.normalize i).id = false := by
  unfold normalize
  dsimp only
  split_ifs with hblank
  · exact isBlankText_numberedId i
  · simpa using hblank

theorem Feature.normalize_normalize (i : ℕ) (f : Feature) :
    (f.normalize i).normalize i = f.normalize i := by
  have hid := isBlankText_id_normalize i f
  have hstays : ((f.normalize i).normalize i).id = (f.normalize i).id := if_neg (by simp [hid])
  have hcomplexity := clampComplexity_clampComplexity f.complexity
  have hhours := cleanHours_cleanHours f.hours
  simp only [normalize] at hstays ⊢
  rw [hstays, hcomplexity, hhours]

theorem Findings.named_normalize (a : Findings) : a.normalize.named = a.normalize.features := by
  refine List.filter_eq_self.mpr fun f hf => ?_
  simp [(of_mem_normalize hf).1]

/-- **Normal form does nothing the second time.** -/
theorem Findings.normalize_normalize (a : Findings) : a.normalize.normalize = a.normalize := by
  have hfeatures : a.normalize.normalize.features = a.normalize.features := by
    rw [features_normalize, named_normalize]
    refine List.ext_getElem (by simp) fun i _ _ => ?_
    simp [features_normalize, Feature.normalize_normalize]
  have hcomplexity : a.normalize.normalize.complexity = a.normalize.complexity := by
    simp only [normalize, Option.map_map]
    cases a.complexity with
    | none => rfl
    | some c => exact congrArg some (clampComplexity_clampComplexity c)
  calc a.normalize.normalize
      = ⟨a.normalize.normalize.features, a.normalize.techStack, a.normalize.normalize.complexity⟩ := rfl
    _ = ⟨a.normalize.features, a.normalize.techStack, a.normalize.complexity⟩ := by
        rw [hfeatures, hcomplexity]
    _ = a.normalize := rfl

/-! ### Feature by feature -/

/-- **What is kept of a feature**, given its position among those with a name: an id that it came with, or the
number of its position; its complexity moved into range; and of its files those that the manifest has. -/
structure Feature.Kept (files : List String) (i : ℕ) (given kept : Feature) : Prop where
  name : kept.name = given.name ∧ Text.isBlankText given.name = false
  description : kept.description = given.description
  userFacing : kept.userFacing = given.userFacing
  id : Text.isBlankText kept.id = false
  givenId : Text.isBlankText given.id = false → kept.id = given.id
  numberedId : Text.isBlankText given.id = true → kept.id = Feature.numberedId i
  complexity : 1 ≤ kept.complexity ∧ kept.complexity ≤ 10
  givenComplexity : 1 ≤ given.complexity → given.complexity ≤ 10 → kept.complexity = given.complexity
  files : kept.files = given.files.filter (· ∈ files)

/-- **What an inquiry keeps of a reply**: one feature for each that has a name, in the order of the reply, and
at least one. -/
structure Inquiry.Keeps (files : List String) (a found : Findings) : Prop where
  nonempty : found.features ≠ []
  length : found.features.length = a.named.length
  feature : ∀ i (given kept : Feature), a.named[i]? = some given → found.features[i]? = some kept →
    given.Kept files i kept
  techStack : found.techStack = a.techStack
  complexity : found.complexity = a.complexity.map clampComplexity

theorem Feature.kept_normalize {given : Feature} (hname : Text.isBlankText given.name = false) :
    given.Kept files i { given.normalize i with files := given.files.filter files.contains } where
  name := ⟨rfl, hname⟩
  description := rfl
  userFacing := rfl
  id := isBlankText_id_normalize i given
  givenId hid := if_neg (by simp [hid])
  numberedId hid := if_pos hid
  complexity := clampComplexity_mem _
  givenComplexity := clampComplexity_of_mem
  files := List.filter_congr fun x _ => List.contains_eq_mem x files

namespace Inquiry

variable {c : Llm.Client} {limit maxTokens : ℕ} {description : String}
  {reading : Except Llm.Failure Findings}

theorem keeps_keepKnown (hnamed : a.named ≠ []) : Keeps files a (keepKnown files a.normalize) where
  nonempty := by
    rw [keepKnown, Findings.features_normalize]
    simpa using hnamed
  length := by simp [keepKnown, Findings.features_normalize]
  feature i given kept hgiven hkept := by
    have hname : Text.isBlankText given.name = false := by
      have hmem := (List.mem_filter.mp (List.mem_of_getElem? hgiven)).2
      simpa using hmem
    rw [keepKnown, Findings.features_normalize, List.getElem?_map, List.getElem?_mapIdx, hgiven] at hkept
    cases hkept
    exact Feature.kept_normalize hname
  techStack := rfl
  complexity := rfl

/-! ### What an inquiry comes to -/

theorem findings?_eq_some {x : Extraction} : Planner.findings? x = some found ↔ x = .extracted found := by
  cases x <;> simp [Planner.findings?]

theorem conclude_eq_extracted : conclude files reading = .extracted found ↔
    ∃ a, reading = .ok a ∧ a.named ≠ [] ∧ found = keepKnown files a.normalize := by
  rw [← findings?_eq_some, findings_conclude]
  cases reading with
  | error e => simp
  | ok a =>
    have hsame : ∀ b, (Except.ok a : Except Llm.Failure Findings) = .ok b ↔ b = a :=
      fun b => ⟨fun h => by cases h; rfl, fun h => by rw [h]⟩
    by_cases hnone : a.named = []
    · simp [hsame, hnone]
    · simp [hsame, hnone, eq_comm (a := found)]

theorem extracted_or_failed_conclude (files : List String) (reading : Except Llm.Failure Findings) :
    (∃ found, conclude files reading = .extracted found) ∨
      ∃ reason, conclude files reading = .failed reason := by
  unfold conclude
  cases reading with
  | error e => exact Or.inr ⟨_, rfl⟩
  | ok a =>
    dsimp only
    split_ifs
    · exact Or.inr ⟨_, rfl⟩
    · exact Or.inl ⟨_, rfl⟩

theorem result_extractor : (extractor c limit maxTokens files description).result = .extracted found ↔
    ∃ reply a, c.complete (request limit maxTokens files description) = .ok reply ∧
      reply.read Findings.read = .ok a ∧ a.named ≠ [] ∧ found = keepKnown files a.normalize := by
  simp only [extractor, conclude_eq_extracted, Llm.Client.ask_eq_ok]
  constructor
  · rintro ⟨a, ⟨reply, hreply, ha⟩, hnamed, rfl⟩
    exact ⟨reply, a, hreply, ha, hnamed, rfl⟩
  · rintro ⟨reply, a, hreply, ha, hnamed, rfl⟩
    exact ⟨a, ⟨reply, hreply, ha⟩, hnamed, rfl⟩

/-- **What asking a model for features comes to**, whatever it does: one request is made, and nothing but its
answer matters; features are extracted, or else the inquiry has failed. They are extracted if the reply can be
read and has a feature with a name, and then they are what is kept of the reply. Normal form does nothing the
second time. -/
theorem extracts_of_reply (c : Llm.Client) (limit maxTokens : ℕ) (files : List String)
    (description : String) :
    (extractor c limit maxTokens files description).requests =
        [request limit maxTokens files description] ∧
    (∀ c' : Llm.Client, c'.complete (request limit maxTokens files description) =
        c.complete (request limit maxTokens files description) →
      (extractor c' limit maxTokens files description).result =
        (extractor c limit maxTokens files description).result) ∧
    ((∃ found, (extractor c limit maxTokens files description).result = .extracted found) ∨
      ∃ reason, (extractor c limit maxTokens files description).result = .failed reason) ∧
    (∀ found, (extractor c limit maxTokens files description).result = .extracted found →
      ∃ reply a, c.complete (request limit maxTokens files description) = .ok reply ∧
        reply.read Findings.read = .ok a ∧ Keeps files a found) ∧
    (∀ reply a, c.complete (request limit maxTokens files description) = .ok reply →
      reply.read Findings.read = .ok a → a.named ≠ [] →
        ∃ found, (extractor c limit maxTokens files description).result = .extracted found) ∧
    ∀ a : Findings, a.normalize.normalize = a.normalize := by
  refine ⟨c.requests_ask _ _, fun c' hc' => ?_, extracted_or_failed_conclude files _, fun found hfound => ?_,
    fun reply a hreply ha hnamed => ?_, Findings.normalize_normalize⟩
  · exact congrArg (conclude files) (Llm.Client.ask_congr hc' Findings.read)
  · obtain ⟨reply, a, hreply, ha, hnamed, rfl⟩ := result_extractor.mp hfound
    exact ⟨reply, a, hreply, ha, keeps_keepKnown hnamed⟩
  · exact ⟨_, result_extractor.mpr ⟨reply, a, hreply, ha, hnamed, rfl⟩⟩

/-- A reply of three features: one has no id and a file too many, one has no name, one is too complex. -/
def shopReply : String :=
  "\x7b\"features\":[\x7b\"name\":\"Cart\",\"complexity\":3,\"files\":[\"ghost.ts\",\"a.ts\"]\x7d," ++
    "\x7b\"name\":\" \",\"complexity\":5\x7d," ++
    "\x7b\"id\":\"pay\",\"name\":\"Pay\",\"complexity\":12\x7d]\x7d"

def shopDocument : Json :=
  .object [("features", .array [
    .object [("name", .string "Cart"), ("complexity", .number ⟨false, ['3'], [], none⟩),
      ("files", .array [.string "ghost.ts", .string "a.ts"])],
    .object [("name", .string " "), ("complexity", .number ⟨false, ['5'], [], none⟩)],
    .object [("id", .string "pay"), ("name", .string "Pay"),
      ("complexity", .number ⟨false, ['1', '2'], [], none⟩)]])]

/-- What the reply says. -/
def shopFindings : Findings :=
  ⟨[⟨"", "Cart", "", 3, ["ghost.ts", "a.ts"], false, 0⟩, ⟨"", " ", "", 5, [], false, 0⟩,
    ⟨"pay", "Pay", "", 12, [], false, 0⟩], [], none⟩

theorem read_shopReply : (⟨shopReply, {}, "fake"⟩ : Llm.Reply).read Findings.read = .ok shopFindings := by
  have htext : Llm.unfence shopReply = shopReply := by cbv
  have hdocument : Json.read shopReply = ⟨shopDocument, false⟩ := by cbv
  exact Planner.read_of_document htext hdocument rfl

theorem extracts_of_reply_shop :
    ∃ found, (extractor (Planner.replying shopReply) 400 4096 ["a.ts"] "Shop").result = .extracted found ∧
      found.features.map (fun f => (f.id, f.files)) = [("feature-1", ["a.ts"]), ("pay", [])] := by
  obtain ⟨-, -, -, hkeeps, hsome, -⟩ :=
    extracts_of_reply (Planner.replying shopReply) 400 4096 ["a.ts"] "Shop"
  obtain ⟨found, hfound⟩ := hsome _ shopFindings rfl read_shopReply (by decide)
  refine ⟨found, hfound, ?_⟩
  obtain ⟨reply, a, hreply, ha, hkept⟩ := hkeeps found hfound
  cases hreply
  cases read_shopReply.symm.trans ha
  obtain ⟨cart, pay, hfeatures⟩ := List.length_eq_two.mp hkept.length
  have hcart := hkept.feature 0 _ cart rfl (by rw [hfeatures]; rfl)
  have hpay := hkept.feature 1 _ pay rfl (by rw [hfeatures]; rfl)
  have hcartId := hcart.numberedId (by decide)
  have hpayId := hpay.givenId (by decide)
  rw [hfeatures, List.map_cons, List.map_cons, hcartId, hpayId, hcart.files, hpay.files]
  decide

end Inquiry

end Backlog
