import Mathlib.Data.List.Basic

/-! # Computations that may fail

When a composed computation succeeds: `bind_eq_ok` for one step after another, `foldlM_insert_eq_ok` for
rows that are put into a table one by one, each refused if it is bad or clashes with a row that is there
already. -/

namespace Backlog

variable {ε ε' α β : Type}

theorem bind_eq_ok {x : Except ε α} {f : α → Except ε β} {b : β} :
    x >>= f = .ok b ↔ ∃ a, x = .ok a ∧ f a = .ok b := by
  rcases x with e | a
  · constructor
    · intro h; cases h
    · rintro ⟨a, h, -⟩; cases h
  · constructor
    · intro h; exact ⟨a, rfl, h⟩
    · rintro ⟨a', h, hf⟩; cases h; exact hf

theorem bind_eq_error {x : Except ε α} {f : α → Except ε β} {e : ε} :
    x >>= f = .error e ↔ x = .error e ∨ ∃ a, x = .ok a ∧ f a = .error e := by
  rcases x with e' | a
  · constructor
    · intro h; left; cases h; rfl
    · rintro (h | ⟨a, h, -⟩)
      · cases h; rfl
      · cases h
  · constructor
    · intro h; exact Or.inr ⟨a, rfl, h⟩
    · rintro (h | ⟨a', h, hf⟩)
      · cases h
      · cases h; exact hf

theorem pure_eq_ok {a b : α} : (pure a : Except ε α) = .ok b ↔ b = a := by
  constructor
  · intro h; cases h; rfl
  · intro h; rw [h]; rfl

theorem ite_eq_ok {c : Prop} [Decidable c] {x : Except ε α} {e : ε} {a : α} :
    (if c then x else .error e) = .ok a ↔ c ∧ x = .ok a := by
  by_cases h : c <;> simp [h]

theorem ite_error_eq_ok {c : Prop} [Decidable c] {x : Except ε α} {e : ε} {a : α} :
    (if c then .error e else x) = .ok a ↔ ¬ c ∧ x = .ok a := by
  by_cases h : c <;> simp [h]

theorem map_eq_ok {x : Except ε α} {f : α → β} {b : β} :
    x.map f = .ok b ↔ ∃ a, x = .ok a ∧ f a = b := by
  cases x <;> simp [Except.map]

theorem map_eq_error {x : Except ε α} {f : α → β} {e : ε} : x.map f = .error e ↔ x = .error e := by
  cases x <;> simp [Except.map]

theorem mapError_eq_ok {x : Except ε α} {f : ε → ε'} {a : α} : x.mapError f = .ok a ↔ x = .ok a := by
  cases x <;> simp [Except.mapError]

theorem mapError_eq_error {x : Except ε α} {f : ε → ε'} {e' : ε'} :
    x.mapError f = .error e' ↔ ∃ e, x = .error e ∧ f e = e' := by
  cases x <;> simp [Except.mapError]

theorem mapM_eq_ok {f : α → Except ε β} {good : α → Prop} {row : α → β}
    (hf : ∀ a b, f a = .ok b ↔ good a ∧ b = row a) :
    ∀ (as : List α) (bs : List β), as.mapM f = .ok bs ↔ (∀ a ∈ as, good a) ∧ bs = as.map row
  | [], bs => by simp [pure_eq_ok]
  | a :: as, bs => by
    simp only [List.mapM_cons, bind_eq_ok, pure_eq_ok, hf, mapM_eq_ok hf as, List.forall_mem_cons,
      List.map_cons]
    constructor
    · rintro ⟨_, ⟨ha, rfl⟩, _, ⟨has, rfl⟩, rfl⟩; exact ⟨⟨ha, has⟩, rfl⟩
    · rintro ⟨⟨ha, has⟩, rfl⟩; exact ⟨_, ⟨ha, rfl⟩, _, ⟨has, rfl⟩, rfl⟩

/-- What is written for each member of a list is read from all if it is read from each. -/
theorem mapM_map_eq_ok {γ : Type} {read : β → Except ε γ} {write : α → β} {kept : α → γ} :
    ∀ {as : List α}, (∀ a ∈ as, read (write a) = .ok (kept a)) → (as.map write).mapM read = .ok (as.map kept)
  | [], _ => rfl
  | a :: as, h => by
    rw [List.map_cons, List.mapM_cons, h a List.mem_cons_self,
      mapM_map_eq_ok fun b hb => h b (List.mem_cons_of_mem a hb)]
    rfl

/-- What is read from what is written for each member is what is known of it, faults told in other words. -/
theorem mapM_map_mapError {γ : Type} {read : β → Except ε' γ} {write : α → β} {known : α → Except ε γ}
    {tell : ε → ε'} (h : ∀ a, read (write a) = (known a).mapError tell) :
    ∀ as : List α, (as.map write).mapM read = (as.mapM known).mapError tell
  | [] => rfl
  | a :: as => by
    rw [List.map_cons, List.mapM_cons, List.mapM_cons, h a, mapM_map_mapError h as]
    cases known a with
    | error e => rfl
    | ok c => cases as.mapM known <;> rfl

theorem exists_of_mapM_eq_ok {f : α → Except ε β} : ∀ {as : List α} {bs : List β}, as.mapM f = .ok bs →
    ∀ a ∈ as, ∃ b, f a = .ok b
  | [], _, _ => nofun
  | a :: as, bs, h => by
    rw [List.mapM_cons, bind_eq_ok] at h
    obtain ⟨b, hb, h⟩ := h
    obtain ⟨bs', hbs, -⟩ := bind_eq_ok.mp h
    exact List.forall_mem_cons.mpr ⟨⟨b, hb⟩, exists_of_mapM_eq_ok hbs⟩

theorem mapM_eq_error {f : α → Except ε β} {e : ε} : ∀ {as : List α}, as.mapM f = .error e →
    ∃ a ∈ as, f a = .error e
  | [], h => by cases h
  | a :: as, h => by
    rw [List.mapM_cons, bind_eq_error] at h
    rcases h with h | ⟨b, -, h⟩
    · exact ⟨a, by simp, h⟩
    · rcases bind_eq_error.mp h with h | ⟨bs, -, h⟩
      · obtain ⟨a', ha', h⟩ := mapM_eq_error h
        exact ⟨a', by simp [ha'], h⟩
      · cases h

theorem foldlM_eq_error {put : β → α → Except ε β} {e : ε} : ∀ {as : List α} {b : β},
    as.foldlM put b = .error e → ∃ a ∈ as, ∃ b', put b' a = .error e
  | [], b, h => by cases h
  | a :: as, b, h => by
    rw [List.foldlM_cons, bind_eq_error] at h
    rcases h with h | ⟨b', -, h⟩
    · exact ⟨a, by simp, b, h⟩
    · obtain ⟨a', ha', h⟩ := foldlM_eq_error h
      exact ⟨a', by simp [ha'], h⟩

/-- Rows are put into the view of a table as they are put into the table, if each of them is. -/
theorem foldlM_map {α' β' : Type} {put : List β → α → Except ε (List β)}
    {put' : List β' → α' → Except ε (List β')} (row : α → α') {view : β → β'} (as : List α)
    (h : ∀ a ∈ as, ∀ rows, put' (rows.map view) (row a) = (put rows a).map (·.map view)) (rows : List β) :
    (as.map row).foldlM put' (rows.map view) = (as.foldlM put rows).map (·.map view) := by
  induction as generalizing rows with
  | nil => rfl
  | cons a as ih =>
    rw [List.map_cons, List.foldlM_cons, List.foldlM_cons, h a List.mem_cons_self]
    cases put rows a with
    | error e => rfl
    | ok rows' => exact ih (fun b hb => h b (List.mem_cons_of_mem a hb)) rows'

/-- **Rows put in one by one**: all are taken if and only if none is bad, none clashes with a row that was
there, and none with a row put in before it. -/
theorem foldlM_insert_eq_ok {put : List β → α → Except ε (List β)} {bad : α → Prop}
    {clash : β → α → Prop} {row : α → β}
    (hput : ∀ rows a r, put rows a = .ok r ↔
      ¬ bad a ∧ (∀ b ∈ rows, ¬ clash b a) ∧ r = rows ++ [row a]) :
    ∀ (as : List α) (rows r : List β), as.foldlM put rows = .ok r ↔
      r = rows ++ as.map row ∧ (∀ a ∈ as, ¬ bad a) ∧ (∀ b ∈ rows, ∀ a ∈ as, ¬ clash b a) ∧
        as.Pairwise fun a a' => ¬ clash (row a) a'
  | [], rows, r => by
    simp only [List.foldlM_nil, List.map_nil, List.append_nil, List.not_mem_nil, false_implies,
      implies_true, List.Pairwise.nil, and_true]
    exact ⟨fun h => by cases h; rfl, fun h => by rw [h]; rfl⟩
  | a :: as, rows, r => by
    rw [List.foldlM_cons, bind_eq_ok]
    simp only [hput, foldlM_insert_eq_ok hput as, List.pairwise_cons, List.forall_mem_cons,
      List.map_cons]
    constructor
    · rintro ⟨_, ⟨hbad, hclash, rfl⟩, rfl, hbads, hrows, hpair⟩
      exact ⟨by simp, ⟨hbad, hbads⟩,
        fun b hb => ⟨hclash b hb, fun a' ha' => hrows b (List.mem_append_left _ hb) a' ha'⟩,
        fun a' ha' => hrows (row a) (by simp) a' ha', hpair⟩
    · rintro ⟨rfl, ⟨hbad, hbads⟩, hrows, hnext, hpair⟩
      refine ⟨_, ⟨hbad, fun b hb => (hrows b hb).1, rfl⟩, by simp, hbads, ?_, hpair⟩
      intro b hb a' ha'
      rcases List.mem_append.mp hb with hb | hb
      · exact (hrows b hb).2 a' ha'
      · rw [List.mem_singleton.mp hb]; exact hnext a' ha'

end Backlog
