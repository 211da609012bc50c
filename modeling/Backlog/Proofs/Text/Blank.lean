import Backlog.Text.Blank
import Backlog.Text.LetterCase
import Backlog.Text.Split
import Mathlib.Data.List.Basic
import Mathlib.Tactic

/-! # Blank texts

Whether a text is blank survives what titles are made with. Cutting at separators loses the separators
alone (`flatten_pieces`); joining with blanks adds blanks alone (`isBlankText_intercalate`). A capital
is blank only if its letter is (`all_isBlank_upperChar`), for no run and no sequence of the upper-case
mapping starts or ends at a blank. -/

namespace Backlog.Text

/-! ### Pieces -/

theorem flatten_pieces (p : Char → Bool) : ∀ cs : List Char,
    (pieces p cs).flatten = cs.filter fun c => !p c
  | [] => rfl
  | c :: cs => by
    have ih := flatten_pieces p cs
    rw [pieces]
    by_cases hc : p c = true
    · rw [if_pos hc, List.flatten_cons, List.nil_append, ih, List.filter_cons_of_neg (by simp [hc])]
    · rw [if_neg hc, List.filter_cons_of_pos (by simp [hc]), ← ih]
      cases pieces p cs <;> rfl

theorem all_intercalate {p : Char → Bool} {sep : List Char} (hsep : sep.all p = true) :
    ∀ ws : List (List Char), (sep.intercalate ws).all p = ws.all fun w => w.all p
  | [] => rfl
  | [w] => by simp
  | w :: v :: ws => by
    rw [List.intercalate_cons_cons, List.all_append, List.all_append, hsep, Bool.and_true,
      all_intercalate hsep (v :: ws)]
    rfl

theorem isBlankText_intercalate {sep : String} (hsep : isBlankText sep = true) (ws : List String) :
    isBlankText (sep.intercalate ws) = ws.all isBlankText := by
  rw [isBlankText, String.toList_intercalate, all_intercalate hsep, List.all_map]
  rfl

/-! ### Capitals -/

/-- The code points of the blank characters. -/
def blankRanges : List (ℕ × ℕ) :=
  [(9, 13), (0x20, 0x20), (0x85, 0x85), (0xA0, 0xA0), (0x1680, 0x1680), (0x2000, 0x200A),
    (0x2028, 0x2029), (0x202F, 0x202F), (0x205F, 0x205F), (0x3000, 0x3000)]

theorem isBlank_eq_inRanges (c : Char) : isBlank c = inRanges blankRanges c.toNat := by
  rw [Bool.eq_iff_iff]
  simp only [isBlank, blankRanges, inRanges, List.any_cons, List.any_nil, Bool.or_eq_true,
    Bool.and_eq_true, decide_eq_true_eq, beq_iff_eq, Bool.false_eq_true]
  grind

/-- Whether no code point from `low` to `high` is blank. -/
def blankFree (low high : ℕ) : Bool :=
  blankRanges.all fun r => decide (high < r.1) || decide (r.2 < low)

theorem isBlank_of_blankFree {low high : ℕ} {c : Char} (h : blankFree low high = true)
    (hlow : low ≤ c.toNat) (hhigh : c.toNat ≤ high) : isBlank c = false := by
  rw [isBlank_eq_inRanges, inRanges, List.any_eq_false]
  intro r hr hin
  have hmiss := List.all_eq_true.mp h r hr
  simp only [Bool.or_eq_true, Bool.and_eq_true, decide_eq_true_eq] at hmiss hin
  omega

/-- A number that is no code point stands for the null character. -/
theorem toNat_ofNat (n : ℕ) : (Char.ofNat n).toNat = n ∨ (Char.ofNat n).toNat = 0 := by
  by_cases hn : n.isValidChar
  · left
    rw [Char.ofNat, dif_pos hn]
    rfl
  · right
    rw [Char.ofNat, dif_neg hn]
    rfl

theorem isBlank_ofNat_of_blankFree {low high n : ℕ} (h : blankFree low high = true) (hlow : low ≤ n)
    (hhigh : n ≤ high) : isBlank (Char.ofNat n) = false := by
  rcases toNat_ofNat n with hn | hn
  · exact isBlank_of_blankFree h (by rwa [hn]) (by rwa [hn])
  · have hnull : blankFree 0 0 = true := rfl
    exact isBlank_of_blankFree hnull (Nat.zero_le _) hn.le

theorem blankFree_of_mem_upperRuns : ∀ r ∈ upperRuns, blankFree r.first r.last = true ∧
    blankFree r.target (r.target + (r.last - r.first)) = true := by
  decide +kernel

theorem blankFree_of_mem_upperSequences : ∀ q ∈ upperSequences, blankFree q.1 q.1 = true ∧
    q.2 ≠ [] ∧ ∀ n ∈ q.2, blankFree n n = true := by
  decide +kernel

/-- A run leads from characters that are not blank to such characters. -/
theorem isBlank_of_map? {r : CaseRun} {c : Char} {n : ℕ} (hr : r ∈ upperRuns)
    (h : r.map? c.toNat = some n) : isBlank c = false ∧ isBlank (Char.ofNat n) = false := by
  obtain ⟨hsource, htarget⟩ := blankFree_of_mem_upperRuns r hr
  unfold CaseRun.map? at h
  split_ifs at h with hin
  obtain ⟨hfirst, hlast, -⟩ := hin
  cases h
  exact ⟨isBlank_of_blankFree hsource hfirst hlast,
    isBlank_ofNat_of_blankFree htarget (by omega) (by omega)⟩

/-- **Capitals of blanks are blank, and no others are.** -/
theorem all_isBlank_upperChar (c : Char) : (upperChar c).all isBlank = isBlank c := by
  unfold upperChar
  cases hseq : upperSequences.lookup c.toNat with
  | some ns =>
    obtain ⟨l, r, hsplit, -⟩ := List.lookup_eq_some_iff.mp hseq
    have hmem : (c.toNat, ns) ∈ upperSequences := by rw [hsplit]; simp
    obtain ⟨hsource, hne, htarget⟩ := blankFree_of_mem_upperSequences _ hmem
    obtain ⟨n, ms, rfl⟩ := List.exists_cons_of_ne_nil hne
    have hfirst := isBlank_ofNat_of_blankFree (htarget n List.mem_cons_self) le_rfl le_rfl
    rw [isBlank_of_blankFree hsource le_rfl le_rfl]
    simp [hfirst]
  | none =>
    cases hrun : upperRuns.findSome? (·.map? c.toNat) with
    | some n =>
      obtain ⟨r, hr, hmap⟩ := List.exists_of_findSome?_eq_some hrun
      obtain ⟨hsource, htarget⟩ := isBlank_of_map? hr hmap
      simp [hsource, htarget]
    | none => simp

end Backlog.Text
