import Backlog.Text.Blank
import Backlog.Text.Digits
import Backlog.Text.Split
import Mathlib.Data.List.TakeWhile
import Mathlib.Tactic

/-! # Cut texts

A text is cut at the last separator if and only if none stands in the part after the cut
(`cutLast_eq_some`), so there is one way at most to join two parts of which the second has no separator
(`append_sep_inj`). Pieces can be joined again (`intercalate_pieces`), a separator parts them (`pieces_append`), and
what stands before the first separator is the first of them (`pieces_append_sep`). Trimming leaves nothing of a text
if and only if the text is blank (`trimChars_eq_nil`); what it leaves has no blank at its ends
(`trimChars_trimChars`) and stands between blanks (`exists_trimChars`). The digits that a number is written with
spell this number (`digitsValue_toDigits`). -/

namespace Backlog.Text

variable {sep : Char} {a b c d cs : List Char}

/-! ### Cutting -/

theorem cutLast_eq_none : cutLast sep cs = none ↔ sep ∉ cs := by
  induction cs with
  | nil => simp [cutLast]
  | cons c cs ih =>
    rw [cutLast]
    cases hcut : cutLast sep cs with
    | some p =>
      have hmem : sep ∈ cs := not_not.mp fun hnot => by rw [ih.mpr hnot] at hcut; cases hcut
      simp [hmem]
    | none =>
      have hnot : sep ∉ cs := ih.mp hcut
      by_cases hc : c = sep
      · simp [hc]
      · simp [hc, hnot, Ne.symm hc]

theorem cutLast_append (hb : sep ∉ b) : ∀ a : List Char, cutLast sep (a ++ sep :: b) = some (a, b)
  | [] => by rw [List.nil_append, cutLast, cutLast_eq_none.mpr hb, if_pos rfl]
  | c :: a => by rw [List.cons_append, cutLast, cutLast_append hb a]

theorem append_of_cutLast (h : cutLast sep cs = some (a, b)) : cs = a ++ sep :: b ∧ sep ∉ b := by
  induction cs generalizing a with
  | nil => cases h
  | cons c cs ih =>
    rw [cutLast] at h
    cases hcut : cutLast sep cs with
    | some p =>
      rw [hcut] at h
      cases h
      obtain ⟨hsplit, hb⟩ := ih hcut
      exact ⟨by rw [List.cons_append, ← hsplit], hb⟩
    | none =>
      rw [hcut] at h
      dsimp only at h
      split_ifs at h with hc
      cases h
      exact ⟨by rw [hc]; rfl, cutLast_eq_none.mp hcut⟩

/-- **A text is cut at the last separator.** -/
theorem cutLast_eq_some : cutLast sep cs = some (a, b) ↔ cs = a ++ sep :: b ∧ sep ∉ b := by
  constructor
  · exact append_of_cutLast
  · rintro ⟨rfl, hb⟩
    exact cutLast_append hb a

theorem append_sep_inj (hb : sep ∉ b) (hd : sep ∉ d) : a ++ sep :: b = c ++ sep :: d ↔ a = c ∧ b = d := by
  constructor
  · intro h
    have hcut := cutLast_append hb a
    rw [h, cutLast_append hd c] at hcut
    cases hcut
    exact ⟨rfl, rfl⟩
  · rintro ⟨rfl, rfl⟩
    rfl

theorem cutFirst_append {b : List Char} : ∀ {a : List Char}, sep ∉ a → cutFirst sep (a ++ sep :: b) = some (a, b)
  | [], _ => by rw [List.nil_append, cutFirst, if_pos rfl]
  | c :: a, h => by
    obtain ⟨hc, ha⟩ := not_or.mp (mt List.mem_cons.mpr h)
    rw [List.cons_append, cutFirst, if_neg (Ne.symm hc), cutFirst_append ha]
    rfl

theorem cutFirst_eq_none : cutFirst sep cs = none ↔ sep ∉ cs := by
  induction cs with
  | nil => simp [cutFirst]
  | cons c cs ih =>
    rw [cutFirst]
    by_cases hc : c = sep
    · simp [hc]
    · simp [hc, ih, Ne.symm hc]

theorem append_of_cutFirst (h : cutFirst sep cs = some (a, b)) : cs = a ++ sep :: b ∧ sep ∉ a := by
  induction cs generalizing a with
  | nil => cases h
  | cons c cs ih =>
    rw [cutFirst] at h
    split_ifs at h with hc
    · cases h
      exact ⟨by rw [hc]; rfl, List.not_mem_nil⟩
    · obtain ⟨⟨a', b'⟩, hcut, heq⟩ := Option.map_eq_some_iff.mp h
      cases heq
      obtain ⟨hsplit, ha⟩ := ih hcut
      exact ⟨by rw [List.cons_append, ← hsplit], by simp [Ne.symm hc, ha]⟩

theorem pieces_ne_nil (p : Char → Bool) : ∀ cs : List Char, pieces p cs ≠ []
  | [] => by simp [pieces]
  | c :: cs => by
    rw [pieces]
    split
    · simp
    · split <;> simp

/-- **Pieces joined at the separator** are the text again. -/
theorem intercalate_pieces (sep : Char) : ∀ cs : List Char, [sep].intercalate (pieces (· == sep) cs) = cs
  | [] => rfl
  | c :: cs => by
    have ih := intercalate_pieces sep cs
    obtain ⟨w, ws, hws⟩ := List.exists_cons_of_ne_nil (pieces_ne_nil (· == sep) cs)
    rw [hws] at ih
    rw [pieces, hws]
    by_cases hc : c = sep
    · rw [if_pos (by simp [hc]), List.intercalate_cons_cons, ih, hc]
      rfl
    · rw [if_neg (by simp [hc])]
      cases ws with
      | nil => rw [List.intercalate_singleton] at ih ⊢; rw [ih]
      | cons v ws => rw [List.intercalate_cons_cons] at ih ⊢; rw [List.cons_append, List.cons_append, ih]

theorem pieces_of_forall {p : Char → Bool} : ∀ {a : List Char}, (∀ c ∈ a, p c = false) → pieces p a = [a]
  | [], _ => rfl
  | c :: a, h => by
    obtain ⟨hc, ha⟩ := List.forall_mem_cons.mp h
    rw [pieces, if_neg (by simp [hc]), pieces_of_forall ha]

/-- **A separator parts the pieces** before it from those behind it. -/
theorem pieces_append {p : Char → Bool} {c : Char} (hc : p c = true) (b : List Char) :
    ∀ a : List Char, pieces p (a ++ c :: b) = pieces p a ++ pieces p b
  | [] => by rw [List.nil_append, pieces, pieces, if_pos hc, List.singleton_append]
  | d :: a => by
    rw [List.cons_append, pieces, pieces, pieces_append hc b a]
    by_cases hd : p d = true
    · rw [if_pos hd, if_pos hd, List.cons_append]
    · obtain ⟨w, ws, hws⟩ := List.exists_cons_of_ne_nil (pieces_ne_nil p a)
      rw [if_neg hd, if_neg hd, hws]
      rfl

theorem pieces_of_notMem (ha : sep ∉ a) : pieces (· == sep) a = [a] :=
  pieces_of_forall fun _ hc => beq_eq_false_iff_ne.mpr fun heq => ha (heq ▸ hc)

theorem pieces_append_sep (b : List Char) (ha : sep ∉ a) :
    pieces (· == sep) (a ++ sep :: b) = a :: pieces (· == sep) b := by
  have hsep : (sep == sep) = true := beq_self_eq_true sep
  rw [pieces_append (p := (· == sep)) hsep, pieces_of_notMem ha, List.singleton_append]

/-- **Pieces that are joined are cut apart again.** -/
theorem pieces_intercalate : ∀ {ws : List (List Char)}, (∀ w ∈ ws, sep ∉ w) → ws ≠ [] →
    pieces (· == sep) ([sep].intercalate ws) = ws
  | [w], h, _ => by rw [List.intercalate_singleton, pieces_of_notMem (h w List.mem_cons_self)]
  | w :: v :: ws, h, _ => by
    obtain ⟨hw, hrest⟩ := List.forall_mem_cons.mp h
    rw [List.intercalate_cons_cons, List.append_assoc, List.singleton_append, pieces_append_sep _ hw,
      pieces_intercalate hrest (List.cons_ne_nil v ws)]

theorem stripLead?_append : ∀ lead : List Char, stripLead? lead (lead ++ cs) = some cs
  | [] => rfl
  | l :: lead => by rw [List.cons_append, stripLead?, if_pos rfl, stripLead?_append lead]

theorem stripLead?_eq_none : ∀ {lead cs : List Char}, stripLead? lead cs = none ↔ ¬ lead <+: cs
  | [], cs => by simp [stripLead?]
  | l :: lead, [] => by simp [stripLead?]
  | l :: lead, c :: cs => by
    rw [stripLead?, List.cons_prefix_cons]
    split_ifs with h
    · rw [stripLead?_eq_none]
      simp [h]
    · simp [h]

theorem stripTail?_append (cs tail : List Char) : stripTail? tail (cs ++ tail) = some cs := by
  rw [stripTail?, List.reverse_append, stripLead?_append, Option.map_some, List.reverse_reverse]

/-! ### Trimming -/

theorem trimStart_append {w : List Char} (hw : ∀ c ∈ w, isBlank c = true) (cs : List Char) :
    trimStart (w ++ cs) = trimStart cs := List.dropWhile_append_of_pos hw

theorem trimEnd_append {w : List Char} (hw : ∀ c ∈ w, isBlank c = true) (cs : List Char) :
    trimEnd (cs ++ w) = trimEnd cs := by
  have hreverse : ∀ c ∈ w.reverse, isBlank c = true := fun c hc => hw c (List.mem_reverse.mp hc)
  rw [trimEnd, List.reverse_append, List.dropWhile_append_of_pos hreverse, trimEnd]

/-- **Blanks around a text** are cut off with its own. -/
theorem trimChars_append {w w' : List Char} (hw : ∀ c ∈ w, isBlank c = true) (hw' : ∀ c ∈ w', isBlank c = true)
    (cs : List Char) : trimChars (w ++ cs ++ w') = trimChars cs := by
  rw [trimChars, List.append_assoc, trimStart_append hw, trimChars]
  by_cases hblank : ∀ c ∈ cs, isBlank c = true
  · have hrest : trimStart (cs ++ w') = [] := by
      rw [trimStart_append hblank]
      exact List.dropWhile_eq_nil_iff.mpr hw'
    rw [hrest, trimStart, List.dropWhile_eq_nil_iff.mpr hblank]
  · have hrest : trimStart (cs ++ w') = trimStart cs ++ w' := by
      rw [trimStart, List.dropWhile_append, if_neg]
      · rfl
      · rwa [List.isEmpty_iff, List.dropWhile_eq_nil_iff]
    rw [hrest, trimEnd_append hw']

theorem trimChars_of_ends {c d : Char} (hc : isBlank c = false) (hd : isBlank d = false) {cs : List Char}
    (hfirst : [c] <+: cs) (hlast : [d] <:+ cs) : trimChars cs = cs := by
  obtain ⟨rest, rfl⟩ := hfirst
  obtain ⟨front, hfront⟩ := hlast
  have hstart : trimStart ([c] ++ rest) = [c] ++ rest := by
    rw [trimStart, List.singleton_append, List.dropWhile_cons, if_neg (by simp [hc])]
  have hend : trimEnd (front ++ [d]) = front ++ [d] := by
    rw [trimEnd, List.reverse_append, List.reverse_singleton, List.singleton_append, List.dropWhile_cons,
      if_neg (by simp [hd]), List.reverse_cons, List.reverse_reverse]
  rw [trimChars, hstart, ← hfront, hend]

/-- **A text is what trimming leaves**, between blanks. -/
theorem exists_trimChars (cs : List Char) : ∃ w w', cs = w ++ trimChars cs ++ w' ∧
    (∀ c ∈ w, isBlank c = true) ∧ ∀ c ∈ w', isBlank c = true := by
  have hstart : cs = cs.takeWhile isBlank ++ trimStart cs := List.takeWhile_append_dropWhile.symm
  have hend : trimStart cs = trimChars cs ++ ((trimStart cs).reverse.takeWhile isBlank).reverse := by
    rw [trimChars, trimEnd, ← List.reverse_append, List.takeWhile_append_dropWhile, List.reverse_reverse]
  refine ⟨cs.takeWhile isBlank, ((trimStart cs).reverse.takeWhile isBlank).reverse, ?_,
    fun c hc => List.mem_takeWhile_imp hc, fun c hc => ?_⟩
  · rw [List.append_assoc, ← hend, ← hstart]
  · exact List.mem_takeWhile_imp (List.mem_reverse.mp hc)

theorem trimChars_trimChars (cs : List Char) : trimChars (trimChars cs) = trimChars cs := by
  obtain ⟨w, w', hcs, hw, hw'⟩ := exists_trimChars cs
  have htrim := trimChars_append hw hw' (trimChars cs)
  rw [← hcs] at htrim
  exact htrim.symm

theorem trimEnd_eq_nil : trimEnd cs = [] ↔ ∀ c ∈ cs, isBlank c = true := by
  rw [trimEnd, List.reverse_eq_nil_iff, List.dropWhile_eq_nil_iff]
  simp only [List.mem_reverse]

/-- **Nothing is left of a blank text**, and of no other. -/
theorem trimChars_eq_nil : trimChars cs = [] ↔ ∀ c ∈ cs, isBlank c = true := by
  rw [trimChars, trimEnd_eq_nil, trimStart]
  constructor
  · intro h c hc
    rw [← List.takeWhile_append_dropWhile (p := isBlank) (l := cs), List.mem_append] at hc
    rcases hc with hc | hc
    · exact List.mem_takeWhile_imp hc
    · exact h c hc
  · exact fun h c hc => h c ((List.dropWhile_sublist _).subset hc)

/-! ### Digits -/

theorem digitsValue_eq_ofDigitChars (ds : List Char) : digitsValue ds = Nat.ofDigitChars 10 ds 0 := by
  rw [Nat.ofDigitChars_eq_foldl, digitsValue]
  congr 1
  funext n d
  rw [mul_comm]
  rfl

theorem digitsValue_toDigits (n : ℕ) : digitsValue (Nat.toDigits 10 n) = n := by
  rw [digitsValue_eq_ofDigitChars, Nat.ofDigitChars_ten_toDigits]

theorem toList_toString (n : ℤ) :
    (toString n).toList = (if n < 0 then ['-'] else []) ++ Nat.toDigits 10 n.natAbs := by
  cases n with
  | ofNat n => exact Nat.toList_repr
  | negSucc n =>
    show ("-" ++ Nat.repr (n + 1)).toList = _
    rw [String.toList_append, Nat.toList_repr, if_pos (Int.negSucc_lt_zero n)]
    rfl

end Backlog.Text
