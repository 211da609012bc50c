import Backlog.Proofs.Text.Blank

/-! # Lower case

Lower case is final: it has only characters that are their own lower case (`lowerChar_of_mem_lowerFrom`), for no run
of the mapping leads to a character that a run starts from (`avoids_lowerRuns`), and a text of such characters stays
as it is (`lowerFrom_of_lower`). It is local too, as far as sigma allows: a character that has no case and ends
words, such as a space, parts a text in two whose lower cases do not depend on each other (`lowerChars_append`). -/

namespace Backlog.Text

variable {c d : Char} {cs ds before : List Char} {r s : CaseRun} {m n : ℕ}

/-! ### Runs -/

/-- Whether no target of `r` is a source of `s`: the two lie apart, or every other number is in each of them and
they miss each other. -/
def CaseRun.avoids (r s : CaseRun) : Bool :=
  decide (s.last < r.target) || decide (r.target + (r.last - r.first) < s.first) ||
    (s.step == 2 && (r.step == 2 || r.first == r.last) && (r.target + s.first) % 2 == 1)

theorem CaseRun.map?_of_avoids (h : r.avoids s = true) (hm : r.map? m = some n) : s.map? n = none := by
  unfold map? at hm ⊢
  split_ifs at hm with hin
  cases hm
  obtain ⟨hfirst, hlast, hstep⟩ := hin
  refine if_neg fun ⟨hfirst', hlast', hstep'⟩ => ?_
  simp only [avoids, Bool.or_eq_true, Bool.and_eq_true, decide_eq_true_eq, beq_iff_eq] at h
  rcases h with (hbelow | habove) | ⟨⟨htwo, htwo' | hone⟩, hodd⟩
  · omega
  · omega
  · rw [htwo] at hstep'
    rw [htwo'] at hstep
    omega
  · rw [htwo] at hstep'
    omega

/-- The run of the dotted capital I, the one capital that the lower-case runs leave out. -/
def dottedRun : CaseRun := ⟨0x130, 0x130, 1, 0x69⟩

theorem avoids_lowerRuns : (lowerRuns.all fun r => (dottedRun :: lowerRuns).all r.avoids) = true := by
  decide +kernel

/-- **No run starts where one leads to.** -/
theorem lowerChar_of_map? (hr : r ∈ lowerRuns) (hm : r.map? m = some n) :
    lowerChar (Char.ofNat n) = [Char.ofNat n] := by
  have havoids := List.all_eq_true.mp (List.all_eq_true.mp avoids_lowerRuns r hr)
  have hmiss : ∀ s ∈ dottedRun :: lowerRuns, s.map? n = none := fun s hs => CaseRun.map?_of_avoids (havoids s hs) hm
  obtain ⟨hdotted, hruns⟩ := List.forall_mem_cons.mp hmiss
  rcases toNat_ofNat n with hn | hn
  · have hne : n ≠ 0x130 := by
      rintro rfl
      cases hdotted
    rw [lowerChar, hn, if_neg hne, List.findSome?_eq_none_iff.mpr hruns]
  · have hnull : lowerRuns.findSome? (·.map? 0) = none := by decide
    rw [lowerChar, hn, if_neg (by decide), hnull]

/-! ### Lower case is final -/

/-- **A character in lower case** is its own. -/
theorem lowerChar_of_mem_lowerChar (hd : d ∈ lowerChar c) : lowerChar d = [d] := by
  have hdotted : ∀ d ∈ ['i', Char.ofNat 0x307], lowerChar d = [d] :=
    List.forall_mem_cons.mpr ⟨by decide, List.forall_mem_singleton.mpr (by decide)⟩
  rw [lowerChar] at hd
  split_ifs at hd with hc
  · exact hdotted d hd
  · cases hrun : lowerRuns.findSome? (·.map? c.toNat) with
    | some n =>
      obtain ⟨r, hr, hm⟩ := List.exists_of_findSome?_eq_some hrun
      rw [hrun] at hd
      rw [List.mem_singleton.mp hd]
      exact lowerChar_of_map? hr hm
    | none =>
      rw [hrun] at hd
      rw [List.mem_singleton.mp hd, lowerChar, if_neg hc, hrun]

theorem lowerChar_of_mem_lowerFrom : ∀ {cs before : List Char}, d ∈ lowerFrom before cs → lowerChar d = [d]
  | [], _, h => by cases h
  | c :: cs, before, h => by
    have hsigma : ∀ d ∈ ['σ', 'ς'], lowerChar d = [d] :=
      List.forall_mem_cons.mpr ⟨by decide, List.forall_mem_singleton.mpr (by decide)⟩
    rw [lowerFrom, List.mem_append] at h
    rcases h with h | h
    · split_ifs at h
      · exact hsigma d (by simp [List.mem_singleton.mp h])
      · exact hsigma d (by simp [List.mem_singleton.mp h])
      · exact lowerChar_of_mem_lowerChar h
    · exact lowerChar_of_mem_lowerFrom h

theorem lowerFrom_of_lower : ∀ {cs before : List Char}, (∀ c ∈ cs, lowerChar c = [c]) → lowerFrom before cs = cs
  | [], _, _ => rfl
  | c :: cs, before, h => by
    obtain ⟨hc, hcs⟩ := List.forall_mem_cons.mp h
    have hsigma : c ≠ 'Σ' := by
      rintro rfl
      revert hc
      decide
    rw [lowerFrom, if_neg hsigma, hc, lowerFrom_of_lower hcs]
    rfl

/-! ### Lower case is local -/

/-- **A character that ends words**: the search for a cased character stops at it and finds none. -/
structure EndsWords (c : Char) : Prop where
  uncased : isCased c = false
  seen : isCaseIgnorable c = false
  lower : lowerChar c = [c]

theorem endsWords_space : EndsWords ' ' := ⟨by decide, by decide +kernel, by decide⟩

section EndsWords
variable (hc : EndsWords c)
include hc

/-- Nothing is looked for behind the end of a word. -/
theorem meetsCased_append (cs ds : List Char) : meetsCased (cs ++ c :: ds) = meetsCased cs := by
  have hstop : (c :: ds).dropWhile isCaseIgnorable = c :: ds := by
    rw [List.dropWhile_cons, if_neg (by rw [hc.seen]; exact Bool.false_ne_true)]
  rw [meetsCased, meetsCased, List.dropWhile_append, hstop]
  cases cs.dropWhile isCaseIgnorable with
  | nil => exact hc.uncased
  | cons d rest => rfl

/-- What comes before the end of a word matters to nothing behind it. -/
theorem lowerFrom_behind : ∀ (cs before ds : List Char), lowerFrom (before ++ c :: ds) cs = lowerFrom before cs
  | [], _, _ => rfl
  | d :: cs, before, ds => by
    rw [lowerFrom, lowerFrom, meetsCased_append hc, ← List.cons_append, lowerFrom_behind cs]

theorem lowerFrom_append : ∀ (cs before ds : List Char),
    lowerFrom before (cs ++ c :: ds) = lowerFrom before cs ++ c :: lowerFrom [] ds
  | [], before, ds => by
    have hsigma : c ≠ 'Σ' := by
      rintro rfl
      exact absurd hc.uncased (by decide)
    rw [List.nil_append, lowerFrom, lowerFrom, if_neg hsigma, hc.lower, ← List.nil_append (c :: before),
      lowerFrom_behind hc]
    rfl
  | d :: cs, before, ds => by
    rw [List.cons_append, lowerFrom, lowerFrom, meetsCased_append hc, lowerFrom_append cs, List.append_assoc]

/-- **The lower case of two texts that are parted** is that of each. -/
theorem lowerChars_append (cs ds : List Char) : lowerChars (cs ++ c :: ds) = lowerChars cs ++ c :: lowerChars ds :=
  lowerFrom_append hc cs [] ds

end EndsWords

end Backlog.Text
