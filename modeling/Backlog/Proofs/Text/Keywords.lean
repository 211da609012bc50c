import Backlog.Text.Keywords
import Backlog.Proofs.Text.LetterCase
import Backlog.Proofs.Text.Split
import Mathlib.Data.Finset.Card
import Mathlib.Data.List.Nodup

/-! # Keywords as a set

The keywords of a text are listed without repetition (`nodup_keywords`), so that the keywords two texts have in
common are counted each once (`two_le_sharedKeywords_iff`). They are found word by word: a space ends a word and
keeps the letter case of what is before it apart from what is behind it, and a word in lower case is found again
as it is.

* `keywords_of_joined`: **texts that are joined at a space** have the keywords of both, and a keyword has itself for
  its only keyword. -/

namespace Backlog.Text

variable {k s t d : String} {w cs : List Char} {c : Char}

theorem nodup_eraseDups {α : Type} [BEq α] [LawfulBEq α] (as : List α) : as.eraseDups.Nodup := by
  match as with
  | [] => exact List.nodup_nil
  | a :: as =>
    rw [List.eraseDups_cons, List.nodup_cons, List.mem_eraseDups]
    exact ⟨by simp, nodup_eraseDups _⟩
termination_by as.length
decreasing_by exact Nat.lt_succ_of_le (List.length_filter_le _ _)

theorem nodup_keywords (s : String) : (keywords s).Nodup := nodup_eraseDups _

/-- **Two texts have two keywords in common** if and only if there are two different words that are keywords of
both. -/
theorem two_le_sharedKeywords_iff {a b : List String} (ha : a.Nodup) :
    2 ≤ sharedKeywords a b ↔ ∃ k l, k ≠ l ∧ (k ∈ a ∧ k ∈ b) ∧ l ∈ a ∧ l ∈ b := by
  rw [sharedKeywords, ← List.toFinset_card_of_nodup (ha.filter _), ← Nat.lt_iff_add_one_le, Finset.one_lt_card]
  simp only [List.mem_toFinset, List.mem_filter, List.contains_iff_mem]
  constructor
  · rintro ⟨k, hk, l, hl, hne⟩
    exact ⟨k, l, hne, hk, hl⟩
  · rintro ⟨k, l, hne, hk, hl⟩
    exact ⟨k, hk, l, hl, hne⟩

/-! ### Words -/

theorem mem_keywords : k ∈ keywords s ↔
    ∃ w ∈ pieces (fun c => !isWordChar c) (lowerChars s.toList), isKeyword w = true ∧ String.ofList w = k := by
  simp only [keywords, List.mem_eraseDups, List.mem_map, List.mem_filter, and_assoc]

theorem of_mem_word (hw : w ∈ pieces (fun c => !isWordChar c) cs) (hc : c ∈ w) : c ∈ cs ∧ isWordChar c = true := by
  have hmem : c ∈ (pieces (fun c => !isWordChar c) cs).flatten := List.mem_flatten.mpr ⟨w, hw, hc⟩
  rw [flatten_pieces, List.mem_filter] at hmem
  simpa using hmem

/-- **A word in lower case** that is a keyword is found again. -/
theorem keywords_of_word (hlower : ∀ c ∈ w, lowerChar c = [c]) (hword : ∀ c ∈ w, isWordChar c = true)
    (hw : isKeyword w = true) : keywords (String.ofList w) = [String.ofList w] := by
  have hpiece : pieces (fun c => !isWordChar c) w = [w] := pieces_of_forall fun c hc => by rw [hword c hc]; rfl
  rw [keywords, String.toList_ofList, lowerChars, lowerFrom_of_lower hlower, hpiece,
    List.filter_cons_of_pos hw, List.filter_nil]
  rfl

theorem keywords_of_mem_keywords (hk : k ∈ keywords s) : keywords k = [k] := by
  obtain ⟨w, hw, hkeyword, rfl⟩ := mem_keywords.mp hk
  refine keywords_of_word (fun c hc => ?_) (fun c hc => (of_mem_word hw hc).2) hkeyword
  exact lowerChar_of_mem_lowerFrom (of_mem_word hw hc).1

theorem mem_keywords_append : k ∈ keywords (t ++ " " ++ d) ↔ k ∈ keywords t ∨ k ∈ keywords d := by
  have hspace : (t ++ " " ++ d).toList = t.toList ++ ' ' :: d.toList := by
    rw [String.toList_append, String.toList_append, List.append_assoc]
    rfl
  have hends : (!isWordChar ' ') = true := by decide +kernel
  have hwords : pieces (fun c => !isWordChar c) (lowerChars (t ++ " " ++ d).toList) =
      pieces (fun c => !isWordChar c) (lowerChars t.toList) ++
        pieces (fun c => !isWordChar c) (lowerChars d.toList) := by
    rw [hspace, lowerChars_append endsWords_space]
    exact pieces_append (p := fun c => !isWordChar c) hends _ _
  simp only [mem_keywords, hwords, List.mem_append, or_and_right, exists_or]

/-- **Keywords of joined texts.** Of two texts joined at a space, such as a title and a description, the keywords are
those of the one together with those of the other, whatever letters the texts are written in; and of a keyword the
only keyword is that keyword. -/
theorem keywords_of_joined (t d : String) :
    (keywords (t ++ " " ++ d)).toFinset = (keywords t).toFinset ∪ (keywords d).toFinset ∧
      ∀ s, ∀ k ∈ keywords s, keywords k = [k] := by
  refine ⟨?_, fun s k hk => keywords_of_mem_keywords hk⟩
  ext k
  rw [Finset.mem_union, List.mem_toFinset, List.mem_toFinset, List.mem_toFinset, mem_keywords_append]

/-- A capital sigma ends the title, another one starts the description; and the dotted capital I falls into a letter
and a mark that is no letter. -/
theorem keywords_of_joined_odyssey :
    (keywords ("ΟΔΥΣΣΕΥΣ" ++ " " ++ "ΣΤΑΣΕΙΣ İstanbul")).toFinset = {"οδυσσευς", "στασεις", "stanbul"} ∧
      "στασεις" ∈ keywords "ΣΤΑΣΕΙΣ İstanbul" ∧ keywords "στασεις" = ["στασεις"] := by
  obtain ⟨hjoined, hself⟩ := keywords_of_joined "ΟΔΥΣΣΕΥΣ" "ΣΤΑΣΕΙΣ İstanbul"
  have htitle : keywords "ΟΔΥΣΣΕΥΣ" = ["οδυσσευς"] := by decide +kernel
  have hdescription : keywords "ΣΤΑΣΕΙΣ İstanbul" = ["στασεις", "stanbul"] := by decide +kernel
  have hmem : "στασεις" ∈ keywords "ΣΤΑΣΕΙΣ İstanbul" := by rw [hdescription]; decide
  refine ⟨?_, hmem, hself _ _ hmem⟩
  rw [hjoined, htitle, hdescription]
  decide

end Backlog.Text
