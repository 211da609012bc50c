import Backlog.Feature.Grouping
import Backlog.Proofs.Feature.Normal
import Backlog.Proofs.Text.Blank

/-! # Features of the file tree

The features of a file tree have numbered ids, all different, complexities from 1 to 10 and hours that
are numbers. Their names are directory names, cut at hyphens, underscores and spaces; a directory name
in which nothing else but blanks stands is wordless, and only such a name makes a blank title
(`isBlankText_title`). -/

namespace Backlog.Grouping

open Text

variable {files : List String} {f : Feature} {g : String}

/-! ### Titles -/

theorem all_isBlank_capitalize (w : List Char) : (capitalize w).all isBlank = w.all isBlank := by
  cases w with
  | nil => rfl
  | cons c cs => rw [capitalize, List.all_append, all_isBlank_upperChar, List.all_cons]

/-- **A directory name without a word**: nothing but hyphens, underscores and blanks. -/
def Wordless (name : String) : Prop := ∀ c ∈ name.toList, c = '-' ∨ c = '_' ∨ isBlank c = true

instance (name : String) : Decidable (Wordless name) :=
  List.decidableBAll (fun c => c = '-' ∨ c = '_' ∨ isBlank c = true) name.toList

theorem isBlankText_title_eq (name : String) : isBlankText (title name) =
    (pieces (fun c => c == '-' || c == '_' || c == ' ') name.toList).all fun w => w.all isBlank := by
  rw [title, isBlankText_intercalate (by decide), List.all_map, List.all_filter]
  refine congrArg _ (funext fun w => ?_)
  have hword : isBlankText (String.ofList (capitalize w)) = w.all isBlank := by
    rw [isBlankText, String.toList_ofList, all_isBlank_capitalize]
  cases w with
  | nil => rfl
  | cons c cs => simpa using hword

/-- **Titles are blank for wordless names only.** -/
theorem isBlankText_title (name : String) : isBlankText (title name) = true ↔ Wordless name := by
  rw [isBlankText_title_eq, ← List.all_flatten, flatten_pieces, List.all_filter, List.all_eq_true]
  refine forall₂_congr fun c _ => ?_
  by_cases hspace : c = ' '
  · subst hspace
    decide
  · simp [hspace, or_assoc]

example : Wordless "-_ -" ∧ ¬ Wordless "user-profile" := by decide

/-! ### Features -/

theorem groups_eq_singleton (h : (files.filterMap group?).eraseDups = [g]) : groups files = [g] := by
  rw [groups, h, List.mergeSort_singleton]

theorem complexityFor_mem (n : ℕ) : 2 ≤ complexityFor n ∧ complexityFor n ≤ 10 := by
  unfold complexityFor
  omega

theorem features_extract (files : List String) :
    (extract files).features = (groups files).mapIdx (featureOf files) := rfl

/-- A feature of the tree has a complexity in range and hours that are a number. -/
theorem of_mem_extract (h : f ∈ (extract files).features) :
    (1 ≤ f.complexity ∧ f.complexity ≤ 10) ∧ f.hours.isNaN = false := by
  have hnumber : ∀ c ≤ 10, (Float.ofNat (c * 2)).isNaN = false := by decide
  obtain ⟨i, hi, rfl⟩ := List.mem_mapIdx.mp h
  obtain ⟨hlow, hhigh⟩ := complexityFor_mem (featureOf files i (groups files)[i]).files.length
  exact ⟨⟨Nat.le_of_lt hlow, hhigh⟩, hnumber _ hhigh⟩

theorem map_id_extract (files : List String) : (extract files).features.map (·.id) =
    (List.range (groups files).length).map Feature.numberedId := by
  refine List.ext_getElem (by simp [features_extract]) fun i _ _ => ?_
  simp [features_extract, featureOf]

theorem nodup_ids_extract (files : List String) : ((extract files).features.map (·.id)).Nodup := by
  rw [map_id_extract]
  exact List.nodup_range.map fun _ _ => Feature.numberedId_injective

theorem forall_named_extract_iff : (∀ f ∈ (extract files).features, isBlankText f.name = false) ↔
    ∀ g ∈ groups files, ¬ Wordless g := by
  rw [features_extract]
  constructor
  · intro h g hg
    obtain ⟨i, hi, rfl⟩ := List.getElem_of_mem hg
    have hname := h _ (List.mem_mapIdx.mpr ⟨i, hi, rfl⟩)
    rw [← isBlankText_title]
    exact Bool.eq_false_iff.mp hname
  · intro h f hf
    obtain ⟨i, hi, rfl⟩ := List.mem_mapIdx.mp hf
    have hword := h _ (List.getElem_mem hi)
    rw [← isBlankText_title] at hword
    exact Bool.eq_false_iff.mpr hword

end Backlog.Grouping
