import Backlog.Feature.Inquiry
import Mathlib

/-! # Features in normal form

What a model replies is brought into normal form before tickets are made of it. A feature in normal form
has a complexity from 1 to 10 and hours that are a number, and of the reply those with a name are kept.
What normal form does not give is an id of its own: an id that a feature is given by its position may be
the id that another feature came with. The ids are all different if and only if that does not happen and
no two features came with the same id (`nodup_ids_normalize_iff`). -/

namespace Backlog

variable {i j : ℕ} {f : Feature} {a : Findings} {files : List String}

/-! ### Numbered ids -/

theorem Feature.numberedId_injective (h : Feature.numberedId i = Feature.numberedId j) : i = j := by
  have hrepr : (i + 1).repr = (j + 1).repr := (String.append_right_inj "feature-").mp h
  exact Nat.succ_injective (Nat.repr_injective hrepr)

theorem Feature.isBlankText_numberedId (i : ℕ) : Text.isBlankText (numberedId i) = false := by
  have hfirst : (numberedId i).toList = "feature-".toList ++ (toString (i + 1)).toList :=
    String.toList_append
  rw [Text.isBlankText, hfirst, List.all_append]
  rfl

/-! ### Amounts -/

theorem clampComplexity_mem (c : ℕ) : 1 ≤ clampComplexity c ∧ clampComplexity c ≤ 10 := by
  unfold clampComplexity
  omega

theorem isNaN_cleanHours (h : Float) : (cleanHours h).isNaN = false := by
  have hnumber : h.isFinite = true → h.isNaN = false := by
    show h.toModel.unpack.isFinite = true → h.toModel.unpack.isNaN = false
    cases h.toModel.unpack <;>
      simp [Float.Model.UnpackedFloat.isFinite, Float.Model.UnpackedFloat.isNaN]
  unfold cleanHours
  split_ifs with hbad
  · decide
  · simp only [Bool.or_eq_true, not_or, Bool.not_eq_true', Bool.not_eq_false] at hbad
    exact hnumber hbad.1

/-! ### Findings -/

/-- The features that have a name. -/
def Findings.named (a : Findings) : List Feature :=
  a.features.filter fun f => !Text.isBlankText f.name

theorem Findings.features_normalize (a : Findings) :
    a.normalize.features = a.named.mapIdx Feature.normalize := rfl

theorem Findings.of_mem_normalize (h : f ∈ a.normalize.features) :
    Text.isBlankText f.name = false ∧ (1 ≤ f.complexity ∧ f.complexity ≤ 10) ∧
      f.hours.isNaN = false := by
  obtain ⟨i, hi, rfl⟩ := List.mem_mapIdx.mp h
  have hname := (List.mem_filter.mp (List.getElem_mem hi)).2
  rw [Bool.not_eq_true'] at hname
  exact ⟨hname, clampComplexity_mem _, isNaN_cleanHours _⟩

/-- **Findings whose features keep apart**: no two named features come with the same id, and none comes
with the id that another one, having none, is given by its position. -/
structure Findings.Apart (a : Findings) : Prop where
  given : (a.named.map (·.id)).Pairwise fun x y => Text.isBlankText x = false → x ≠ y
  numbered : ∀ i x, (a.named.map (·.id))[i]? = some x → Text.isBlankText x = true →
    Feature.numberedId i ∉ a.named.map (·.id)

theorem Findings.apart_of_named_eq_nil (h : a.named = []) : a.Apart := by
  constructor <;> simp [h]

/-- The id that a feature at a position has in normal form. -/
def Feature.idAt (i : ℕ) (id : String) : String :=
  if Text.isBlankText id then numberedId i else id

theorem Feature.idAt_of_blank {id : String} (h : Text.isBlankText id = true) :
    Feature.idAt i id = Feature.numberedId i := if_pos h

theorem Feature.idAt_of_given {id : String} (h : Text.isBlankText id = false) :
    Feature.idAt i id = id := if_neg (by simp [h])

/-- Two positions have the same id because both came with it, or because one came with the number of the
other. -/
theorem Feature.idAt_eq_idAt {x y : String} (hij : i ≠ j) (h : idAt i x = idAt j y) :
    (Text.isBlankText x = false ∧ x = y) ∨ (Text.isBlankText x = true ∧ y = numberedId i) ∨
      (Text.isBlankText y = true ∧ x = numberedId j) := by
  cases hx : Text.isBlankText x with
  | false =>
    rw [idAt_of_given hx] at h
    cases hy : Text.isBlankText y with
    | false => exact Or.inl ⟨rfl, h.trans (idAt_of_given hy)⟩
    | true => exact Or.inr (Or.inr ⟨rfl, h.trans (idAt_of_blank hy)⟩)
  | true =>
    rw [idAt_of_blank hx] at h
    cases hy : Text.isBlankText y with
    | false => exact Or.inr (Or.inl ⟨rfl, (h.trans (idAt_of_given hy)).symm⟩)
    | true => exact absurd (numberedId_injective (h.trans (idAt_of_blank hy))) hij

theorem Findings.map_id_normalize (a : Findings) :
    a.normalize.features.map (·.id) = (a.named.map (·.id)).mapIdx Feature.idAt := by
  refine List.ext_getElem (by simp [features_normalize]) fun i _ _ => ?_
  simp [features_normalize, Feature.idAt, Feature.normalize]

/-- Ids by position are all different if no two given ids are the same, and none of them is the number of a
position that has none. -/
theorem Feature.nodup_mapIdx_idAt_iff {ids : List String} :
    (ids.mapIdx Feature.idAt).Nodup ↔
      (ids.Pairwise fun x y => Text.isBlankText x = false → x ≠ y) ∧
        ∀ i x, ids[i]? = some x → Text.isBlankText x = true → numberedId i ∉ ids := by
  constructor
  · intro hnodup
    have hinj : ∀ i j, (hi : i < ids.length) → (hj : j < ids.length) →
        idAt i ids[i] = idAt j ids[j] → i = j := by
      intro i j hi hj hsame
      have hi' : i < (ids.mapIdx idAt).length := by rwa [List.length_mapIdx]
      have hj' : j < (ids.mapIdx idAt).length := by rwa [List.length_mapIdx]
      have hget : (ids.mapIdx idAt)[i] = (ids.mapIdx idAt)[j] := by
        rw [List.getElem_mapIdx, List.getElem_mapIdx, hsame]
      exact hnodup.getElem_inj_iff.mp hget
    refine ⟨List.pairwise_iff_getElem.mpr fun i j hi hj hij hx hsame => ?_, fun i x hix hx hmem => ?_⟩
    · refine hij.ne (hinj i j hi hj ?_)
      rw [← hsame, idAt_of_given hx, idAt_of_given hx]
    · obtain ⟨hi, rfl⟩ := List.getElem?_eq_some_iff.mp hix
      obtain ⟨j, hj, hji⟩ := List.getElem_of_mem hmem
      have hnumber : idAt j ids[j] = numberedId i := by
        rw [hji]
        exact idAt_of_given (isBlankText_numberedId i)
      obtain rfl := hinj i j hi hj ((idAt_of_blank hx).trans hnumber.symm)
      rw [hji, isBlankText_numberedId] at hx
      cases hx
  · rintro ⟨hgiven, hnumbered⟩
    rw [List.nodup_iff_pairwise_ne, List.pairwise_iff_getElem]
    intro i j hi hj hij hsame
    rw [List.length_mapIdx] at hi hj
    rw [List.getElem_mapIdx, List.getElem_mapIdx] at hsame
    rcases idAt_eq_idAt hij.ne hsame with ⟨hx, hxy⟩ | ⟨hx, hy⟩ | ⟨hy, hx⟩
    · exact List.pairwise_iff_getElem.mp hgiven i j hi hj hij hx hxy
    · exact hnumbered i _ (List.getElem?_eq_getElem hi) hx (hy ▸ List.getElem_mem hj)
    · exact hnumbered j _ (List.getElem?_eq_getElem hj) hy (hx ▸ List.getElem_mem hi)

theorem Findings.nodup_ids_normalize_iff : (a.normalize.features.map (·.id)).Nodup ↔ a.Apart := by
  rw [map_id_normalize, Feature.nodup_mapIdx_idAt_iff]
  exact ⟨fun ⟨hgiven, hnumbered⟩ => ⟨hgiven, hnumbered⟩, fun h => ⟨h.given, h.numbered⟩⟩

end Backlog
