import Backlog.Proofs.Feature.Grouping
import Backlog.Proofs.Text.Ascending
import Backlog.Proofs.Text.Keywords

/-! # How the file tree is shared out

The groups of a manifest are ascending and each is there once (`ascending_groups`, `mem_groups`). What a group
holds are the entries that belong to it, in the order of the manifest, so the groups together hold each entry
that has a group as often as it is listed (`flatMap_entriesOf_perm`). In what order the manifest lists its
entries matters to nothing but the order of the files in a feature (`reordered_featureOf`).

* `extract_shares_out`: **the features share out the manifest**. -/

namespace Backlog.Grouping

variable {files files' : List String} {f : Feature} {g p : String}

/-! ### Groups -/

theorem mem_groups : g ∈ groups files ↔ ∃ p ∈ files, group? p = some g := by
  rw [groups, List.mem_mergeSort, List.mem_eraseDups, List.mem_filterMap]

/-- **Groups are ascending**, so each is there once. -/
theorem ascending_groups (files : List String) : (groups files).Pairwise (· < ·) :=
  Text.ascending_mergeSort (Text.nodup_eraseDups _)

theorem nodup_groups (files : List String) : (groups files).Nodup := (ascending_groups files).imp fun hlt => hlt.ne

theorem groups_of_perm (h : files'.Perm files) : groups files' = groups files := by
  refine (ascending_groups files').eq_of_mem_iff (ascending_groups files) fun g => ?_
  simp only [mem_groups, h.mem_iff]

theorem length_groups_le (files : List String) : (groups files).length ≤ files.length := by
  have hsub : groups files ⊆ files.filterMap group? := by
    intro g hg
    exact List.mem_filterMap.mpr (mem_groups.mp hg)
  have hle := (List.subperm_of_subset (nodup_groups files) hsub).length_le
  exact hle.trans (List.length_filterMap_le _ _)

/-! ### What a group holds -/

/-- The entries of a manifest that belong to a group. -/
def entriesOf (files : List String) (g : String) : List String := files.filter fun p => group? p == some g

theorem mem_entriesOf : p ∈ entriesOf files g ↔ p ∈ files ∧ group? p = some g := by
  rw [entriesOf, List.mem_filter, beq_iff_eq]

/-- What belongs to one of two sets of groups that have none in common belongs to the one or to the other. -/
theorem filter_or_perm {α : Type} {a b : α → Bool} (l : List α) (h : ∀ x ∈ l, a x = true → b x = false) :
    (l.filter a ++ l.filter b).Perm (l.filter fun x => a x || b x) := by
  have hleft : (l.filter fun x => a x || b x).filter a = l.filter a := by
    rw [List.filter_filter]
    refine List.filter_congr fun x _ => ?_
    cases a x <;> rfl
  have hright : (l.filter fun x => a x || b x).filter (fun x => !a x) = l.filter b := by
    rw [List.filter_filter]
    refine List.filter_congr fun x hx => ?_
    cases ha : a x with
    | false => rfl
    | true => rw [h x hx ha]; rfl
  have hperm := List.filter_append_perm a (l.filter fun x => a x || b x)
  rwa [hleft, hright] at hperm

/-- **Groups hold each of their entries** as often as it is listed. -/
theorem flatMap_entriesOf_perm (files : List String) : ∀ {gs : List String}, gs.Nodup →
    (gs.flatMap (entriesOf files)).Perm (files.filter fun p => gs.any fun g => group? p == some g)
  | [], _ => by simp
  | g :: gs, h => by
    obtain ⟨hg, hgs⟩ := List.nodup_cons.mp h
    have hapart : ∀ p ∈ files, (group? p == some g) = true → (gs.any fun g' => group? p == some g') = false := by
      intro p _ hp
      rw [beq_iff_eq.mp hp, List.any_eq_false]
      intro g' hg' hsame
      have heq : g = g' := Option.some.inj (beq_iff_eq.mp hsame)
      exact hg (heq ▸ hg')
    rw [List.flatMap_cons]
    exact ((flatMap_entriesOf_perm files hgs).append_left _).trans (filter_or_perm files hapart)

theorem flatMap_groups_perm (files : List String) :
    ((groups files).flatMap (entriesOf files)).Perm (files.filter fun p => (group? p).isSome) := by
  have hheld : (files.filter fun p => (groups files).any fun g => group? p == some g) =
      files.filter fun p => (group? p).isSome := by
    refine List.filter_congr fun p hp => ?_
    rw [Bool.eq_iff_iff, List.any_eq_true]
    constructor
    · rintro ⟨g, -, hg⟩
      rw [beq_iff_eq.mp hg]
      rfl
    · intro hsome
      obtain ⟨g, hg⟩ := Option.isSome_iff_exists.mp hsome
      exact ⟨g, mem_groups.mpr ⟨p, hp, hg⟩, beq_iff_eq.mpr hg⟩
  have hperm := flatMap_entriesOf_perm files (nodup_groups files)
  rwa [hheld] at hperm

/-! ### Features -/

theorem map_files_extract (files : List String) :
    (extract files).features.map (·.files) = (groups files).map (entriesOf files) := by
  refine List.ext_getElem (by simp [features_extract]) fun i _ _ => ?_
  simp [features_extract, featureOf, entriesOf]

theorem exists_of_mem_extract (h : f ∈ (extract files).features) : ∃ g ∈ groups files, f.files = entriesOf files g := by
  have hfiles : f.files ∈ (groups files).map (entriesOf files) := by
    rw [← map_files_extract]
    exact List.mem_map_of_mem h
  obtain ⟨g, hg, hf⟩ := List.mem_map.mp hfiles
  exact ⟨g, hg, hf.symm⟩

/-- **Features that share out a manifest**: every entry that has a group is in the files of one feature, as often as it
is listed, and no other entry is in any; within a feature the files keep the order of the manifest. There is one
feature for each group, which holds something, and they are numbered in the order of their groups. -/
structure SharesOut (files : List String) (fs : List Feature) : Prop where
  once : (fs.flatMap (·.files)).Perm (files.filter fun p => (group? p).isSome)
  apart : fs.Pairwise fun f f' => ∀ p ∈ f.files, p ∉ f'.files
  inOrder : ∀ f ∈ fs, f.files.Sublist files
  inhabited : ∀ f ∈ fs, f.files ≠ []
  numbered : fs.map (·.id) = (List.range fs.length).map Feature.numberedId
  ofGroups : ∃ gs, gs.Pairwise (· < ·) ∧ (∀ g, g ∈ gs ↔ ∃ p ∈ files, group? p = some g) ∧
    List.Forall₂ (fun f g => ∀ p, p ∈ f.files ↔ p ∈ files ∧ group? p = some g) fs gs

theorem sharesOut_extract (files : List String) : SharesOut files (extract files).features where
  once := by
    have hflat : (extract files).features.flatMap (·.files) = (groups files).flatMap (entriesOf files) := by
      rw [List.flatMap_def, map_files_extract, ← List.flatMap_def]
    rw [hflat]
    exact flatMap_groups_perm files
  apart := by
    have hgroups : ((groups files).map (entriesOf files)).Pairwise fun a b => ∀ p ∈ a, p ∉ b := by
      refine List.pairwise_map.mpr ((nodup_groups files).imp fun hne p hp hp' => hne ?_)
      exact Option.some.inj ((mem_entriesOf.mp hp).2.symm.trans (mem_entriesOf.mp hp').2)
    rw [← map_files_extract] at hgroups
    exact List.pairwise_map.mp hgroups
  inOrder := by
    intro f hf
    obtain ⟨g, -, hfiles⟩ := exists_of_mem_extract hf
    rw [hfiles]
    exact List.filter_sublist
  inhabited := by
    intro f hf
    obtain ⟨g, hg, hfiles⟩ := exists_of_mem_extract hf
    obtain ⟨p, hp, hpg⟩ := mem_groups.mp hg
    rw [hfiles]
    exact List.ne_nil_of_mem (mem_entriesOf.mpr ⟨hp, hpg⟩)
  numbered := by
    have hlength : (extract files).features.length = (groups files).length := by
      rw [features_extract, List.length_mapIdx]
    rw [map_id_extract, hlength]
  ofGroups := by
    refine ⟨groups files, ascending_groups files, fun g => mem_groups, ?_⟩
    have hheld : List.Forall₂ (fun (own : List String) g => ∀ p, p ∈ own ↔ p ∈ files ∧ group? p = some g)
        ((extract files).features.map (·.files)) (groups files) := by
      rw [map_files_extract, List.forall₂_map_left_iff, List.forall₂_same]
      exact fun g _ p => mem_entriesOf
    exact List.forall₂_map_left_iff.mp hheld

/-! ### Complexities -/

theorem complexity_eq_none_iff : (extract files).complexity = none ↔ (extract files).features = [] := by
  show averageComplexity (extract files).features = none ↔ _
  unfold averageComplexity
  simp

theorem complexity_mem {c : ℕ} (h : (extract files).complexity = some c) : 1 ≤ c ∧ c ≤ 10 := by
  have hclamp : averageComplexity (extract files).features = some c := h
  unfold averageComplexity at hclamp
  split_ifs at hclamp
  rw [← Option.some.inj hclamp]
  exact clampComplexity_mem _

/-- Added up, the complexities of a manifest's features are at most ten times as much as it has entries. -/
theorem sum_complexities_le (files : List String) :
    ((extract files).features.map (·.complexity)).sum ≤ files.length * 10 := by
  have hten : ∀ c ∈ (extract files).features.map (·.complexity), c ≤ 10 := by
    intro c hc
    obtain ⟨f, hf, rfl⟩ := List.mem_map.mp hc
    exact (of_mem_extract hf).1.2
  have hsum := List.sum_le_card_nsmul _ 10 hten
  have hle := length_groups_le files
  rw [List.length_map, features_extract, List.length_mapIdx, smul_eq_mul] at hsum
  rw [features_extract]
  omega

/-! ### Manifests in another order -/

/-- Features that differ in the order of their files at most. -/
def Reordered (f' f : Feature) : Prop := f' = { f with files := f'.files } ∧ f'.files.Perm f.files

theorem reordered_featureOf (h : files'.Perm files) (i : ℕ) (g : String) :
    Reordered (featureOf files' i g) (featureOf files i g) := by
  have hown : (files'.filter fun p => group? p == some g).Perm (files.filter fun p => group? p == some g) :=
    h.filter _
  refine ⟨?_, hown⟩
  simp only [featureOf, hown.length_eq, hown.any_eq]

theorem reordered_extract (h : files'.Perm files) :
    List.Forall₂ Reordered (extract files').features (extract files).features := by
  rw [features_extract, features_extract, groups_of_perm h, List.forall₂_iff_get]
  refine ⟨by simp, fun i _ _ => ?_⟩
  simpa using reordered_featureOf h i _

theorem averageComplexity_of_reordered {fs' fs : List Feature} (h : List.Forall₂ Reordered fs' fs) :
    averageComplexity fs' = averageComplexity fs := by
  have hsame : fs'.map (·.complexity) = fs.map (·.complexity) := by
    induction h with
    | nil => rfl
    | cons hf _ ih => rw [List.map_cons, List.map_cons, ih, congrArg Feature.complexity hf.1]
  have hempty : fs'.isEmpty = fs.isEmpty := by cases h <;> rfl
  rw [averageComplexity, averageComplexity, hempty, hsame, h.length_eq]

/-- **The features of the file tree** share out the manifest, each with a complexity from 1 to 10. Of a manifest with
fewer than 2²⁸ entries the complexities add up to a number of 32 bits; the overall complexity is from 1 to 10 and
is there if and only if there is a feature. A manifest in another order gives the same features, but for the order
of the files in each. -/
theorem extract_shares_out (files : List String) (hsize : files.length < 2 ^ 28) :
    SharesOut files (extract files).features ∧
      (∀ f ∈ (extract files).features, 1 ≤ f.complexity ∧ f.complexity ≤ 10) ∧
      ((extract files).features.map (·.complexity)).sum < 2 ^ 32 ∧
      ((extract files).complexity = none ↔ (extract files).features = []) ∧
      (∀ c, (extract files).complexity = some c → 1 ≤ c ∧ c ≤ 10) ∧
      ∀ files', files'.Perm files →
        List.Forall₂ Reordered (extract files').features (extract files).features ∧
          (extract files').complexity = (extract files).complexity := by
  refine ⟨sharesOut_extract files, fun f hf => (of_mem_extract hf).1, ?_, complexity_eq_none_iff,
    fun c hc => complexity_mem hc, fun files' h => ⟨reordered_extract h, averageComplexity_of_reordered (reordered_extract h)⟩⟩
  have hsum := sum_complexities_le files
  omega

/-- The files of a shop: two source roots have a directory of one name, one file is listed twice, and two files belong
to no group. -/
def shopFiles : List String :=
  ["src/cart/a.ts", "README.md", "./app//cart/b.ts", "src/cart/a.ts", "node_modules/x/y.js", "server/x.rs"]

theorem extract_shares_out_shop :
    shopFiles.length < 2 ^ 28 ∧
      ((extract shopFiles).features.flatMap (·.files)).Perm
        ["src/cart/a.ts", "./app//cart/b.ts", "src/cart/a.ts", "server/x.rs"] ∧
      (∃ gs : List String, gs.Pairwise (· < ·) ∧ "cart" ∈ gs ∧ "app" ∉ gs ∧ gs.length = (extract shopFiles).features.length) ∧
      (∀ f ∈ (extract shopFiles).features, "README.md" ∉ f.files) ∧
      List.Forall₂ Reordered (extract shopFiles.reverse).features (extract shopFiles).features := by
  obtain ⟨hshare, -, -, -, -, horder⟩ := extract_shares_out shopFiles (by decide)
  have hgrouped : (shopFiles.filter fun p => (group? p).isSome) =
      ["src/cart/a.ts", "./app//cart/b.ts", "src/cart/a.ts", "server/x.rs"] := rfl
  have honce := hshare.once
  rw [hgrouped] at honce
  obtain ⟨gs, hascending, hgs, heach⟩ := hshare.ofGroups
  have hcart : "cart" ∈ gs := (hgs "cart").mpr (by decide)
  have happ : "app" ∉ gs := fun h => absurd ((hgs "app").mp h) (by decide)
  refine ⟨by decide, honce, ⟨gs, hascending, hcart, happ, heach.length_eq.symm⟩, ?_,
    (horder _ (List.reverse_perm _)).1⟩
  intro f hf hreadme
  have hmem := honce.mem_iff.mp (List.mem_flatMap.mpr ⟨f, hf, hreadme⟩)
  exact absurd hmem (by decide)

end Backlog.Grouping
