import Backlog.Proofs.Feature.Partition
import Backlog.Proofs.Generation.Success

/-! # Counting the files of a manifest

The files of a manifest are counted one by one, each by its directory and by its extension (`countFile`). What the
counters hold after some files is an invariant of this (`Tally.CountsOf`): they list in ascending order each key
that occurred, with the number of times it did. There is one tally only that does so (`Tally.CountsOf.unique`), so
neither the order of the files matters nor whether they are counted one by one or each key at once.

* `Context.counted_foldl`: **no file is lost**, for each raises one number in each of the two tallies by one.
* `Context.directoryOf_eq_dot_iff`: the files under `.` are those at the top.
* `Context.staged_file_structure`: what a run says about its files accounts for each of them once. -/

namespace Backlog

open Text

/-! ### One more of a key -/

namespace Tally

variable {c c' : Tally} {k l : String} {keys keys' : List String}

/-- The number of a key, which is zero for one that is not listed. -/
def of (c : Tally) (k : String) : ℕ := (c.lookup k).getD 0

/-- All numbers together. -/
def total (c : Tally) : ℕ := (c.map (·.2)).sum

/-- One more of a key: its number is raised, or the key is put in at its place. -/
def bump (k : String) : Tally → Tally
  | [] => [(k, 1)]
  | (l, n) :: c =>
    if k = l then (l, n + 1) :: c
    else if k < l then (k, 1) :: (l, n) :: c
    else (l, n) :: bump k c

theorem total_bump (k : String) : ∀ c : Tally, (bump k c).total = c.total + 1
  | [] => rfl
  | (l, n) :: c => by
    have ih := total_bump k c
    unfold total at ih ⊢
    rw [bump]
    split_ifs
    · simp only [List.map_cons, List.sum_cons]
      omega
    · simp only [List.map_cons, List.sum_cons]
      omega
    · simp only [List.map_cons, List.sum_cons, ih]
      omega

theorem pos_bump : ∀ {c : Tally}, (∀ e ∈ c, 0 < e.2) → ∀ e ∈ bump k c, 0 < e.2
  | [], _ => by simp [bump]
  | (l, n) :: c, h => by
    obtain ⟨hn, hc⟩ := List.forall_mem_cons.mp h
    rw [bump]
    split_ifs
    · exact List.forall_mem_cons.mpr ⟨Nat.succ_pos n, hc⟩
    · exact List.forall_mem_cons.mpr ⟨Nat.one_pos, h⟩
    · exact List.forall_mem_cons.mpr ⟨hn, pos_bump hc⟩

/-- A key that is put in stands behind every key that it is behind. -/
theorem lt_of_mem_bump (hl : l < k) : ∀ {c : Tally}, (∀ e ∈ c, l < e.1) → ∀ e ∈ bump k c, l < e.1
  | [], _ => by simpa [bump] using hl
  | (l', n) :: c, h => by
    obtain ⟨hfirst, hc⟩ := List.forall_mem_cons.mp h
    rw [bump]
    split_ifs
    · exact List.forall_mem_cons.mpr ⟨hfirst, hc⟩
    · exact List.forall_mem_cons.mpr ⟨hl, h⟩
    · exact List.forall_mem_cons.mpr ⟨hfirst, lt_of_mem_bump hl hc⟩

/-- **Keys ascend.** -/
def Ascends (c : Tally) : Prop := c.Pairwise (·.1 < ·.1)

theorem ascends_bump : ∀ {c : Tally}, c.Ascends → (bump k c).Ascends
  | [], _ => List.pairwise_singleton _ _
  | (l, n) :: c, h => by
    obtain ⟨hl, hc⟩ := List.pairwise_cons.mp h
    rw [bump]
    split_ifs with heq hlt
    · exact List.pairwise_cons.mpr ⟨hl, hc⟩
    · refine List.pairwise_cons.mpr ⟨List.forall_mem_cons.mpr ⟨hlt, fun e he => ?_⟩, h⟩
      exact hlt.trans (hl e he)
    · have hbehind : l < k := lt_of_le_of_ne (not_lt.mp hlt) (Ne.symm heq)
      exact List.pairwise_cons.mpr ⟨lt_of_mem_bump hbehind hl, ascends_bump hc⟩

theorem of_nil (k : String) : of [] k = 0 := rfl

theorem of_cons (k l : String) (n : ℕ) (c : Tally) : of ((l, n) :: c) k = if k = l then n else c.of k := by
  rw [of, List.lookup_cons]
  by_cases h : k = l
  · rw [if_pos h, beq_iff_eq.mpr h]
    rfl
  · rw [if_neg h, beq_eq_false_iff_ne.mpr h]
    rfl

theorem of_of_forall_lt (h : ∀ e ∈ c, k < e.1) : c.of k = 0 := by
  have hnone : c.lookup k = none := by
    rw [List.lookup_eq_none_iff]
    intro e he
    simpa using (h e he).ne
  rw [of, hnone]
  rfl

theorem of_bump (k l : String) : ∀ {c : Tally}, c.Ascends → (bump k c).of l = c.of l + if l = k then 1 else 0
  | [], _ => by rw [bump, of_cons, of_nil, zero_add]
  | (m, n) :: c, h => by
    obtain ⟨hm, hc⟩ := List.pairwise_cons.mp h
    rw [bump]
    by_cases hkm : k = m
    · rw [if_pos hkm, of_cons, of_cons, hkm]
      split_ifs <;> rfl
    rw [if_neg hkm]
    by_cases hlt : k < m
    · have hnew : of ((m, n) :: c) k = 0 :=
        of_of_forall_lt (List.forall_mem_cons.mpr ⟨hlt, fun e he => hlt.trans (hm e he)⟩)
      rw [if_pos hlt, of_cons]
      split_ifs with hlk
      · rw [hlk, hnew]
      · rfl
    · rw [if_neg hlt, of_cons, of_cons, of_bump k l hc]
      split_ifs with hlm hlk
      · exact absurd (hlk.symm.trans hlm) hkm
      · rfl
      · rfl
      · rfl

/-! ### Tallies of keys -/

/-- **What a tally of keys holds**: every key that occurs, in ascending order, with the number of times it does. -/
structure CountsOf (c : Tally) (keys : List String) : Prop where
  ascend : c.Ascends
  listed : ∀ e ∈ c, 0 < e.2
  number : ∀ k, c.of k = keys.count k

theorem countsOf_nil : CountsOf [] [] := ⟨List.Pairwise.nil, by simp, fun _ => rfl⟩

theorem CountsOf.bump (h : c.CountsOf keys) (k : String) : (bump k c).CountsOf (keys ++ [k]) where
  ascend := ascends_bump h.ascend
  listed := pos_bump h.listed
  number l := by
    rw [of_bump k l h.ascend, h.number, List.count_append, List.count_singleton]
    by_cases hl : l = k
    · rw [if_pos hl, if_pos (beq_iff_eq.mpr hl.symm)]
    · rw [if_neg hl, if_neg (mt beq_iff_eq.mp (Ne.symm hl))]

theorem CountsOf.perm (h : c.CountsOf keys) (hkeys : keys'.Perm keys) : c.CountsOf keys' :=
  ⟨h.ascend, h.listed, fun k => (h.number k).trans (hkeys.count_eq k).symm⟩

theorem mem_iff_of : ∀ {c : Tally}, c.Ascends → (∀ e ∈ c, 0 < e.2) →
    ∀ e : String × ℕ, e ∈ c ↔ 0 < e.2 ∧ c.of e.1 = e.2
  | [], _, _, e => by
    rw [of_nil]
    constructor
    · intro h
      cases h
    · rintro ⟨hpos, hzero⟩
      omega
  | (m, v) :: c, h, hpos, e => by
    obtain ⟨hm, hc⟩ := List.pairwise_cons.mp h
    obtain ⟨hv, hpos⟩ := List.forall_mem_cons.mp hpos
    rw [List.mem_cons, mem_iff_of hc hpos, of_cons]
    by_cases hem : e.1 = m
    · have hrest : of c e.1 = 0 := of_of_forall_lt (hem ▸ hm)
      rw [if_pos hem, hrest, Prod.ext_iff]
      simp only [hem, true_and]
      omega
    · rw [if_neg hem, Prod.ext_iff]
      simp only [hem, false_and, false_or]

/-- **There is one tally of some keys.** -/
theorem CountsOf.unique (h : c.CountsOf keys) (h' : c'.CountsOf keys) : c = c' := by
  have hirrefl : Std.Irrefl fun e f : String × ℕ => e.1 < f.1 := ⟨fun e => lt_irrefl e.1⟩
  have hantisymm : Std.Antisymm fun e f : String × ℕ => e.1 < f.1 :=
    ⟨fun _ _ hlt hgt => absurd (hlt.trans hgt) (lt_irrefl _)⟩
  refine h.ascend.eq_of_mem_iff h'.ascend fun e => ?_
  rw [mem_iff_of h.ascend h.listed, mem_iff_of h'.ascend h'.listed, h.number, h'.number]

end Tally

/-! ### Counting a file -/

namespace Context

variable {files files' : List String} {path : String} {cs rest : List Char}

/-- Each key at once is counted as the keys are one by one. -/
theorem countsOf_tally (keys : List String) : Tally.CountsOf (tally keys) keys where
  ascend := List.pairwise_map.mpr (ascending_mergeSort (nodup_eraseDups keys))
  listed := by
    rintro e he
    obtain ⟨k, hk, rfl⟩ := List.mem_map.mp he
    rw [List.mem_mergeSort, List.mem_eraseDups] at hk
    exact List.count_pos_iff.mpr hk
  number k := by
    by_cases hk : k ∈ keys
    · have hlisted : k ∈ keys.eraseDups.mergeSort atMost := by rwa [List.mem_mergeSort, List.mem_eraseDups]
      rw [Tally.of, tally, List.lookup_graph _ hlisted]
      rfl
    · have hnone : (tally keys).lookup k = none := by
        rw [List.lookup_eq_none_iff]
        intro e he
        obtain ⟨l, hl, rfl⟩ := List.mem_map.mp he
        rw [List.mem_mergeSort, List.mem_eraseDups] at hl
        simpa using ne_of_mem_of_not_mem hl hk |>.symm
      rw [Tally.of, hnone, List.count_eq_zero.mpr hk]
      rfl

/-- What is counted so far, by directory and by extension. -/
abbrev Counters := Tally × Tally

/-- **One file is counted** by its directory and by its extension. -/
def countFile (s : Counters) (path : String) : Counters :=
  (Tally.bump (directoryOf path) s.1, Tally.bump (extensionOf path) s.2)

/-- **The counters of some files.** -/
structure Counted (s : Counters) (files : List String) : Prop where
  directories : s.1.CountsOf (files.map directoryOf)
  extensions : s.2.CountsOf (files.map extensionOf)
  allDirectories : s.1.total = files.length
  allExtensions : s.2.total = files.length

variable {s : Counters}

theorem Counted.countFile (h : Counted s files) (path : String) : Counted (countFile s path) (files ++ [path]) where
  directories := by
    rw [List.map_append]
    exact h.directories.bump _
  extensions := by
    rw [List.map_append]
    exact h.extensions.bump _
  allDirectories := by
    rw [List.length_append, ← h.allDirectories]
    exact Tally.total_bump _ _
  allExtensions := by
    rw [List.length_append, ← h.allExtensions]
    exact Tally.total_bump _ _

theorem Counted.foldl_countFile (h : Counted s files) : ∀ files' : List String,
    Counted (files'.foldl Context.countFile s) (files ++ files') := by
  intro files'
  induction files' generalizing s files with
  | nil => rwa [List.append_nil]
  | cons path files' ih =>
    rw [List.foldl_cons, List.append_cons]
    exact ih (h.countFile path)

theorem counted_foldl (files : List String) : Counted (files.foldl countFile ([], [])) files := by
  have hnone : Counted ([], []) [] := ⟨Tally.countsOf_nil, Tally.countsOf_nil, rfl, rfl⟩
  exact hnone.foldl_countFile files

theorem Counted.perm (h : Counted s files) (hfiles : files'.Perm files) : Counted s files' :=
  ⟨h.directories.perm (hfiles.map _), h.extensions.perm (hfiles.map _),
    h.allDirectories.trans hfiles.length_eq.symm, h.allExtensions.trans hfiles.length_eq.symm⟩

/-- The file structure tells what is counted. -/
theorem Counted.ofFiles (h : Counted s files) : ofFiles files = fileStructure files.length s.1 s.2 := by
  have hdirectories := (countsOf_tally _).unique h.directories
  have hextensions := (countsOf_tally _).unique h.extensions
  rw [Context.ofFiles, hdirectories, hextensions]

end Context

/-! ### Files at the top -/

namespace Path

variable {cs rest : List Char}

/-- A path is its leading `./` and what is left without them. -/
theorem exists_heres (cs : List Char) : ∃ n, cs = (List.replicate n ['.', '/']).flatten ++ dropHere cs := by
  fun_induction dropHere cs with
  | case1 cs ih =>
    obtain ⟨n, hn⟩ := ih
    refine ⟨n + 1, ?_⟩
    rw [List.replicate_succ, List.flatten_cons, List.append_assoc, ← hn]
    rfl
  | case2 cs _ => exact ⟨0, rfl⟩

theorem dropHere_ne (cs rest : List Char) : dropHere cs ≠ '.' :: '/' :: rest := by
  fun_induction dropHere cs with
  | case1 cs ih => exact ih
  | case2 cs hnone => exact fun h => hnone rest h

theorem dropHere_heres (rest : List Char) :
    ∀ n, dropHere ((List.replicate n ['.', '/']).flatten ++ rest) = dropHere rest
  | 0 => rfl
  | n + 1 => by
    rw [List.replicate_succ, List.flatten_cons, List.append_assoc]
    exact dropHere_heres rest n

theorem dropHere_of_notMem (h : '/' ∉ cs) : dropHere cs = cs := by
  fun_cases dropHere cs with
  | case1 cs => exact absurd h (by simp)
  | case2 cs _ => rfl

end Path

namespace Context

variable {files files' : List String} {path : String}

/-- **A file at the top**: but for any number of leading `./` its path has no slash. -/
def AtTop (path : String) : Prop :=
  ∃ n rest, path.toList = (List.replicate n ['.', '/']).flatten ++ rest ∧ '/' ∉ rest

theorem atTop_iff : AtTop path ↔ '/' ∉ Path.dropHere path.toList := by
  constructor
  · rintro ⟨n, rest, hpath, hrest⟩
    rwa [hpath, Path.dropHere_heres, Path.dropHere_of_notMem hrest]
  · intro h
    obtain ⟨n, hn⟩ := Path.exists_heres path.toList
    exact ⟨n, _, hn, h⟩

instance (path : String) : Decidable (AtTop path) := decidable_of_iff _ atTop_iff.symm

/-- **The files at the top** are those counted under `.`: no path that is rid of its leading `./` starts in a directory
of that name. -/
theorem directoryOf_eq_dot_iff : directoryOf path = "." ↔ AtTop path := by
  rw [atTop_iff, ← cutFirst_eq_none, directoryOf]
  cases hcut : cutFirst '/' (Path.dropHere path.toList) with
  | none => simp
  | some parts =>
    obtain ⟨top, rest⟩ := parts
    obtain ⟨hpath, -⟩ := append_of_cutFirst hcut
    simp only [reduceCtorEq, iff_false]
    intro htop
    have hdot : top = ['.'] := by rw [← String.toList_ofList (l := top), htop]; rfl
    rw [hdot] at hpath
    exact Path.dropHere_ne _ _ hpath

/-! ### What a run says about the files -/

/-- The contexts of a kind. -/
def ofKind (kind : String) (cs : List Context) : List Context := cs.filter fun c => c.kind == kind

theorem ofKind_stage (files : List String) (found : Option Findings) (a : Analysis) :
    ofKind "file_structure" (stage files found a) = [ofFiles files] := by
  cases found <;> rfl

/-- **The file structure of a run.** Whatever features and dependencies were found, a run says once how its files are
laid out. Its two tallies list each directory and each extension that occurs, in ascending order, with the number
of files that have it, which is not zero; the numbers in each add up to the number of files; and under `.` are the
files at the top. The order of the manifest does not matter. And a run says nothing of one kind twice. -/
theorem staged_file_structure (files : List String) (found : Option Findings) (a : Analysis) :
    ∃ directories extensions : Tally,
      ofKind "file_structure" (stage files found a) = [fileStructure files.length directories extensions] ∧
      (directories.CountsOf (files.map directoryOf) ∧ directories.total = files.length) ∧
      (extensions.CountsOf (files.map extensionOf) ∧ extensions.total = files.length) ∧
      (∀ path, directoryOf path = "." ↔ AtTop path) ∧
      directories.of "." = files.countP (fun path => decide (AtTop path)) ∧
      (∀ files' found' a', files'.Perm files →
        ofKind "file_structure" (stage files' found' a') = [fileStructure files.length directories extensions]) ∧
      ((stage files found a).map (·.kind)).Nodup := by
  have hcounted := counted_foldl files
  set s := files.foldl countFile ([], [])
  refine ⟨s.1, s.2, ?_, ⟨hcounted.directories, hcounted.allDirectories⟩,
    ⟨hcounted.extensions, hcounted.allExtensions⟩, fun path => directoryOf_eq_dot_iff, ?_, ?_,
    Planner.nodup_kind_stage files found a⟩
  · rw [ofKind_stage, hcounted.ofFiles]
  · rw [hcounted.directories.number, List.count, List.countP_map]
    refine List.countP_congr fun path _ => ?_
    simp [directoryOf_eq_dot_iff]
  · intro files' found' a' hfiles
    rw [ofKind_stage, (hcounted.perm hfiles).ofFiles, hfiles.length_eq]

/-- A manifest with an entry without a name, a hidden file behind `./` twice, and two slashes in a row. -/
def looseFiles : List String := ["package.json", "src/app.tsx", "././.env", "", "src//", "./src/lib/DB.TS"]

theorem staged_file_structure_loose :
    ∃ directories extensions : Tally,
      ofKind "file_structure" (stage looseFiles none ⟨⟨[], []⟩, [], [], false, []⟩) =
        [fileStructure 6 directories extensions] ∧
      (directories.of "." = 3 ∧ directories.of "src" = 3 ∧ directories.total = 6) ∧
      (extensions.of "" = 3 ∧ extensions.of "ts" = 1 ∧ extensions.total = 6) ∧
      looseFiles.reverse.Perm looseFiles ∧
      ofKind "file_structure" (stage looseFiles.reverse (some ⟨[], [], none⟩) ⟨⟨[], []⟩, [], [], false, []⟩) =
        [fileStructure 6 directories extensions] := by
  obtain ⟨directories, extensions, hstage, ⟨hdirectories, htotal⟩, ⟨hextensions, htotal'⟩, -, htop, horder, -⟩ :=
    staged_file_structure looseFiles none ⟨⟨[], []⟩, [], [], false, []⟩
  refine ⟨directories, extensions, hstage, ⟨?_, ?_, htotal⟩, ⟨?_, ?_, htotal'⟩, List.reverse_perm _,
    horder _ _ _ (List.reverse_perm _)⟩
  · rw [htop]
    decide
  · rw [hdirectories.number]
    decide
  · rw [hextensions.number]
    decide
  · rw [hextensions.number]
    decide +kernel

end Context

end Backlog
