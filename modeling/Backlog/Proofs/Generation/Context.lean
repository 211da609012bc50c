import Backlog.Generation.Context
import Backlog.Proofs.Ticket.Wire
import Backlog.Store.Basic

/-! # Contexts are read back

A context is a tagged record. It is read back from its text (`reread_eq`) if its numbers have the sizes that are
read, the keys of its counts ascend, and its hours are such as documents keep (`Kept`). Hours that are no finite
number make a context that cannot be read at all (`hours_of_reread`). -/

namespace Backlog

open Json

/-! ### Parts of contexts -/

/-- **A count as it is made**: keys ascend, and numbers have 64 bits. -/
structure Tally.Sized (c : Tally) : Prop where
  ascend : c.Pairwise (·.1 < ·.1)
  counts : ∀ e ∈ c, e.2 < word64

theorem Tally.readMap_write {c : Tally} (hc : c.Sized) : readMap (readNat word64) (Context.writeTally c) = .ok c :=
  readMap_object (fun e he => readNat_ofNat (hc.counts e he) le_rfl) hc.ascend

theorem Tally.sound_write {d : ℕ} {c : Tally} (hc : c.Sized) : Sound (d + 1) (Context.writeTally c) := by
  refine sound_object fun m hm => ?_
  obtain ⟨e, he, rfl⟩ := List.mem_map.mp hm
  exact sound_ofNat (hc.counts e he)

namespace FeatureBrief

/-- **A brief with numbers of their sizes**, and hours that documents keep. -/
structure Kept (b : FeatureBrief) : Prop where
  complexity : b.complexity < 256
  fileCount : b.fileCount < word64
  hours : Keeps b.hours

variable {b : FeatureBrief}

theorem copied (hb : b.Kept) {d : ℕ} : Copied (Sound d) b fields ⟨"", "", 0, false, 0, 0⟩ b :=
  .string (sound_string _) <| .string (sound_string _) <|
    .of (sound_ofNat (lt_trans hb.complexity (by decide))) (readNat_ofNat hb.complexity (by decide)) <|
    .of (sound_bool _) rfl <| .of (sound_ofNat hb.fileCount) (readNat_ofNat hb.fileCount le_rfl) <|
    .of (sound_ofFloat hb.hours) hb.hours <| .nil _

theorem sound_write (hb : b.Kept) {d : ℕ} : Sound (d + 1) b.write := sound_ofRecord (copied hb)

theorem read_write (hb : b.Kept) : read b.write = .ok b :=
  readRecord_ofRecord (by decide) (copied hb (d := 0))

/-- A brief is a document whatever its numbers are. -/
theorem whole_write (b : FeatureBrief) : b.write.Whole := by
  refine .object fun ⟨name, v⟩ hm => ?_
  obtain ⟨f, hf, -, hv⟩ := mem_recordMembers.mp hm
  simp only [fields, List.mem_cons, List.not_mem_nil, or_false] at hf
  rcases hf with rfl | rfl | rfl | rfl | rfl | rfl <;> cases hv
  · exact .string _
  · exact .string _
  · exact .number (Numeral.literal_ofInt _)
  · exact .bool _
  · exact .number (Numeral.literal_ofInt _)
  · exact whole_ofFloat _

theorem ofFloat_hours_of_read {b' : FeatureBrief} (h : read b.write = .ok b') : ofFloat b.hours ≠ .null := by
  intro hnull
  rw [read, write, ofRecord, readRecord, bind_eq_ok] at h
  obtain ⟨_, h, -⟩ := h
  simp [recordMembers, fields, RecordField.string, RecordField.of, putMembers, hnull, readFloat, wrongKind,
    bind_eq_ok, Except.map] at h

end FeatureBrief

/-! ### Contexts -/

namespace Context

/-- **A context that is read back as it was written.** -/
def Kept : Context → Prop
  | techStack _ o => IsByte o
  | features bs => ∀ b ∈ bs, b.Kept
  | fileStructure n ds es => n < word64 ∧ ds.Sized ∧ es.Sized
  | dependencies n m _ => n < word64 ∧ m < word64

theorem carried_techStack (ts : List String) {o : Option ℕ} (ho : IsByte o) :
    Carried "context_type" techStackFields ([], none) (ts, o) where
  names := by decide
  copied := .of (sound_textList _) (readList_textList _) <| .of (sound_byte ho) (readOption_byte ho) <| .nil _

theorem carried_features {bs : List FeatureBrief} (hbs : ∀ b ∈ bs, b.Kept) :
    Carried "context_type" featuresFields [] bs where
  names := by decide
  copied := .of (sound_ofList fun b hb => FeatureBrief.sound_write (hbs b hb))
    (readList_ofList fun b hb => FeatureBrief.read_write (hbs b hb)) <| .nil _

theorem carried_fileStructure {n : ℕ} {ds es : Tally} (hn : n < word64) (hds : ds.Sized) (hes : es.Sized) :
    Carried "context_type" fileStructureFields (0, [], []) (n, ds, es) where
  names := by decide
  copied := .of (sound_ofNat hn) (readNat_ofNat hn le_rfl) <|
    .of (Tally.sound_write hds) (Tally.readMap_write hds) <|
    .of (Tally.sound_write hes) (Tally.readMap_write hes) <| .nil _

theorem carried_dependencies {n m : ℕ} (p : List String) (hn : n < word64) (hm : m < word64) :
    Carried "context_type" dependenciesFields (0, 0, []) (n, m, p) where
  names := by decide
  copied := .of (sound_ofNat hn) (readNat_ofNat hn le_rfl) <| .of (sound_ofNat hm) (readNat_ofNat hm le_rfl) <|
    .of (sound_textList _) (readList_textList _) <| .nil _

variable {c : Context}

theorem whole_write (h : c.Kept) : c.write.Whole := by
  cases c with
  | techStack ts o => exact (carried_techStack ts h).whole
  | features bs => exact (carried_features h).whole
  | fileStructure n ds es => exact (carried_fileStructure h.1 h.2.1 h.2.2).whole
  | dependencies n m p => exact (carried_dependencies p h.1 h.2).whole

theorem read_write (h : c.Kept) : read c.write = .ok c := by
  cases c with
  | techStack ts o =>
    exact (carried_techStack ts h).readTagged reader? "tech_stack" (g := fun x => techStack x.1 x.2) rfl
  | features bs => exact (carried_features h).readTagged reader? "features" rfl
  | fileStructure n ds es =>
    exact (carried_fileStructure h.1 h.2.1 h.2.2).readTagged reader? "file_structure"
      (g := fun x => fileStructure x.1 x.2.1 x.2.2) rfl
  | dependencies n m p =>
    exact (carried_dependencies p h.1 h.2).readTagged reader? "dependency_analysis"
      (g := fun x => dependencies x.1 x.2.1 x.2.2) rfl

/-- **A context is read back from its text.** -/
theorem reread_eq (h : c.Kept) : c.reread = .ok c := by
  rw [reread, ofText_render read (whole_write h), read_write h]

theorem whole_features (bs : List FeatureBrief) : (features bs).write.Whole := by
  have hbriefs : (ofList FeatureBrief.write bs).Whole := .array fun v hv => by
    obtain ⟨b, -, rfl⟩ := List.mem_map.mp hv
    exact b.whole_write
  refine .object fun m hm => ?_
  rcases List.mem_pair.mp hm with rfl | rfl
  · exact .string _
  · exact hbriefs

/-- **Hours that are no finite number cannot be read again**: they are written as `null`, and with them the whole
context is lost. -/
theorem hours_of_reread {bs : List FeatureBrief} (h : (features bs).reread = .ok c) :
    ∀ b ∈ bs, ofFloat b.hours ≠ .null := by
  have hwrite : (features bs).write =
      .object [("context_type", .string "features"), ("features", ofList FeatureBrief.write bs)] := rfl
  rw [reread, ofText_render read (whole_features bs), read, hwrite, readTagged] at h
  split_ifs at h
  have hbriefs : ∃ bs', bs.mapM (FeatureBrief.read ∘ FeatureBrief.write) = .ok bs' := by
    simp [reader?, readRecord, featuresFields, RecordField.of, putMembers, map_eq_ok, bind_eq_ok, readList,
      ofList] at h
    exact h.imp fun _ => And.left
  intro b hb
  obtain ⟨bs', hbriefs⟩ := hbriefs
  obtain ⟨b', hb'⟩ := exists_of_mapM_eq_ok hbriefs b hb
  exact FeatureBrief.ofFloat_hours_of_read hb'

end Context

end Backlog
