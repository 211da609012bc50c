import Backlog.Http.Form
import Backlog.Proofs.Text.Split

/-! # Queries that are written

A plain text has no character that means something in a query, so it stands for itself (`decode_of_plain`). Fields
with plain names and values are read back from the query that they are written to (`fields_write`). -/

namespace Backlog

open Text

variable {c : Char} {cs : List Char} {n : ℕ} {bs : List ℕ} {fs : List (String × String)} {f : String × String}

/-! ### Bytes of plain texts -/

theorem Text.Utf8.encode_of_ascii (h : ∀ c ∈ cs, c.toNat < 128) : Utf8.encode cs = cs.map Char.toNat := by
  induction cs with
  | nil => rfl
  | cons c cs ih =>
    obtain ⟨hc, hcs⟩ := List.forall_mem_cons.mp h
    have hsize : c.utf8Size = 1 := Char.utf8Size_eq_one_iff.mpr (UInt32.le_iff_toNat_le.mpr (Nat.le_of_lt_succ hc))
    have hbyte : (String.utf8EncodeChar c).map UInt8.toNat = [c.toNat] := by
      rw [String.utf8EncodeChar_eq_singleton hsize, List.map_singleton]
      exact congrArg (fun n => [n]) (Nat.mod_eq_of_lt (by exact Nat.lt_trans hc (by decide)))
    rw [Utf8.encode, List.flatMap_cons, List.map_append, hbyte, List.map_cons, ← ih hcs]
    rfl

theorem Text.Utf8.chars_of_ascii (h : ∀ c ∈ cs, c.toNat < 128) : Utf8.chars (cs.map Char.toNat) = cs.map some := by
  induction cs with
  | nil => simp [Utf8.chars]
  | cons c cs ih =>
    obtain ⟨hc, hcs⟩ := List.forall_mem_cons.mp h
    have hlead : Utf8.lead? c.toNat = some ⟨0, 0x80, 0xBF, c.toNat⟩ := if_pos hc
    rw [List.map_cons, Utf8.chars, hlead]
    simp [Utf8.take, ih hcs]

namespace Form

theorem unescape_of_notMem : ∀ {bs : List ℕ}, percent ∉ bs → unescape bs = bs
  | [], _ => rfl
  | [_], _ => rfl
  | [_, _], _ => rfl
  | p :: a :: b :: rest, h => by
    obtain ⟨hp, hrest⟩ := not_or.mp (mt List.mem_cons.mpr h)
    rw [unescape, if_neg (Ne.symm hp)]
    exact congrArg (p :: ·) (unescape_of_notMem hrest)

/-- Whether a character is of ASCII and has no meaning in a query. -/
def isPlain (c : Char) : Bool := decide (c.toNat < 128 ∧ c ≠ '&' ∧ c ≠ '=' ∧ c ≠ '%' ∧ c ≠ '+')

theorem of_mem_plain (h : cs.all isPlain = true) (hc : c ∈ cs) :
    c.toNat < 128 ∧ c ≠ '&' ∧ c ≠ '=' ∧ c ≠ '%' ∧ c ≠ '+' :=
  of_decide_eq_true (List.all_eq_true.mp h c hc)

theorem decode_of_plain (h : cs.all isPlain = true) : decode cs = String.ofList cs := by
  have hascii : ∀ c ∈ cs, c.toNat < 128 := fun c hc => (of_mem_plain h hc).1
  have hblank : cs.map (fun c => if c = '+' then ' ' else c) = cs := by
    refine (List.map_congr_left fun c hc => ?_).trans cs.map_id
    exact if_neg (of_mem_plain h hc).2.2.2.2
  have hpercent : percent ∉ cs.map Char.toNat := by
    intro hmem
    obtain ⟨c, hc, heq⟩ := List.mem_map.mp hmem
    exact (of_mem_plain h hc).2.2.2.1 (Char.toNat_inj.mp heq)
  rw [decode, hblank, Utf8.encode_of_ascii hascii, unescape_of_notMem hpercent, Utf8.lossy,
    Utf8.chars_of_ascii hascii, List.map_map]
  simp

/-! ### Fields -/

/-- The text of a field. -/
def fieldText (f : String × String) : List Char := f.1.toList ++ '=' :: f.2.toList

/-- **Fields are written** with `&` between them. -/
def write (fs : List (String × String)) : String := String.ofList (['&'].intercalate (fs.map fieldText))

/-- A field whose name and value are plain. -/
def PlainField (f : String × String) : Prop := f.1.toList.all isPlain = true ∧ f.2.toList.all isPlain = true

theorem field_fieldText (h : PlainField f) : field (fieldText f) = f := by
  have hname : '=' ∉ f.1.toList := fun hmem => (of_mem_plain h.1 hmem).2.2.1 rfl
  have hcut : cutFirst '=' (fieldText f) = some (f.1.toList, f.2.toList) := cutFirst_append hname
  rw [field, hcut]
  dsimp only
  rw [decode_of_plain h.1, decode_of_plain h.2, String.ofList_toList, String.ofList_toList]

theorem notMem_fieldText (h : PlainField f) : '&' ∉ fieldText f := by
  intro hmem
  rcases List.mem_append.mp hmem with hname | hrest
  · exact (of_mem_plain h.1 hname).2.1 rfl
  · rcases List.mem_cons.mp hrest with heq | hvalue
    · exact absurd heq (by decide)
    · exact (of_mem_plain h.2 hvalue).2.1 rfl

/-- **Fields are read back** from the query that is written for them. -/
theorem fields_write (h : ∀ f ∈ fs, PlainField f) : fields (write fs) = fs := by
  have hsep : ∀ w ∈ fs.map fieldText, '&' ∉ w := by
    intro w hw
    obtain ⟨f, hf, rfl⟩ := List.mem_map.mp hw
    exact notMem_fieldText (h f hf)
  have hfilled : ∀ w ∈ fs.map fieldText, w.isEmpty = false := by
    intro w hw
    obtain ⟨f, hf, rfl⟩ := List.mem_map.mp hw
    simp [fieldText]
  have hpieces : (pieces (· == '&') (['&'].intercalate (fs.map fieldText))).filter (fun w => !w.isEmpty) =
      fs.map fieldText := by
    cases fs with
    | nil => rfl
    | cons f fs =>
      rw [pieces_intercalate hsep (by simp)]
      exact List.filter_eq_self.mpr fun w hw => by rw [hfilled w hw]; rfl
  rw [fields, write, String.toList_ofList, hpieces, List.map_map]
  refine (List.map_congr_left fun f hf => ?_).trans fs.map_id
  exact field_fieldText (h f hf)

end Form

end Backlog
