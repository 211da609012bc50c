import Backlog.Proofs.Except
import Backlog.Proofs.Json.Text
import Backlog.Ticket.Wire

/-! # Records are read back

What a record is written as gives the record again (`readRecord_ofRecord`) when no two of its fields share a
name and the fields, put one after another into the initial record, make it up (`Copied`). The latter is shown
field by field, from readers that undo the writers of the components. A tagged message moreover has to stay
within the depth that is read when the shape of a document is not known beforehand (`Sound`); its fields must not
have the name of the tag (`Carried`). -/

namespace Backlog

variable {α σ : Type}

/-! ### Whole numbers -/

namespace Numeral

theorem toDigits_eq_of_head? (k : ℕ) (h : (Nat.toDigits 10 k).head? = some '0') :
    Nat.toDigits 10 k = ['0'] := by
  induction k using Nat.strongRecOn with
  | ind k ih =>
    by_cases hk : k < 10
    · rw [Nat.toDigits_of_lt_base hk] at h ⊢
      rw [Option.some.inj h]
    · rw [Nat.toDigits_of_base_le (by decide) (by omega),
        List.head?_append_of_ne_nil _ Nat.toDigits_ne_nil] at h
      have hvalue := Text.digitsValue_toDigits (k / 10)
      rw [ih (k / 10) (by omega) h] at hvalue
      have : k / 10 = 0 := hvalue.symm
      omega

theorem literal_ofInt (i : ℤ) : (ofInt i).Literal where
  whole _ := Json.isDigit_of_mem_toDigits
  ne_nil := Nat.toDigits_ne_nil
  lead := toDigits_eq_of_head? i.natAbs
  fraction _ h := nomatch h

/-- **A whole number of 64 bits is read back.** -/
theorem whole?_ofInt {i : ℤ} (hlow : -9223372036854775808 ≤ i) (hhigh : i < 18446744073709551616) :
    (ofInt i).whole? = some i := by
  have hvalue := Text.digitsValue_toDigits i.natAbs
  have hwhole : (ofInt i).isWhole = true := rfl
  simp only [whole?, hwhole, Bool.not_true, Bool.false_eq_true, if_false]
  simp only [ofInt, hvalue, decide_eq_true_eq, Text.fits64]
  split_ifs
  all_goals first | exact congrArg some (by omega) | omega

end Numeral

namespace Json

/-! ### Components -/

theorem readInt_ofInt {low high i : ℤ} (hlow : low ≤ i) (hhigh : i ≤ high)
    (hleast : -9223372036854775808 ≤ low) (hgreatest : high < 18446744073709551616) :
    readInt low high (ofInt i) = .ok i := by
  have hwhole := Numeral.whole?_ofInt (i := i) (by omega) (by omega)
  simp only [ofInt, readInt, hwhole]
  rw [if_pos ⟨hlow, hhigh⟩]

theorem readNat_ofNat {bound k : ℕ} (hk : k < bound) (hbound : bound ≤ word64) :
    readNat bound (ofNat k) = .ok k := by
  have hword : (word64 : ℤ) = 18446744073709551616 := by decide
  have hread : readInt 0 ((bound : ℤ) - 1) (ofInt k) = .ok (k : ℤ) :=
    readInt_ofInt (by omega) (by omega) (by decide) (by omega)
  rw [readNat, show ofNat k = ofInt k from rfl, hread]
  rfl

theorem readList_ofList {r : Read α} {w : α → Json} {as : List α} (h : ∀ a ∈ as, r (w a) = .ok a) :
    readList r (ofList w as) = .ok as := by
  have hall : (as.map w).mapM r = .ok (as.map id) := mapM_map_eq_ok h
  rw [ofList, readList, hall, List.map_id]

theorem readList_textList (ss : List String) : readList readString (ofList .string ss) = .ok ss :=
  readList_ofList fun _ _ => rfl

theorem readOption_of_ne_null {r : Read α} {v : Json} {a : α} (hv : v ≠ .null) (h : r v = .ok a) :
    readOption r v = .ok (some a) := by
  rw [readOption, h]
  · rfl
  · exact hv

theorem readOption_ofOption {r : Read α} {w : α → Json} {o : Option α}
    (h : ∀ a ∈ o, w a ≠ .null ∧ r (w a) = .ok a) : readOption r (ofOption w o) = .ok o := by
  cases o with
  | none => rfl
  | some a => exact readOption_of_ne_null (h a rfl).1 (h a rfl).2

theorem foldl_last {es : List (String × α)} (acc : List (String × α)) (h : ((acc ++ es).map (·.1)).Nodup) :
    es.foldl (fun acc e => acc.filter (·.1 != e.1) ++ [e]) acc = acc ++ es := by
  induction es generalizing acc with
  | nil => rw [List.foldl_nil, List.append_nil]
  | cons e es ih =>
    have hkept : acc.filter (·.1 != e.1) = acc := by
      refine List.filter_eq_self.mpr fun x hx => ?_
      have hne : x.1 ≠ e.1 := by
        rw [List.map_append, List.map_cons] at h
        exact (List.nodup_append.mp h).2.2 x.1 (List.mem_map_of_mem hx) e.1 List.mem_cons_self
      simpa using hne
    rw [List.foldl_cons, hkept, ih _ (by simpa using h), List.append_assoc, List.singleton_append]

/-- **A map is read back** if its names ascend. -/
theorem readMap_object {r : Read α} {w : α → Json} {es : List (String × α)} (h : ∀ e ∈ es, r (w e.2) = .ok e.2)
    (hascend : es.Pairwise (·.1 < ·.1)) : readMap r (.object (es.map fun e => (e.1, w e.2))) = .ok es := by
  have hentries : ((es.map fun e => (e.1, w e.2)).mapM fun m => do
      let a ← r m.2
      pure (m.1, a)) = Except.ok (es.map id) :=
    mapM_map_eq_ok fun e he => by
      simp only [h e he]
      rfl
  have hnodup : (es.map (·.1)).Nodup := List.pairwise_map.mpr (hascend.imp String.ne_of_lt)
  have hle {k l : String} (hlt : k < l) : k ≤ l := Std.le_of_not_ge fun h => h hlt
  have hsorted : es.mergeSort (fun a b => decide (a.1 ≤ b.1)) = es :=
    List.mergeSort_of_pairwise (hascend.imp fun hlt => decide_eq_true (hle hlt))
  have hlast : es.foldl (fun acc e => acc.filter (·.1 != e.1) ++ [e]) [] = es := foldl_last [] hnodup
  calc readMap r (.object (es.map fun e => (e.1, w e.2)))
      = ((es.map fun e => (e.1, w e.2)).mapM fun m => do
          let a ← r m.2
          pure (m.1, a)) >>= fun (entries : List (String × α)) =>
            .ok ((entries.foldl (fun acc e => acc.filter (·.1 != e.1) ++ [e]) []).mergeSort
              fun a b => decide (a.1 ≤ b.1)) := rfl
    _ = .ok ((es.foldl (fun acc e => acc.filter (·.1 != e.1) ++ [e]) []).mergeSort
          fun a b => decide (a.1 ≤ b.1)) := by rw [hentries, List.map_id]; rfl
    _ = .ok es := by rw [hlast, hsorted]

/-! ### Records -/

/-- **The fields `fs` of `x` make up `z` out of `y`**: what is written for them, if not left out, is put into
`y` field after field. All that is written has the property `P`. -/
inductive Copied (P : Json → Prop) (x : σ) : List (RecordField σ) → σ → σ → Prop
  | nil (y : σ) : Copied P x [] y y
  | given {f : RecordField σ} {fs : List (RecordField σ)} {v : Json} {y y' z : σ} (htake : f.take x = some v)
      (hv : P v) (hput : f.put y v = .ok y') (hrest : Copied P x fs y' z) : Copied P x (f :: fs) y z
  | absent {f : RecordField σ} {fs : List (RecordField σ)} {y z : σ} (htake : f.take x = none)
      (hpresence : f.presence ≠ .required) (hrest : Copied P x fs y z) : Copied P x (f :: fs) y z

namespace Copied

variable {P : Json → Prop} {x y z : σ} {fields fs : List (RecordField σ)} {name : String}
  {r : Read α} {w : α → Json}

theorem of {p : Presence} {get : σ → α} {set : σ → α → σ} (hv : P (w (get x)))
    (hread : r (w (get x)) = .ok (get x))
    (hrest : Copied P x fs (set y (get x)) z) : Copied P x (.of name p r w get set :: fs) y z := by
  refine .given rfl hv ?_ hrest
  simp only [RecordField.of, hread]
  rfl

theorem string {get : σ → String} {set : σ → String → σ} (hv : P (.string (get x)))
    (hrest : Copied P x fs (set y (get x)) z) : Copied P x (.string name get set :: fs) y z :=
  of hv rfl hrest

theorem sparse {get : σ → Option α} {set : σ → Option α → σ}
    (h : ∀ a, get x = some a → P (w a) ∧ r (w a) = .ok a ∧ w a ≠ .null) (habsent : get x = none → set y none = y)
    (hrest : Copied P x fs (set y (get x)) z) : Copied P x (.sparse name r w get set :: fs) y z := by
  cases hget : get x with
  | none =>
    rw [hget, habsent hget] at hrest
    refine .absent ?_ (by simp [RecordField.sparse]) hrest
    simp only [RecordField.sparse, hget, Option.map_none]
  | some a =>
    obtain ⟨hv, hread, hne⟩ := h a hget
    rw [hget] at hrest
    refine .given (v := w a) ?_ hv ?_ hrest
    · simp only [RecordField.sparse, hget, Option.map_some]
    · simp only [RecordField.sparse, readOption_of_ne_null hne hread]
      rfl

theorem written (h : Copied P x fs y z) : ∀ m ∈ recordMembers fs x, P m.2 := by
  induction h with
  | nil y => exact fun m hm => nomatch hm
  | given htake hv _ _ ih =>
    rw [recordMembers, List.filterMap_cons_some (by rw [htake]; rfl)]
    exact List.forall_mem_cons.mpr ⟨hv, ih⟩
  | absent htake _ _ ih =>
    rw [recordMembers, List.filterMap_cons_none (by rw [htake]; rfl)]
    exact ih

end Copied

theorem find?_name {fields : List (RecordField σ)} (hnames : (fields.map (·.name)).Nodup) {f : RecordField σ}
    (hf : f ∈ fields) : fields.find? (·.name == f.name) = some f := by
  induction fields with
  | nil => cases hf
  | cons g fields ih =>
    rw [List.map_cons, List.nodup_cons] at hnames
    rcases List.mem_cons.mp hf with rfl | hf
    · exact List.find?_cons_of_pos (beq_self_eq_true f.name)
    · have hne : g.name ≠ f.name := fun h => hnames.1 (h ▸ List.mem_map_of_mem hf)
      rw [List.find?_cons_of_neg (by simpa using hne), ih hnames.2 hf]

variable {P : Json → Prop} {x y z : σ} {fields fs : List (RecordField σ)}

/-- **What is written for the fields is put back**, for any last part `fs` of the fields of a record. -/
theorem putMembers_recordMembers (hnames : (fields.map (·.name)).Nodup) (seen : List String)
    (hcopy : Copied P x fs y z)
    (hfs : fs <:+ fields) (hseen : ∀ f ∈ fs, f.name ∉ seen) :
    ∃ seen', putMembers fields (recordMembers fs x) seen y = .ok (z, seen') ∧ seen ⊆ seen' ∧
      ∀ f ∈ fs, f.presence = .required → f.name ∈ seen' := by
  induction hcopy generalizing seen with
  | nil y => exact ⟨seen, rfl, List.Subset.refl seen, fun f hf => nomatch hf⟩
  | @absent f fs y z htake hpresence _ ih =>
    obtain ⟨seen', hput, hsub, hall⟩ := ih seen ((List.suffix_cons f fs).trans hfs)
      fun g hg => hseen g (List.mem_cons_of_mem f hg)
    refine ⟨seen', ?_, hsub, List.forall_mem_cons.mpr ⟨fun hp => absurd hp hpresence, hall⟩⟩
    rw [recordMembers, List.filterMap_cons_none (by rw [htake]; rfl)]
    exact hput
  | @given f fs v y y' z htake _ hf _ ih =>
    have hnodup : ((f :: fs).map (·.name)).Nodup := hnames.sublist (hfs.sublist.map _)
    rw [List.map_cons, List.nodup_cons] at hnodup
    have hfresh : ∀ g ∈ fs, g.name ∉ f.name :: seen := by
      intro g hg hmem
      rcases List.mem_cons.mp hmem with h | h
      · exact hnodup.1 (h ▸ List.mem_map_of_mem hg)
      · exact hseen g (List.mem_cons_of_mem f hg) h
    obtain ⟨seen', hput, hsub, hall⟩ := ih (f.name :: seen) ((List.suffix_cons f fs).trans hfs) hfresh
    refine ⟨seen', ?_, fun k hk => hsub (List.mem_cons_of_mem _ hk),
      List.forall_mem_cons.mpr ⟨fun _ => hsub List.mem_cons_self, hall⟩⟩
    have hnot : ¬ seen.contains f.name = true := by simpa using hseen f List.mem_cons_self
    rw [recordMembers, List.filterMap_cons_some (by rw [htake]; rfl), putMembers]
    simp only [find?_name hnames (hfs.subset List.mem_cons_self)]
    rw [if_neg hnot, hf]
    exact hput

/-- **A record is read back** from the object that is written for it. -/
theorem readRecord_ofRecord (hnames : (fields.map (·.name)).Nodup) (hcopy : Copied P x fields y x) :
    readRecord fields y (ofRecord fields x) = .ok x := by
  obtain ⟨seen, hput, -, hall⟩ := putMembers_recordMembers hnames [] hcopy List.suffix_rfl
    fun _ _ => List.not_mem_nil
  have hgiven : (fields.all fun f => f.presence != .required || seen.contains f.name) = true := by
    rw [List.all_eq_true]
    intro f hf
    by_cases hp : f.presence = .required
    · simp [hall f hf hp]
    · simp [hp]
  rw [ofRecord, readRecord, hput]
  exact if_pos hgiven

/-! ### Messages -/

theorem allMembersPlain_eq_true {d : ℕ} {ms : List (String × Json)} :
    allMembersPlain d ms = true ↔ ∀ m ∈ ms, m.2.isPlain d = true := by
  induction ms with
  | nil => simp [allMembersPlain]
  | cons m ms ih => simp [allMembersPlain, ih]

theorem allPlain_eq_true {d : ℕ} {vs : List Json} :
    allPlain d vs = true ↔ ∀ v ∈ vs, v.isPlain d = true := by
  induction vs with
  | nil => simp [allPlain]
  | cons v vs ih => simp [allPlain, ih]

/-- **A document that survives being written**, nested at most `d` deep. -/
structure Sound (d : ℕ) (v : Json) : Prop where
  whole : v.Whole
  plain : v.isPlain d = true

variable {d : ℕ}

theorem sound_string (s : String) : Sound d (.string s) := ⟨.string s, by cases d <;> rfl⟩

theorem sound_bool (b : Bool) : Sound d (.bool b) := ⟨.bool b, by cases d <;> rfl⟩

theorem sound_ofInt {i : ℤ} (hlow : -9223372036854775808 ≤ i) (hhigh : i < 18446744073709551616) :
    Sound d (ofInt i) where
  whole := .number (Numeral.literal_ofInt i)
  plain := by
    have hrange : (Numeral.ofInt i).inRange = true := by
      rw [Numeral.inRange, Numeral.whole?_ofInt hlow hhigh]
      rfl
    cases d <;> exact hrange

theorem sound_ofNat {k : ℕ} (hk : k < word64) : Sound d (ofNat k) := by
  have hword : word64 = 18446744073709551616 := by decide
  exact sound_ofInt (by omega) (by omega)

theorem sound_ofOption {w : α → Json} {o : Option α} (h : ∀ a ∈ o, Sound d (w a)) : Sound d (ofOption w o) := by
  cases o with
  | none => exact ⟨.null, by cases d <;> rfl⟩
  | some a => exact h a rfl

theorem sound_ofList {w : α → Json} {as : List α} (h : ∀ a ∈ as, Sound d (w a)) :
    Sound (d + 1) (ofList w as) where
  whole := .array fun v hv => by
    obtain ⟨a, ha, rfl⟩ := List.mem_map.mp hv
    exact (h a ha).whole
  plain := allPlain_eq_true.mpr fun v hv => by
    obtain ⟨a, ha, rfl⟩ := List.mem_map.mp hv
    exact (h a ha).plain

theorem sound_textList (ss : List String) : Sound (d + 1) (ofList .string ss) :=
  sound_ofList fun s _ => sound_string s

theorem sound_object {ms : List (String × Json)} (h : ∀ m ∈ ms, Sound d m.2) : Sound (d + 1) (.object ms) where
  whole := .object fun m hm => (h m hm).whole
  plain := allMembersPlain_eq_true.mpr fun m hm => (h m hm).plain

theorem sound_ofRecord (h : Copied (Sound d) x fields y z) : Sound (d + 1) (ofRecord fields x) :=
  sound_object h.written

theorem mem_recordMembers {m : String × Json} :
    m ∈ recordMembers fields x ↔ ∃ f ∈ fields, f.name = m.1 ∧ f.take x = some m.2 := by
  rw [recordMembers, List.mem_filterMap]
  refine exists_congr fun f => and_congr_right fun _ => ?_
  rw [Option.map_eq_some_iff]
  constructor
  · rintro ⟨v, htake, rfl⟩
    exact ⟨rfl, htake⟩
  · rintro ⟨hname, htake⟩
    exact ⟨m.2, htake, by rw [hname]⟩

/-- **The tag tells how a message is read**, and its other members are read this way. -/
theorem readTagged_cons {tag kind : String} {kind? : String → Option (Read α)} {r : Read α}
    {ms : List (String × Json)} (hkind : kind? kind = some r) (htag : ∀ m ∈ ms, m.1 ≠ tag)
    (hsound : ∀ m ∈ ms, m.2.isPlain 126 = true) :
    readTagged tag kind? (.object ((tag, .string kind) :: ms)) = r (.object ms) := by
  have hplain : (Json.object ((tag, .string kind) :: ms)).isPlain depthLimit = true := by
    refine allMembersPlain_eq_true.mpr fun m hm => ?_
    rcases List.mem_cons.mp hm with rfl | hm
    · rfl
    · exact hsound m hm
  have hnone : ms.filter (·.1 == tag) = [] := List.filter_eq_nil_iff.mpr fun m hm => by simpa using htag m hm
  have hall : ms.filter (·.1 != tag) = ms := List.filter_eq_self.mpr fun m hm => by simpa using htag m hm
  rw [readTagged, hplain]
  simp [hnone, hall, hkind]

/-- **A record that a tagged message can carry**, read back into the record `initial`. -/
structure Carried (tag : String) (fields : List (RecordField σ)) (initial x : σ) : Prop where
  names : (tag :: fields.map (·.name)).Nodup
  copied : Copied (Sound 126) x fields initial x

namespace Carried

variable {tag kind : String} {initial : σ}

theorem whole (h : Carried tag fields initial x) :
    (Json.object ((tag, .string kind) :: recordMembers fields x)).Whole := by
  refine .object fun m hm => ?_
  rcases List.mem_cons.mp hm with rfl | hm
  · exact .string kind
  · exact (h.copied.written m hm).whole

/-- **A record is read back** from the message that carries it. -/
theorem readTagged (h : Carried tag fields initial x) (kind? : String → Option (Read α)) (kind : String)
    {g : σ → α} (hkind : kind? kind = some fun v => (readRecord fields initial v).map g) :
    Json.readTagged tag kind? (.object ((tag, .string kind) :: recordMembers fields x)) = .ok (g x) := by
  obtain ⟨htag, hnames⟩ := List.nodup_cons.mp h.names
  have hother : ∀ m ∈ recordMembers fields x, m.1 ≠ tag := by
    intro m hm hname
    obtain ⟨f, hf, hfm, -⟩ := mem_recordMembers.mp hm
    exact htag (by rw [← hname, ← hfm]; exact List.mem_map_of_mem hf)
  have hread := readRecord_ofRecord hnames h.copied
  rw [ofRecord] at hread
  rw [readTagged_cons hkind hother fun m hm => (h.copied.written m hm).plain, hread]
  rfl

end Carried

end Json

end Backlog
