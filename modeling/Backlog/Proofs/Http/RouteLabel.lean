import Backlog.Http.RouteLabel
import Backlog.Proofs.Text.Split
import Mathlib.Algebra.Group.Nat.Even
import Mathlib.Data.List.Chain
import Mathlib.Data.List.DropRight
import Mathlib.Data.List.Forall2

/-! # What labels leave of a path

Identifiers hold neither slashes nor braces, so a path has an identifier if and only if one of its segments has
(`hasIdentifier_iff_segments`), and where identifiers are replaced none is left (`free_replaceIdentifiers`). Digits
are replaced segment by segment (`segments_replaceNumbers`). A segment that is replaced takes the slash behind it
along, so the next one is passed over (`relabel`): **of the digit segments in a row the first, the third and so on
are replaced** (`relabel_eq_mapIdx`). What was passed over stands behind a label then, and a second pass replaces
it (`relabel_relabel`).

* `ofPath_labels_in_turn`: which segments of a path are labelled, when a second pass changes nothing, and that a
  third one never does. -/

namespace Backlog.RouteLabel

open Text

variable {cs a b : List Char} {c : Char} {s t : List Char} {ss : List (List Char)} {p : String}

/-! ### Identifiers -/

/-- A character fits a sign of a form. -/
def Fits (f c : Char) : Prop := if f = 'x' then isHex c = true else c = f

/-- **An identifier**: hexadecimal digits in the 8-4-4-4-12 form. -/
def IsIdentifier (b : List Char) : Prop := List.Forall₂ Fits identifierForm b

/-- **An identifier stands somewhere in a text.** -/
def HasIdentifier (cs : List Char) : Prop := ∃ b, IsIdentifier b ∧ b <:+: cs

theorem startsWithForm_iff : ∀ {fs cs : List Char},
    startsWithForm fs cs = true ↔ ∃ b, b <+: cs ∧ List.Forall₂ Fits fs b
  | [], cs => by simp [startsWithForm]
  | f :: fs, [] => by simp [startsWithForm]
  | f :: fs, c :: cs => by
    have hfirst : (if f = 'x' then isHex c else c == f) = true ↔ Fits f c := by
      unfold Fits
      split_ifs <;> simp
    rw [startsWithForm, Bool.and_eq_true, hfirst, startsWithForm_iff]
    constructor
    · rintro ⟨hc, b, hb, hfits⟩
      exact ⟨c :: b, (List.prefix_cons_inj c).mpr hb, .cons hc hfits⟩
    · rintro ⟨b, hb, hfits⟩
      cases hfits with
      | cons hc hfits =>
        obtain ⟨rfl, hrest⟩ := List.cons_prefix_cons.mp hb
        exact ⟨hc, _, hrest, hfits⟩

theorem hasIdentifier_cons :
    HasIdentifier (c :: cs) ↔ startsWithForm identifierForm (c :: cs) = true ∨ HasIdentifier cs := by
  rw [startsWithForm_iff]
  constructor
  · rintro ⟨b, hb, hinfix⟩
    rcases List.infix_cons_iff.mp hinfix with hstart | hrest
    · exact Or.inl ⟨b, hstart, hb⟩
    · exact Or.inr ⟨b, hb, hrest⟩
  · rintro (⟨b, hstart, hb⟩ | ⟨b, hb, hrest⟩)
    · exact ⟨b, hb, hstart.isInfix⟩
    · exact ⟨b, hb, hrest.trans (List.suffix_cons c cs).isInfix⟩

theorem HasIdentifier.length_le (h : HasIdentifier cs) : 36 ≤ cs.length := by
  obtain ⟨b, hb, hinfix⟩ := h
  have hlength : 36 = b.length := hb.length_eq
  have hle := hinfix.length_le
  omega

theorem eq_of_mem_identifierForm {f : Char} (hf : f ∈ identifierForm) : f = 'x' ∨ f = '-' := by
  have hall : (identifierForm.all fun f => f == 'x' || f == '-') = true := rfl
  simpa using List.all_eq_true.mp hall f hf

theorem IsIdentifier.mem (hb : IsIdentifier b) (hc : c ∈ b) : isHex c = true ∨ c = '-' := by
  obtain ⟨i, hi, rfl⟩ := List.getElem_of_mem hc
  have hform : i < identifierForm.length := by rwa [List.Forall₂.length_eq hb]
  have hfits : Fits identifierForm[i] b[i] := List.Forall₂.get hb hform hi
  unfold Fits at hfits
  split_ifs at hfits with hx
  · exact Or.inl hfits
  · exact Or.inr (hfits.trans ((eq_of_mem_identifierForm (List.getElem_mem hform)).resolve_left hx))

/-- **An identifier keeps to one side of a character that it cannot hold.** -/
theorem hasIdentifier_append_cons (hc : ¬ (isHex c = true ∨ c = '-')) :
    HasIdentifier (a ++ c :: b) ↔ HasIdentifier a ∨ HasIdentifier b := by
  constructor
  · rintro ⟨d, hd, hinfix⟩
    have hnot : c ∉ d := fun h => hc (hd.mem h)
    rcases List.infix_append_iff.mp hinfix with hleft | hright | ⟨d₁, d₂, rfl, hsuffix, hprefix⟩
    · exact Or.inl ⟨d, hd, hleft⟩
    · rcases List.infix_cons_iff.mp hright with hstart | hrest
      · rcases List.prefix_cons_iff.mp hstart with rfl | ⟨e, rfl, -⟩
        · cases hd
        · exact absurd List.mem_cons_self hnot
      · exact Or.inr ⟨d, hd, hrest⟩
    · rcases List.prefix_cons_iff.mp hprefix with rfl | ⟨e, rfl, -⟩
      · rw [List.append_nil] at hd
        exact Or.inl ⟨d₁, hd, hsuffix.isInfix⟩
      · exact absurd (List.mem_append_right d₁ List.mem_cons_self) hnot
  · rintro (⟨d, hd, hleft⟩ | ⟨d, hd, hright⟩)
    · exact ⟨d, hd, hleft.trans (List.prefix_append a _).isInfix⟩
    · exact ⟨d, hd, hright.trans ((List.suffix_cons c b).trans (List.suffix_append a _)).isInfix⟩

theorem not_hasIdentifier_label : ¬ HasIdentifier label := fun h => absurd h.length_le (by decide)

theorem hasIdentifier_label_append : HasIdentifier (label ++ cs) ↔ HasIdentifier cs := by
  have hsplit : label ++ cs = ['\x7b', 'i', 'd'] ++ '\x7d' :: cs := rfl
  have hshort : ¬ HasIdentifier ['\x7b', 'i', 'd'] := fun h => absurd h.length_le (by decide)
  rw [hsplit, hasIdentifier_append_cons (by decide), or_iff_right hshort]

/-! ### Replacing identifiers -/

theorem replaceIdentifiers_of_free (h : ¬ HasIdentifier cs) : replaceIdentifiers cs = cs := by
  fun_induction replaceIdentifiers cs with
  | case1 => rfl
  | case2 c rest hstart ih => exact absurd (hasIdentifier_cons.mpr (Or.inl hstart)) h
  | case3 c rest hstart ih => rw [ih fun hrest => h (hasIdentifier_cons.mpr (Or.inr hrest))]

/-- What starts with a form after identifiers have been replaced started with it before, as no sign of the form is
fit for a brace. -/
theorem startsWithForm_of_replaceIdentifiers : ∀ {fs cs : List Char}, (∀ f ∈ fs, f = 'x' ∨ f = '-') →
    startsWithForm fs (replaceIdentifiers cs) = true → startsWithForm fs cs = true
  | [], _, _, _ => by simp [startsWithForm]
  | f :: fs, [], _, h => by rwa [replaceIdentifiers] at h
  | f :: fs, c :: cs, hfs, h => by
    obtain ⟨hf, hfs⟩ := List.forall_mem_cons.mp hfs
    rw [replaceIdentifiers] at h
    split_ifs at h with hstart
    · -- the text starts with a brace now
      rcases hf with rfl | rfl <;> simp [label, startsWithForm, isHex] at h
    · rw [startsWithForm, Bool.and_eq_true] at h ⊢
      exact ⟨h.1, startsWithForm_of_replaceIdentifiers hfs h.2⟩

theorem free_replaceIdentifiers (cs : List Char) : ¬ HasIdentifier (replaceIdentifiers cs) := by
  fun_induction replaceIdentifiers cs with
  | case1 => exact fun h => absurd h.length_le (by decide)
  | case2 c rest hstart ih => rwa [hasIdentifier_label_append]
  | case3 c rest hstart ih =>
    intro h
    rcases hasIdentifier_cons.mp h with hnow | hrest
    · have hsame : c :: replaceIdentifiers rest = replaceIdentifiers (c :: rest) := by
        rw [replaceIdentifiers, if_neg hstart]
      rw [hsame] at hnow
      exact hstart (startsWithForm_of_replaceIdentifiers (fun f => eq_of_mem_identifierForm) hnow)
    · exact ih hrest

/-! ### Segments -/

/-- **The segments of a path**, between its slashes. All but the first follow a slash. -/
def segments (cs : List Char) : List (List Char) := pieces (· == '/') cs

theorem segments_slash (cs : List Char) : segments ('/' :: cs) = [] :: segments cs := rfl

theorem segments_cons (hc : c ≠ '/') (h : segments cs = s :: ss) : segments (c :: cs) = (c :: s) :: ss := by
  unfold segments at h ⊢
  rw [pieces, if_neg (by simpa using hc), h]

theorem exists_segments_eq (cs : List Char) : ∃ s ss, segments cs = s :: ss :=
  List.exists_cons_of_ne_nil (pieces_ne_nil _ cs)

theorem segments_injective (h : segments a = segments b) : a = b := by
  rw [← intercalate_pieces '/' a, ← intercalate_pieces '/' b]
  exact congrArg _ h

theorem eq_or_append_of_segments (h : segments cs = s :: ss) : cs = s ∨ ∃ r, cs = s ++ '/' :: r := by
  have hjoin := intercalate_pieces '/' cs
  rw [show pieces (· == '/') cs = s :: ss from h] at hjoin
  cases ss with
  | nil =>
    rw [List.intercalate_singleton] at hjoin
    exact Or.inl hjoin.symm
  | cons t ts =>
    rw [List.intercalate_cons_cons, List.append_assoc] at hjoin
    exact Or.inr ⟨_, hjoin.symm⟩

theorem hasIdentifier_intercalate : ∀ ss : List (List Char),
    HasIdentifier (['/'].intercalate ss) ↔ ∃ s ∈ ss, HasIdentifier s
  | [] => by
    have hnil : ¬ HasIdentifier [] := fun h => absurd h.length_le (by decide)
    simpa using hnil
  | [s] => by simp
  | s :: t :: ss => by
    rw [List.intercalate_cons_cons, List.append_assoc, List.singleton_append,
      hasIdentifier_append_cons (by decide), hasIdentifier_intercalate (t :: ss)]
    simp only [List.mem_cons, exists_eq_or_imp]

/-- **A path has an identifier** if and only if one of its segments has. -/
theorem hasIdentifier_iff_segments : HasIdentifier cs ↔ ∃ s ∈ segments cs, HasIdentifier s := by
  conv_lhs => rw [← intercalate_pieces '/' cs]
  exact hasIdentifier_intercalate _

/-! ### Segments of digits -/

/-- Whether a segment is made of digits. -/
def isNumber (s : List Char) : Bool := !s.isEmpty && s.all Char.isDigit

theorem isDigit_of_isNumber (h : isNumber s = true) : ∀ c ∈ s, c.isDigit = true := by
  rw [isNumber, Bool.and_eq_true, List.all_eq_true] at h
  exact h.2

theorem slash_notMem_of_isDigit (h : ∀ c ∈ s, c.isDigit = true) : '/' ∉ s := fun hmem => absurd (h _ hmem) (by decide)

theorem isNumber_takeWhile (h : (cs.takeWhile Char.isDigit).isEmpty = false) :
    isNumber (cs.takeWhile Char.isDigit) = true := by
  rw [isNumber, h, List.all_takeWhile]
  rfl

/-- If the first segment of a path is made of digits, then the path starts with these, and a slash follows unless it
ends there. -/
theorem takeWhile_of_segments (h : segments cs = s :: ss) (hs : isNumber s = true) :
    cs.takeWhile Char.isDigit = s ∧ (cs.dropWhile Char.isDigit = [] ∨ ∃ r, cs.dropWhile Char.isDigit = '/' :: r) := by
  have hdigits := isDigit_of_isNumber hs
  rcases eq_or_append_of_segments h with rfl | ⟨r, rfl⟩
  · exact ⟨List.takeWhile_eq_self_iff.mpr hdigits, Or.inl (List.dropWhile_eq_nil_iff.mpr hdigits)⟩
  · have hstop : Char.isDigit '/' = false := rfl
    rw [List.takeWhile_append_of_pos hdigits, List.dropWhile_append_of_pos hdigits]
    exact ⟨by simp [hstop], Or.inr ⟨r, by simp [hstop]⟩⟩

/-- **A pass over the segments.** One of digits becomes the label, unless the one before it just has; `free` tells that
it has not. -/
def relabel : Bool → List (List Char) → List (List Char)
  | _, [] => []
  | free, s :: ss => if free && isNumber s then label :: relabel false ss else s :: relabel true ss

theorem relabel_false_cons (s : List Char) (ss : List (List Char)) :
    relabel false (s :: ss) = s :: relabel true ss := rfl

theorem relabel_number (hs : isNumber s = true) : relabel true (s :: ss) = label :: relabel false ss := by
  rw [relabel, Bool.true_and, if_pos hs]

theorem relabel_word (hs : isNumber s = false) (free : Bool) : relabel free (s :: ss) = s :: relabel true ss := by
  rw [relabel, hs, Bool.and_false]
  rfl

/-- **Numbers are replaced segment by segment.** The first segment follows no slash and is left as it is. -/
theorem segments_replaceNumbers (cs : List Char) : segments (replaceNumbers cs) = relabel false (segments cs) := by
  fun_induction replaceNumbers cs with
  | case1 => rfl
  | case2 c rest hc hdrop =>
    -- the path ends with the digits
    have hrest := List.takeWhile_append_dropWhile (p := Char.isDigit) (l := rest)
    have hnumber := isNumber_takeWhile hc.2
    rw [hdrop, List.append_nil] at hrest
    rw [hrest] at hnumber
    have hsegments : segments rest = [rest] :=
      pieces_of_notMem (slash_notMem_of_isDigit (isDigit_of_isNumber hnumber))
    rw [hc.1, segments_slash, segments_slash, hsegments, relabel_false_cons, relabel_number hnumber]
    rfl
  | case3 c rest hc r hdrop ih =>
    -- a slash follows, which is taken along
    have hrest := List.takeWhile_append_dropWhile (p := Char.isDigit) (l := rest)
    have hnumber := isNumber_takeWhile hc.2
    rw [hdrop] at hrest
    have hsegments : segments rest = rest.takeWhile Char.isDigit :: segments r := by
      conv_lhs => rw [← hrest]
      exact pieces_append_sep r (slash_notMem_of_isDigit (isDigit_of_isNumber hnumber))
    have hlabel : segments (label ++ '/' :: replaceNumbers r) = label :: segments (replaceNumbers r) :=
      pieces_append_sep _ (by decide)
    rw [hc.1, segments_slash, List.cons_append, segments_slash, hsegments, hlabel, ih, relabel_false_cons,
      relabel_number hnumber]
  | case4 c rest hc d r hdrop hd ih =>
    -- something else follows, so the first segment of the rest is not made of digits
    obtain ⟨s, ss, hss⟩ := exists_segments_eq rest
    have hword : isNumber s = false := by
      rw [← Bool.not_eq_true]
      intro hs
      rcases (takeWhile_of_segments hss hs).2 with hend | ⟨r', hslash⟩
      · rw [hdrop] at hend
        cases hend
      · rw [hdrop] at hslash
        exact hd (List.cons.inj hslash).1
    rw [hc.1, segments_slash, segments_slash, ih, hss, relabel_false_cons, relabel_false_cons, relabel_word hword]
  | case5 c rest hc ih =>
    obtain ⟨s, ss, hss⟩ := exists_segments_eq rest
    by_cases hslash : c = '/'
    · have hword : isNumber s = false := by
        rw [← Bool.not_eq_true]
        intro hs
        have htake := (takeWhile_of_segments hss hs).1
        refine hc ⟨hslash, ?_⟩
        rw [htake]
        rw [isNumber, Bool.and_eq_true, Bool.not_eq_true'] at hs
        exact hs.1
      rw [hslash, segments_slash, segments_slash, ih, hss, relabel_false_cons, relabel_false_cons,
        relabel_word hword]
    · rw [hss, relabel_false_cons] at ih
      rw [segments_cons hslash ih, segments_cons hslash hss, relabel_false_cons]

/-! ### One pass, two passes, three passes -/

/-- A segment with the label in the place of digits. -/
def labelled (s : List Char) : List Char := if isNumber s then label else s

theorem isNumber_label : isNumber label = false := rfl

theorem isNumber_labelled (s : List Char) : isNumber (labelled s) = false := by
  unfold labelled
  split_ifs with hs
  · rfl
  · simpa using hs

theorem relabel_of_words : ∀ {ss : List (List Char)} {free : Bool}, (∀ s ∈ ss, isNumber s = false) →
    relabel free ss = ss
  | [], _, _ => rfl
  | s :: ss, free, h => by
    obtain ⟨hs, hss⟩ := List.forall_mem_cons.mp h
    rw [relabel_word hs, relabel_of_words hss]

/-- **A second pass replaces what the first has passed over.** -/
theorem relabel_relabel : ∀ ss : List (List Char), relabel true (relabel true ss) = ss.map labelled ∧
    relabel true (relabel false ss) = ss.map labelled ∧ relabel false (relabel true ss) = ss.map labelled
  | [] => ⟨rfl, rfl, rfl⟩
  | s :: ss => by
    obtain ⟨htt, htf, hft⟩ := relabel_relabel ss
    cases hs : isNumber s with
    | true =>
      have hlabelled : labelled s = label := if_pos hs
      rw [List.map_cons, hlabelled, relabel_number hs, relabel_false_cons, relabel_number hs,
        relabel_word isNumber_label, relabel_word isNumber_label, htf, hft]
      exact ⟨rfl, rfl, rfl⟩
    | false =>
      have hlabelled : labelled s = s := if_neg (by simp [hs])
      simp only [List.map_cons, hlabelled, relabel_word hs, htt, and_self]

/-- **No two segments of digits stand side by side.** -/
def Apart (ss : List (List Char)) : Prop := ss.IsChain fun s t => ¬ (isNumber s = true ∧ isNumber t = true)

instance (ss : List (List Char)) : Decidable (Apart ss) := by unfold Apart; infer_instance

/-- **One pass is enough** if and only if no two segments of digits stand side by side; if the segment in front of
them has just been replaced, the first of them must not be made of digits either. -/
theorem relabel_eq_map_iff : ∀ ss : List (List Char), (relabel true ss = ss.map labelled ↔ Apart ss) ∧
    (relabel false ss = ss.map labelled ↔ (∀ s ∈ ss.head?, isNumber s = false) ∧ Apart ss)
  | [] => by simp [relabel, Apart]
  | s :: ss => by
    obtain ⟨htrue, hfalse⟩ := relabel_eq_map_iff ss
    have hchain : Apart (s :: ss) ↔ (∀ t ∈ ss.head?, ¬ (isNumber s = true ∧ isNumber t = true)) ∧ Apart ss :=
      List.isChain_cons
    cases hs : isNumber s with
    | true =>
      have hlabelled : labelled s = label := if_pos hs
      have hne : s ≠ label := by
        rintro rfl
        cases hs
      simp [relabel_number hs, relabel_false_cons, hlabelled, hfalse, hchain, hs, hne]
    | false =>
      have hlabelled : labelled s = s := if_neg (by simp [hs])
      simp [relabel_word hs, hlabelled, htrue, hchain, hs]

/-- How many segments of digits stand in a row at the end. -/
def numbersAtEnd (ss : List (List Char)) : ℕ := (ss.rtakeWhile isNumber).length

theorem numbersAtEnd_concat (ss : List (List Char)) (s : List Char) :
    numbersAtEnd (ss ++ [s]) = if isNumber s then numbersAtEnd ss + 1 else 0 := by
  unfold numbersAtEnd
  rw [List.rtakeWhile_concat]
  split_ifs
  · simp
  · rfl

/-- **Of the segments of digits in a row every other one is replaced**, those that an even number of them stand
before. The segments `pre` have been passed already. -/
theorem relabel_eq_mapIdx : ∀ ss pre : List (List Char), relabel (decide (Even (numbersAtEnd pre))) ss =
    ss.mapIdx fun i s => if isNumber s = true ∧ Even (numbersAtEnd (pre ++ ss.take i)) then label else s
  | [], _ => rfl
  | s :: ss, pre => by
    have ih := relabel_eq_mapIdx ss (pre ++ [s])
    have hnext : ∀ i, pre ++ (s :: ss).take (i + 1) = pre ++ [s] ++ ss.take i := by simp
    rw [List.mapIdx_cons, List.take_zero, List.append_nil]
    simp only [hnext, ← ih, numbersAtEnd_concat]
    cases hs : isNumber s with
    | true => by_cases heven : Even (numbersAtEnd pre) <;> simp [relabel, hs, heven, Nat.even_add_one]
    | false => simp [relabel, hs]

/-! ### Paths -/

theorem mem_relabel : ∀ {ss : List (List Char)} {free : Bool}, t ∈ relabel free ss → t = label ∨ t ∈ ss
  | s :: ss, free, h => by
    rw [relabel] at h
    split_ifs at h
    · rcases List.mem_cons.mp h with rfl | h
      · exact Or.inl rfl
      · exact (mem_relabel h).imp_right (List.mem_cons_of_mem s)
    · rcases List.mem_cons.mp h with rfl | h
      · exact Or.inr List.mem_cons_self
      · exact (mem_relabel h).imp_right (List.mem_cons_of_mem s)

theorem free_replaceNumbers (h : ¬ HasIdentifier cs) : ¬ HasIdentifier (replaceNumbers cs) := by
  rw [hasIdentifier_iff_segments] at h ⊢
  rintro ⟨s, hs, hid⟩
  rw [segments_replaceNumbers] at hs
  rcases mem_relabel hs with rfl | hs
  · exact not_hasIdentifier_label hid
  · exact h ⟨s, hs, hid⟩

theorem toList_ofPath (p : String) : (ofPath p).toList = replaceNumbers (replaceIdentifiers p.toList) :=
  String.toList_ofList

/-- In a path that has its labels there are no identifiers to replace. -/
theorem toList_ofPath_ofPath (p : String) : (ofPath (ofPath p)).toList = replaceNumbers (ofPath p).toList := by
  have hfree : ¬ HasIdentifier (ofPath p).toList := by
    rw [toList_ofPath]
    exact free_replaceNumbers (free_replaceIdentifiers _)
  rw [toList_ofPath, replaceIdentifiers_of_free hfree]

theorem ofPath_eq_iff (p q : String) : ofPath p = q ↔ segments (ofPath p).toList = segments q.toList :=
  ⟨fun h => by rw [h], fun h => String.toList_injective (segments_injective h)⟩

theorem segments_ofPath (h : segments (replaceIdentifiers p.toList) = s :: ss) :
    segments (ofPath p).toList = s :: relabel true ss := by
  rw [toList_ofPath, segments_replaceNumbers, h, relabel_false_cons]

theorem segments_ofPath_ofPath (h : segments (replaceIdentifiers p.toList) = s :: ss) :
    segments (ofPath (ofPath p)).toList = s :: ss.map labelled := by
  rw [toList_ofPath_ofPath, segments_replaceNumbers, segments_ofPath h, relabel_false_cons, (relabel_relabel ss).1]

theorem ofPath_ofPath_ofPath (p : String) : ofPath (ofPath (ofPath p)) = ofPath (ofPath p) := by
  obtain ⟨s, ss, hss⟩ := exists_segments_eq (replaceIdentifiers p.toList)
  have hwords : ∀ t ∈ ss.map labelled, isNumber t = false := by
    intro t ht
    obtain ⟨u, -, rfl⟩ := List.mem_map.mp ht
    exact isNumber_labelled u
  rw [ofPath_eq_iff, toList_ofPath_ofPath, segments_replaceNumbers, segments_ofPath_ofPath hss, relabel_false_cons,
    relabel_of_words hwords]

/-- **The labels of a path.** First the identifiers are replaced: none is left, and a path without any stays as it is.
Then, of the segments that follow a slash, those of digits are replaced, but of several in a row only every other one,
namely those that an even number of the row stand before. That is all of them if and only if no two stand side by
side, and exactly then a second pass changes nothing. A second pass replaces whatever the first has passed over, and a
third one changes nothing any more. -/
theorem ofPath_labels_in_turn (p : String) :
    ¬ HasIdentifier (replaceIdentifiers p.toList) ∧
      (¬ HasIdentifier p.toList → replaceIdentifiers p.toList = p.toList) ∧
      ∃ s ss, segments (replaceIdentifiers p.toList) = s :: ss ∧
        segments (ofPath p).toList =
          s :: ss.mapIdx (fun i t => if isNumber t = true ∧ Even (numbersAtEnd (ss.take i)) then label else t) ∧
        (segments (ofPath p).toList = s :: ss.map labelled ↔ Apart ss) ∧
        (ofPath (ofPath p) = ofPath p ↔ Apart ss) ∧
        segments (ofPath (ofPath p)).toList = s :: ss.map labelled ∧
        ofPath (ofPath (ofPath p)) = ofPath (ofPath p) := by
  refine ⟨free_replaceIdentifiers _, replaceIdentifiers_of_free, ?_⟩
  obtain ⟨s, ss, hss⟩ := exists_segments_eq (replaceIdentifiers p.toList)
  have honce := segments_ofPath hss
  have htwice := segments_ofPath_ofPath hss
  have hplaces := relabel_eq_mapIdx ss []
  have henough := (relabel_eq_map_iff ss).1
  refine ⟨s, ss, hss, ?_, ?_, ?_, htwice, ofPath_ofPath_ofPath p⟩
  · rw [honce]
    exact congrArg (s :: ·) hplaces
  · rw [honce, List.cons.injEq, and_iff_right rfl, henough]
  · rw [ofPath_eq_iff, htwice, honce, List.cons.injEq, and_iff_right rfl, eq_comm, henough]

/-- Of four segments of digits in a row the first and the third are replaced, the other two by a second pass. -/
theorem ofPath_labels_in_turn_tickets :
    ¬ HasIdentifier "/tickets/1/2/3/4".toList ∧
      ofPath "/tickets/1/2/3/4" = "/tickets/\x7bid\x7d/2/\x7bid\x7d/4" ∧
      ofPath (ofPath "/tickets/1/2/3/4") = "/tickets/\x7bid\x7d/\x7bid\x7d/\x7bid\x7d/\x7bid\x7d" ∧
      ofPath (ofPath (ofPath "/tickets/1/2/3/4")) = ofPath (ofPath "/tickets/1/2/3/4") := by
  have hfree : ¬ HasIdentifier "/tickets/1/2/3/4".toList := fun h => absurd h.length_le (by decide)
  obtain ⟨-, hkept, s, ss, hss, honce, -, -, htwice, hthrice⟩ := ofPath_labels_in_turn "/tickets/1/2/3/4"
  rw [hkept hfree] at hss
  obtain ⟨rfl, rfl⟩ : [] = s ∧ ["tickets".toList, ['1'], ['2'], ['3'], ['4']] = ss := List.cons.inj hss
  refine ⟨hfree, (ofPath_eq_iff _ _).mpr ?_, (ofPath_eq_iff _ _).mpr ?_, hthrice⟩
  · rw [honce]
    decide
  · rw [htwice]
    decide

/-- **A number is passed over**: of two side by side the second one stays, and goes in a second pass only. -/
theorem ofPath_passes_over :
    ¬ HasIdentifier "/1/2".toList ∧ ofPath "/1/2" = "/\x7bid\x7d/2" ∧
      ['2'] ∈ (segments (ofPath "/1/2").toList).tail ∧ isNumber ['2'] = true ∧
      ofPath (ofPath "/1/2") = "/\x7bid\x7d/\x7bid\x7d" ∧ ofPath (ofPath "/1/2") ≠ ofPath "/1/2" := by
  have hfree : ¬ HasIdentifier "/1/2".toList := fun h => absurd h.length_le (by decide)
  have hss : segments (replaceIdentifiers "/1/2".toList) = [[], ['1'], ['2']] := by
    rw [replaceIdentifiers_of_free hfree]
    rfl
  have honce : ofPath "/1/2" = "/\x7bid\x7d/2" := by
    rw [ofPath_eq_iff, segments_ofPath hss]
    decide
  have htwice : ofPath (ofPath "/1/2") = "/\x7bid\x7d/\x7bid\x7d" := by
    rw [ofPath_eq_iff, segments_ofPath_ofPath hss]
    decide
  refine ⟨hfree, honce, ?_, rfl, htwice, ?_⟩
  · rw [honce]
    decide
  · rw [htwice, honce]
    decide

end Backlog.RouteLabel
