import Backlog.Json.Printer
import Backlog.Json.Reader
import Backlog.Proofs.Text.Split

/-! # What is written is read back

A document that is whole, with nothing in it that stands for a fault, is read back from its text
(`read_render`). Its text may stand in front of anything else, if only no number goes on there
(`TakesWithin`): this is what the induction needs, which is on the steps that reading takes, with one
statement each for a value, the items of an array and the members of an object. -/

namespace Backlog

open Text

variable {n : Numeral} {rest : List Char}

/-- **A literal**: digits without superfluous zeros, then maybe more digits behind the point. -/
structure Numeral.Literal (n : Numeral) : Prop where
  whole : ∀ d ∈ n.whole, d.isDigit = true
  ne_nil : n.whole ≠ []
  lead : n.whole.head? = some '0' → n.whole = ['0']
  fraction : ∀ d ∈ n.fraction, d.isDigit = true

namespace Json

/-! ### Numbers -/

/-- **A text that does not go on with a number** before it. -/
def EndsNumber (rest : List Char) : Prop :=
  ∀ c ∈ rest.head?, c.isDigit = false ∧ c ≠ '.' ∧ c ≠ 'e' ∧ c ≠ 'E'

theorem isDigit_of_mem_toDigits {k : ℕ} {d : Char} (hd : d ∈ Nat.toDigits 10 k) : d.isDigit = true :=
  Nat.isDigit_of_mem_toDigits (by decide) (by decide) hd

theorem exists_toDigits_eq_cons (k : ℕ) : ∃ d ds, Nat.toDigits 10 k = d :: ds ∧ d.isDigit = true := by
  obtain ⟨d, ds, hds⟩ := List.exists_cons_of_ne_nil (Nat.toDigits_ne_nil (n := k) (b := 10))
  exact ⟨d, ds, hds, isDigit_of_mem_toDigits (by rw [hds]; simp)⟩

theorem ne_of_isDigit {c d : Char} (hd : d.isDigit = true) (hc : c.isDigit = false) : d ≠ c := by
  rintro rfl
  rw [hc] at hd
  cases hd

theorem spanDigits_append {ds : List Char} (hds : ∀ d ∈ ds, d.isDigit = true)
    (hrest : ∀ c ∈ rest.head?, c.isDigit = false) : spanDigits (ds ++ rest) = (ds, rest) := by
  rw [spanDigits, List.span_eq_takeWhile_dropWhile, List.takeWhile_append_of_pos hds,
    List.dropWhile_append_of_pos hds]
  cases rest with
  | nil => simp
  | cons c rest =>
    have hc : c.isDigit = false := hrest c rfl
    rw [List.takeWhile_cons_of_neg (by simp [hc]), List.dropWhile_cons_of_neg (by simp [hc]),
      List.append_nil]

theorem spanDigits_toDigits (k : ℕ) (hrest : ∀ c ∈ rest.head?, c.isDigit = false) :
    spanDigits (Nat.toDigits 10 k ++ rest) = (Nat.toDigits 10 k, rest) :=
  spanDigits_append (fun _ => isDigit_of_mem_toDigits) hrest

/-- The text of an exponent behind its mark. -/
def exponentChars (e : ℤ) : List Char :=
  if e < 0 then '-' :: Nat.toDigits 10 e.natAbs else Nat.toDigits 10 e.natAbs

theorem exponent?_exponentChars (e : ℤ) (hrest : EndsNumber rest) :
    exponent? (exponentChars e ++ rest) = some (e, rest) := by
  obtain ⟨d, ds, hds, hd⟩ := exists_toDigits_eq_cons e.natAbs
  have hspan := spanDigits_toDigits e.natAbs fun c hc => (hrest c hc).1
  have hvalue := digitsValue_toDigits e.natAbs
  rw [hds] at hspan hvalue
  have hsign : ∀ c, c.isDigit = false → ∀ r, d :: ds ++ rest = c :: r → False :=
    fun c hc r h => ne_of_isDigit hd hc (List.cons.inj h).1
  by_cases he : e < 0
  · rw [exponentChars, if_pos he, hds, List.cons_append, exponent?, hspan]
    simp only [hvalue, if_true, Option.some.injEq, Prod.mk.injEq, and_true]
    omega
  · rw [exponentChars, if_neg he, hds, exponent?, hspan]
    · simp only [hvalue, Bool.false_eq_true, if_false, Option.some.injEq, Prod.mk.injEq, and_true]
      omega
    · exact hsign '+' rfl
    · exact hsign '-' rfl

/-- The text of an exponent. -/
def exponentPart : Option ℤ → List Char
  | none => []
  | some e => 'e' :: exponentChars e

/-- The text of a literal behind its whole digits. -/
def afterWhole (n : Numeral) : List Char :=
  (if n.fraction.isEmpty then [] else '.' :: n.fraction) ++ exponentPart n.exponent

theorem renderNumeral_eq (n : Numeral) :
    renderNumeral n = (if n.negative then ['-'] else []) ++ (n.whole ++ afterWhole n) := by
  rw [renderNumeral, afterWhole]
  simp only [List.append_assoc]
  cases n.exponent <;> rfl

/-- How a literal is read from its exponent on. -/
def finish? (negative : Bool) (whole fraction cs : List Char) : Option (Numeral × List Char) :=
  match cs with
  | 'e' :: r | 'E' :: r => (exponent? r).map fun (e, r') => (⟨negative, whole, fraction, some e⟩, r')
  | _ => some (⟨negative, whole, fraction, none⟩, cs)

theorem finish?_exponentPart {negative : Bool} {whole fraction : List Char} (hrest : EndsNumber rest) :
    ∀ exponent, finish? negative whole fraction (exponentPart exponent ++ rest) =
      some (⟨negative, whole, fraction, exponent⟩, rest)
  | none => by
    cases rest with
    | nil => rfl
    | cons c rest =>
      obtain ⟨-, -, he, hE⟩ := hrest c rfl
      rw [exponentPart, List.nil_append, finish?]
      · rintro r h; exact he (List.cons.inj h).1
      · rintro r h; exact hE (List.cons.inj h).1
  | some e => by
    rw [exponentPart, List.cons_append, finish?, exponent?_exponentChars e hrest]
    rfl

theorem numeralAfter?_of_ne_dot {negative : Bool} {whole cs : List Char} (hdot : ∀ c ∈ cs.head?, c ≠ '.') :
    numeralAfter? negative whole cs = finish? negative whole [] cs := by
  cases cs with
  | nil => rfl
  | cons c cs =>
    unfold numeralAfter?
    simp [hdot c rfl]
    rfl

theorem numeralAfter?_dot {negative : Bool} {whole fraction cs : List Char} (hne : fraction ≠ [])
    (hfraction : ∀ d ∈ fraction, d.isDigit = true) (hcs : ∀ c ∈ cs.head?, c.isDigit = false) :
    numeralAfter? negative whole ('.' :: (fraction ++ cs)) = finish? negative whole fraction cs := by
  obtain ⟨d, ds, rfl⟩ := List.exists_cons_of_ne_nil hne
  unfold numeralAfter?
  simp only [spanDigits_append hfraction hcs]
  rfl

theorem head?_exponentPart (hrest : EndsNumber rest) (exponent : Option ℤ) :
    ∀ c ∈ (exponentPart exponent ++ rest).head?, c.isDigit = false ∧ c ≠ '.' := by
  cases exponent with
  | none => exact fun c hc => ⟨(hrest c hc).1, (hrest c hc).2.1⟩
  | some e =>
    rintro c hc
    cases hc
    decide

theorem numeralAfter?_afterWhole (hn : n.Literal) (hrest : EndsNumber rest) :
    numeralAfter? n.negative n.whole (afterWhole n ++ rest) = some (n, rest) := by
  have hhead := head?_exponentPart hrest n.exponent
  rw [afterWhole, List.append_assoc]
  cases hfraction : n.fraction with
  | nil =>
    rw [List.isEmpty_nil, if_pos rfl, List.nil_append, numeralAfter?_of_ne_dot fun c hc => (hhead c hc).2,
      finish?_exponentPart hrest, ← hfraction]
  | cons f fs =>
    rw [List.isEmpty_cons, if_neg (by simp), List.cons_append, ← hfraction,
      numeralAfter?_dot (by simp [hfraction]) hn.fraction fun c hc => (hhead c hc).1,
      finish?_exponentPart hrest]

theorem head?_afterWhole (n : Numeral) (hrest : EndsNumber rest) :
    ∀ c ∈ (afterWhole n ++ rest).head?, c.isDigit = false := by
  rw [afterWhole, List.append_assoc]
  split_ifs
  · exact fun c hc => (head?_exponentPart hrest n.exponent c hc).1
  · rintro c hc
    cases hc
    rfl

/-- **A literal is read back** behind its sign. -/
theorem numeral?_whole (hn : n.Literal) (hrest : EndsNumber rest) :
    numeral? n.negative (n.whole ++ (afterWhole n ++ rest)) = some (n, rest) := by
  have hspan := spanDigits_append hn.whole (head?_afterWhole n hrest)
  have hafter := numeralAfter?_afterWhole hn hrest
  obtain ⟨d, ds, hwhole⟩ := List.exists_cons_of_ne_nil hn.ne_nil
  by_cases hd : d = '0'
  · have hzero : n.whole = ['0'] := hn.lead (by rw [hwhole, hd]; rfl)
    rw [numeral?, hspan, hzero]
    rw [hzero] at hafter
    exact hafter
  · rw [numeral?, hspan, hwhole]
    rw [hwhole] at hafter
    split
    · next h => cases h
    · next h => cases h; exact absurd rfl hd
    · next h => cases h; exact absurd rfl hd
    · next h => cases h; exact hafter

/-! ### Strings -/

theorem hexValue?_digitChar : ∀ a < 16, hexValue? (Nat.digitChar a) = some a := by
  decide

theorem hexFour?_control {k : ℕ} (hk : k < 32) :
    hexFour? ('0' :: '0' :: Nat.digitChar (k / 16) :: Nat.digitChar (k % 16) :: rest) = some (k, rest) := by
  have hhigh := hexValue?_digitChar (k / 16) (by omega)
  have hlow := hexValue?_digitChar (k % 16) (by omega)
  have hzero : hexValue? '0' = some 0 := rfl
  simp only [hexFour?, hhigh, hlow, hzero, Option.bind_eq_bind, Option.bind_some, Option.some.injEq,
    Prod.mk.injEq, and_true]
  omega

/-- **An escaped character is read back.** -/
theorem literal?_escapeChar (fuel : ℕ) (c : Char) (cs text : List Char) :
    literal? (fuel + 1) (escapeChar c ++ cs) (some text) = literal? fuel cs (some (c :: text)) := by
  unfold escapeChar
  split_ifs with hquote hslash hn hr ht hb hf hcontrol
  · subst hquote; rfl
  · subst hslash; rfl
  · subst hn; rfl
  · subst hr; rfl
  · subst ht; rfl
  · rw [← Char.ofNat_toNat c, hb]; rfl
  · rw [← Char.ofNat_toNat c, hf]; rfl
  · have hhigh : isHighHalf c.toNat = false := by simp [isHighHalf]; omega
    have hlow : isLowHalf c.toNat = false := by simp [isLowHalf]; omega
    simp only [List.cons_append, List.nil_append]
    rw [literal?]
    simp [hexFour?_control hcontrol, hhigh, hlow, Char.ofNat_toNat]
  · rw [List.singleton_append]
    conv_lhs => unfold literal?
    simp [hquote, hslash, hcontrol]

theorem literal?_flatMap_escapeChar : ∀ (s text : List Char) (fuel : ℕ), s.length < fuel →
    literal? fuel (s.flatMap escapeChar ++ '"' :: rest) (some text) =
      some (some (String.ofList (text.reverse ++ s)), rest)
  | _, _, 0, h => absurd h (by omega)
  | [], text, fuel + 1, _ => by
    rw [List.flatMap_nil, List.nil_append, List.append_nil]
    rfl
  | c :: s, text, fuel + 1, h => by
    rw [List.flatMap_cons, List.append_assoc, literal?_escapeChar,
      literal?_flatMap_escapeChar s (c :: text) fuel (by simpa using h), List.reverse_cons, List.append_assoc]
    rfl

theorem length_le_flatMap_escapeChar (s : List Char) : s.length ≤ (s.flatMap escapeChar).length := by
  have hone : ∀ c, 1 ≤ (escapeChar c).length := by
    intro c
    unfold escapeChar
    split_ifs <;> simp
  induction s with
  | nil => simp
  | cons c s ih =>
    have := hone c
    rw [List.flatMap_cons, List.length_append, List.length_cons]
    omega

/-- **A string is read back** behind its opening quote. -/
theorem literal?_renderString (s : String) (rest : List Char) :
    ∃ r, renderString s ++ rest = '"' :: r ∧ literal? (r.length + 1) r (some []) = some (some s, rest) := by
  refine ⟨s.toList.flatMap escapeChar ++ '"' :: rest, by simp [renderString], ?_⟩
  have hlength := length_le_flatMap_escapeChar s.toList
  rw [literal?_flatMap_escapeChar s.toList [] _ (by rw [List.length_append]; omega), List.reverse_nil,
    List.nil_append, String.ofList_toList]

/-! ### Documents -/

/-- **A whole document**: nothing in it stands for a fault, and its numbers are literals. -/
inductive Whole : Json → Prop
  | null : Whole .null
  | bool (b : Bool) : Whole (.bool b)
  | number {n : Numeral} : n.Literal → Whole (.number n)
  | string (s : String) : Whole (.string s)
  | array {vs : List Json} : (∀ v ∈ vs, v.Whole) → Whole (.array vs)
  | object {ms : List (String × Json)} : (∀ m ∈ ms, m.2.Whole) → Whole (.object ms)

theorem skipGap_cons {c : Char} {cs : List Char} (hc : isGap c = false) : skipGap (c :: cs) = c :: cs := by
  rw [skipGap, List.dropWhile_cons_of_neg (by simp [hc])]

theorem isGap_of_isDigit {d : Char} (hd : d.isDigit = true) : isGap d = false := by
  simp [isGap, ne_of_isDigit hd (c := ' ') rfl, ne_of_isDigit hd (c := '\n') rfl,
    ne_of_isDigit hd (c := '\t') rfl, ne_of_isDigit hd (c := '\r') rfl]

theorem exists_cons_of_literal (hn : n.Literal) (cs : List Char) :
    ∃ d ds, n.whole ++ cs = d :: ds ∧ d.isDigit = true := by
  obtain ⟨d, ds, hds⟩ := List.exists_cons_of_ne_nil hn.ne_nil
  exact ⟨d, ds ++ cs, by rw [hds]; rfl, hn.whole d (by simp [hds])⟩

/-- **How the text of a value begins**: with no blank, and with no closing bracket. -/
theorem renderChars_eq_cons {v : Json} (hv : v.Whole) :
    ∃ c cs, v.renderChars = c :: cs ∧ isGap c = false ∧ c ≠ ']' := by
  cases hv with
  | null => exact ⟨_, _, by rw [renderChars], rfl, by decide⟩
  | bool b => cases b <;> exact ⟨_, _, by rw [renderChars], rfl, by decide⟩
  | @number n hn =>
    rw [renderChars, renderNumeral_eq]
    cases n.negative with
    | true => exact ⟨_, _, rfl, rfl, by decide⟩
    | false =>
      obtain ⟨d, ds, hds, hd⟩ := exists_cons_of_literal hn (afterWhole n)
      exact ⟨d, ds, hds, isGap_of_isDigit hd, ne_of_isDigit hd rfl⟩
  | string s => exact ⟨_, _, by rw [renderChars, renderString], rfl, by decide⟩
  | array _ => exact ⟨_, _, by rw [renderChars], rfl, by decide⟩
  | object _ => exact ⟨_, _, by rw [renderChars], rfl, by decide⟩

theorem value_digit {d : Char} {ds : List Char} (hd : d.isDigit = true)
    (hread : numeral? false (d :: ds) = some (n, rest)) (fuel : ℕ) :
    value (fuel + 1) (d :: ds) = (.number n, some rest) := by
  rw [value, skipGap_cons (isGap_of_isDigit hd)]
  have hne : ∀ c, c.isDigit = false → d ≠ c := fun c => ne_of_isDigit hd
  simp [hne '{' rfl, hne '[' rfl, hne '"' rfl, hne 'n' rfl, hne 't' rfl, hne 'f' rfl, hne '-' rfl, hread]

theorem value_number (hn : n.Literal) (hrest : EndsNumber rest) (fuel : ℕ) :
    value (fuel + 1) (renderNumeral n ++ rest) = (.number n, some rest) := by
  have hread := numeral?_whole hn hrest
  rw [renderNumeral_eq]
  cases hsign : n.negative with
  | true =>
    rw [hsign] at hread
    simp only [if_true, List.cons_append, List.nil_append, List.append_assoc]
    rw [value, skipGap_cons rfl]
    simp only [hread]
  | false =>
    rw [hsign] at hread
    simp only [Bool.false_eq_true, if_false, List.nil_append, List.append_assoc]
    obtain ⟨d, ds, hds, hd⟩ := exists_cons_of_literal hn (afterWhole n ++ rest)
    rw [hds] at hread ⊢
    rw [value_digit hd hread]

theorem value_string (s : String) (fuel : ℕ) :
    value (fuel + 1) (renderString s ++ rest) = (.string s, some rest) := by
  obtain ⟨r, hr, hread⟩ := literal?_renderString s rest
  rw [hr, value, skipGap_cons rfl]
  simp only [hread]

/-- **What reading takes from a text** in `fuel` steps: the value, the items or the members that stand
there. -/
structure TakesWithin (fuel : ℕ) : Prop where
  value : ∀ {v} rest, v.Whole → EndsNumber rest → v.renderChars.length ≤ fuel →
    value fuel (v.renderChars ++ rest) = (v, some rest)
  items : ∀ {vs} rest, vs ≠ [] → (∀ v ∈ vs, v.Whole) → (renderItems vs).length < fuel →
    items fuel (renderItems vs ++ ']' :: rest) = (vs, some rest)
  members : ∀ {ms} rest, ms ≠ [] → (∀ m ∈ ms, m.2.Whole) → (renderMembers ms).length < fuel →
    members fuel (renderMembers ms ++ '}' :: rest) = (ms, some rest)

theorem endsNumber_cons {c : Char} (cs : List Char) (hc : c = ',' ∨ c = ']' ∨ c = '}') :
    EndsNumber (c :: cs) := by
  rintro d ⟨⟩
  obtain rfl | rfl | rfl := hc <;> decide

variable {fuel : ℕ}

theorem TakesWithin.items_succ (h : TakesWithin fuel) :
    ∀ {vs : List Json}, vs ≠ [] → (∀ v ∈ vs, v.Whole) → (renderItems vs).length < fuel + 1 →
      Json.items (fuel + 1) (renderItems vs ++ ']' :: rest) = (vs, some rest)
  | [v], _, hvs, hlength => by
    rw [renderItems] at hlength ⊢
    have hread := h.value (']' :: rest) (hvs v (by simp)) (endsNumber_cons rest (.inr (.inl rfl))) (by omega)
    rw [Json.items, hread]
    simp only [skipGap_cons (c := ']') rfl]
  | v :: w :: vs, _, hvs, hlength => by
    rw [renderItems, List.length_append, List.length_cons] at hlength
    have hhead := h.value (',' :: (renderItems (w :: vs) ++ ']' :: rest)) (hvs v (by simp))
      (endsNumber_cons _ (.inl rfl)) (by omega)
    have htail := h.items rest (List.cons_ne_nil w vs)
      (fun u hu => hvs u (List.mem_cons_of_mem v hu)) (by omega)
    rw [renderItems, List.append_assoc, List.cons_append, Json.items, hhead]
    simp only [skipGap_cons (c := ',') rfl, htail]

theorem TakesWithin.members_succ (h : TakesWithin fuel) :
    ∀ {ms : List (String × Json)}, ms ≠ [] → (∀ m ∈ ms, m.2.Whole) → (renderMembers ms).length < fuel + 1 →
      Json.members (fuel + 1) (renderMembers ms ++ '}' :: rest) = (ms, some rest)
  | [(k, v)], _, hms, hlength => by
    rw [renderMembers, List.length_append, List.length_cons] at hlength
    obtain ⟨r, hr, hkey⟩ := literal?_renderString k (':' :: (v.renderChars ++ '}' :: rest))
    have hv : v.Whole := hms (k, v) (by simp)
    have hread := h.value ('}' :: rest) hv (endsNumber_cons rest (.inr (.inr rfl))) (by omega)
    rw [renderMembers, List.append_assoc, List.cons_append, hr, Json.members, skipGap_cons rfl]
    simp only [hkey, skipGap_cons (c := ':') rfl, hread, skipGap_cons (c := '}') rfl]
  | (k, v) :: m :: ms, _, hms, hlength => by
    rw [renderMembers, List.length_append, List.length_cons, List.length_append, List.length_cons] at hlength
    obtain ⟨r, hr, hkey⟩ := literal?_renderString k
      (':' :: (v.renderChars ++ ',' :: (renderMembers (m :: ms) ++ '}' :: rest)))
    have hv : v.Whole := hms (k, v) (by simp)
    have hhead := h.value (',' :: (renderMembers (m :: ms) ++ '}' :: rest)) hv
      (endsNumber_cons _ (.inl rfl)) (by omega)
    have htail := h.members rest (List.cons_ne_nil m ms)
      (fun u hu => hms u (List.mem_cons_of_mem (k, v) hu)) (by omega)
    rw [renderMembers, List.append_assoc, List.cons_append, List.append_assoc, List.cons_append, hr, Json.members,
      skipGap_cons rfl]
    simp only [hkey, skipGap_cons (c := ':') rfl, hhead, skipGap_cons (c := ',') rfl, htail]

theorem renderItems_eq_cons {vs : List Json} (rest : List Char) (hne : vs ≠ []) (hvs : ∀ v ∈ vs, v.Whole) :
    ∃ c cs, renderItems vs ++ rest = c :: cs ∧ isGap c = false ∧ c ≠ ']' := by
  obtain ⟨v, ws, rfl⟩ := List.exists_cons_of_ne_nil hne
  obtain ⟨c, cs, hcs, hc⟩ := renderChars_eq_cons (hvs v (by simp))
  cases ws with
  | nil => exact ⟨c, cs ++ rest, by rw [renderItems, hcs, List.cons_append], hc⟩
  | cons w ws => exact ⟨c, _, by rw [renderItems, hcs, List.cons_append, List.cons_append], hc⟩

theorem renderMembers_eq_cons {ms : List (String × Json)} (rest : List Char) (hne : ms ≠ []) :
    ∃ cs, renderMembers ms ++ rest = '"' :: cs := by
  obtain ⟨⟨k, v⟩, ws, rfl⟩ := List.exists_cons_of_ne_nil hne
  cases ws with
  | nil => exact ⟨_, by rw [renderMembers, renderString]; rfl⟩
  | cons w ws => exact ⟨_, by rw [renderMembers, renderString]; rfl⟩

theorem TakesWithin.value_succ (h : TakesWithin fuel) {v : Json} (hv : v.Whole) (hrest : EndsNumber rest)
    (hlength : v.renderChars.length ≤ fuel + 1) :
    Json.value (fuel + 1) (v.renderChars ++ rest) = (v, some rest) := by
  cases hv with
  | null => rfl
  | bool b => cases b <;> rfl
  | number hn => rw [renderChars, value_number hn hrest]
  | string s => rw [renderChars, value_string]
  | @array vs hvs =>
    rw [renderChars, List.length_cons, List.length_append] at hlength
    rw [renderChars, List.cons_append, List.append_assoc, List.singleton_append, Json.value, skipGap_cons rfl]
    by_cases hne : vs = []
    · subst hne
      rfl
    · obtain ⟨c, cs, hcs, hc, hclose⟩ := renderItems_eq_cons (']' :: rest) hne hvs
      have hread := h.items rest hne hvs (by simp at hlength; omega)
      rw [hcs] at hread ⊢
      simp only [skipGap_cons hc]
      split
      · next heq => exact absurd (List.cons.inj heq).1 hclose
      · rw [hread]
  | @object ms hms =>
    rw [renderChars, List.length_cons, List.length_append] at hlength
    rw [renderChars, List.cons_append, List.append_assoc, List.singleton_append, Json.value, skipGap_cons rfl]
    by_cases hne : ms = []
    · subst hne
      rfl
    · obtain ⟨cs, hcs⟩ := renderMembers_eq_cons ('}' :: rest) hne
      have hread := h.members rest hne hms (by simp at hlength; omega)
      rw [hcs] at hread ⊢
      simp only [skipGap_cons (c := '"') rfl]
      split
      · next heq => exact absurd (List.cons.inj heq).1 (by decide)
      · rw [hread]

theorem takesWithin : ∀ fuel, TakesWithin fuel
  | 0 => {
      value := fun _ hv _ hlength => by
        obtain ⟨c, cs, hcs, -⟩ := renderChars_eq_cons hv
        rw [hcs] at hlength
        cases hlength
      items := fun _ _ _ hlength => absurd hlength (by omega)
      members := fun _ _ _ hlength => absurd hlength (by omega) }
  | fuel + 1 => {
      value := fun _ => (takesWithin fuel).value_succ
      items := fun _ => (takesWithin fuel).items_succ
      members := fun _ => (takesWithin fuel).members_succ }

/-- **A whole document is read back from its text**, and nothing is left over. -/
theorem read_render {v : Json} (hv : v.Whole) : read v.render = ⟨v, false⟩ := by
  have hvalue := (takesWithin (2 * v.renderChars.length + 2)).value [] hv (by rintro c ⟨⟩) (by omega)
  rw [List.append_nil] at hvalue
  rw [read, render, String.toList_ofList, hvalue]
  rfl

/-- Reading a whole document from its text is reading the document. -/
theorem ofText_render {α : Type} (r : Read α) {v : Json} (hv : v.Whole) : ofText r v.render = r v := by
  rw [ofText, read_render hv]
  cases r v <;> rfl

end Json

end Backlog
