import Backlog.Proofs.Text.Split
import Backlog.Proofs.Time.Calendar
import Backlog.Time.Rfc3339

/-! # Instants are read back

An instant is read back from its strict text if and only if its year has four digits
(`ofStrictText?_toStrictText`): the numbers of the text have fixed widths (`fixed?_padded`), the digits of the
second are scaled back (`fraction?_fractionDigits`), and date and time of day make up the instant again
(`ofParts?_self`). Years of more digits are written with a sign, which no strict text has. -/

namespace Backlog.Instant

open Text

variable {t : Instant} {cs : List Char}

/-- **An instant of the clock**: only the last second of a minute can be a leap second. -/
def Proper (t : Instant) : Prop :=
  t.nanos < 1000000000 ∨ t.nanos < 2000000000 ∧ t.seconds % 60 = 59

instance (t : Instant) : Decidable t.Proper :=
  inferInstanceAs (Decidable (t.nanos < 1000000000 ∨ t.nanos < 2000000000 ∧ t.seconds % 60 = 59))

/-- **A year of four digits.** -/
def FourDigits (t : Instant) : Prop := 0 ≤ t.year ∧ t.year ≤ 9999

instance (t : Instant) : Decidable t.FourDigits := inferInstanceAs (Decidable (0 ≤ t.year ∧ t.year ≤ 9999))

/-! ### Numbers of fixed width -/

theorem digitsValue_zeros (k : ℕ) (ds : List Char) :
    digitsValue (List.replicate k '0' ++ ds) = digitsValue ds := by
  induction k with
  | zero => rfl
  | succ k ih => rw [List.replicate_succ, List.cons_append, ← ih]; rfl

theorem isDigit_of_mem_padded {w n : ℕ} {d : Char} (hd : d ∈ padded w n) : d.isDigit = true := by
  rcases List.mem_append.mp hd with hd | hd
  · rw [List.eq_of_mem_replicate hd]; rfl
  · exact Nat.isDigit_of_mem_toDigits (by decide) (by decide) hd

theorem length_padded {w n : ℕ} (hw : 0 < w) (hn : n < 10 ^ w) : (padded w n).length = w := by
  have hlength : (Nat.toDigits 10 n).length ≤ w := (Nat.length_toDigits_le_iff (by decide) hw).mpr hn
  simp only [padded, List.length_append, List.length_replicate]
  omega

theorem digitsValue_padded (w n : ℕ) : digitsValue (padded w n) = n := by
  rw [padded, digitsValue_zeros, digitsValue_toDigits]

theorem fixed?_padded {w n : ℕ} (hw : 0 < w) (hn : n < 10 ^ w) : fixed? w (padded w n ++ cs) = some (n, cs) := by
  have hlength := length_padded hw hn
  have htake : (padded w n ++ cs).take w = padded w n := List.take_left' hlength
  have hdrop : (padded w n ++ cs).drop w = cs := List.drop_left' hlength
  rw [fixed?, htake, hdrop, if_pos ⟨hlength, List.all_eq_true.mpr fun d => isDigit_of_mem_padded⟩,
    digitsValue_padded]

/-! ### The digits of the second -/

theorem fraction?_padded {w k : ℕ} {c : Char} (hw : 0 < w) (hw9 : w ≤ 9) (hk : k < 10 ^ w)
    (hc : c.isDigit = false) :
    fraction? ('.' :: (padded w k ++ c :: cs)) = some (k * 10 ^ (9 - w), c :: cs) := by
  have hlength := length_padded hw hk
  have hspan : (padded w k ++ c :: cs).takeWhile Char.isDigit = padded w k := by
    rw [List.takeWhile_append_of_pos fun d => isDigit_of_mem_padded, List.takeWhile_cons_of_neg (by simp [hc]),
      List.append_nil]
  obtain ⟨d, ds, hds⟩ := List.exists_cons_of_length_pos (by omega : 0 < (padded w k).length)
  have hkept : (padded w k).take 9 = padded w k := List.take_of_length_le (by omega)
  rw [fraction?, hspan, hds]
  dsimp only
  rw [← hds, hkept, digitsValue_padded, hlength, List.drop_left' hlength]
  rfl

theorem fraction?_fractionDigits {k : ℕ} {c : Char} (hk : k < 1000000000) (hc : c.isDigit = false)
    (hdot : c ≠ '.') : fraction? (fractionDigits k ++ c :: cs) = some (k, c :: cs) := by
  unfold fractionDigits
  split_ifs with hzero hmillis hmicros
  · rw [List.nil_append, fraction?, hzero]
    rintro r h
    exact hdot (List.cons.inj h).1
  · rw [List.cons_append, fraction?_padded (by decide) (by decide) (by omega) hc]
    simp only [Option.some.injEq, Prod.mk.injEq, and_true]
    omega
  · rw [List.cons_append, fraction?_padded (by decide) (by decide) (by omega) hc]
    simp only [Option.some.injEq, Prod.mk.injEq, and_true]
    omega
  · rw [List.cons_append, fraction?_padded (by decide) (by decide) (by omega) hc]
    simp

/-! ### Instants -/

/-- A year of four digits is one of the calendar. -/
theorem inCalendar_of_fourDigits (hyear : t.FourDigits) : firstSecond ≤ t.seconds ∧ t.seconds ≤ lastSecond := by
  obtain ⟨hlow, hhigh⟩ := hyear
  obtain ⟨hday, hlast⟩ := Date.dayOfEra_bounds (t.seconds / 86400)
  obtain ⟨hleast, hmost⟩ := Date.yearOfEra_bounds hday hlast
  rw [year, Date.ofDays_eq] at hlow hhigh
  have hyear := Date.year_ofMarch
    (y := Date.yearOfEra (Date.dayOfEra (t.seconds / 86400)) + Date.eraOf (t.seconds / 86400) * 400)
    (m := Date.dayOfYear (Date.dayOfEra (t.seconds / 86400)))
  have hera : -2 ≤ Date.eraOf (t.seconds / 86400) ∧ Date.eraOf (t.seconds / 86400) ≤ 25 := by
    rcases hyear with h | h <;> omega
  unfold Date.eraOf at hera
  unfold firstSecond lastSecond
  omega

/-- The second of a minute that is written: a leap second is the sixtieth. -/
def shownSecond (t : Instant) : ℕ :=
  if decide (1000000000 ≤ t.nanos) then (t.seconds % 86400).toNat % 60 + 1 else (t.seconds % 86400).toNat % 60

/-- The part of a second that is written. -/
def shownNanos (t : Instant) : ℕ := if decide (1000000000 ≤ t.nanos) then t.nanos - 1000000000 else t.nanos

/-- A leap second is shown as such, any other second as it is. -/
theorem shown_eq (t : Instant) :
    (1000000000 ≤ t.nanos ∧ t.shownSecond = (t.seconds % 86400).toNat % 60 + 1 ∧
      t.shownNanos = t.nanos - 1000000000) ∨
      t.nanos < 1000000000 ∧ t.shownSecond = (t.seconds % 86400).toNat % 60 ∧ t.shownNanos = t.nanos := by
  by_cases h : 1000000000 ≤ t.nanos
  · exact .inl ⟨h, if_pos (decide_eq_true h), if_pos (decide_eq_true h)⟩
  · have hplain : ¬ decide (1000000000 ≤ t.nanos) = true := by simpa using h
    exact .inr ⟨by omega, if_neg hplain, if_neg hplain⟩

theorem shown_bounds (ht : t.Proper) : t.shownSecond < 100 ∧ t.shownNanos < 1000000000 := by
  unfold Proper at ht
  rcases shown_eq t with ⟨h, hs, hn⟩ | ⟨h, hs, hn⟩ <;> omega

theorem ofParts?_eq_some {date : Date} {hour minute second nanos : ℕ} {seconds : ℤ} (hdate : date.isValid = true)
    (hhour : hour < 24) (hminute : minute < 60) (hsecond : second ≤ 60)
    (hsum : date.toDays * 86400 + hour * 3600 + minute * 60 + (if second = 60 then 59 else second : ℕ)
      - 0 = seconds)
    (hrange : firstSecond ≤ seconds ∧ seconds ≤ lastSecond) :
    ofParts? date hour minute second nanos 0 =
      some ⟨seconds, if second = 60 then nanos + 1000000000 else nanos⟩ := by
  rw [ofParts?, hdate, decide_eq_true hhour, decide_eq_true hminute, decide_eq_true hsecond]
  simp only [Bool.and_self, if_true, hsum, if_pos hrange]

/-- **Date and time of day make up the instant again.** -/
theorem ofParts?_self (hyear : t.FourDigits) (ht : t.Proper) :
    ofParts? (Date.ofDays (t.seconds / 86400)) ((t.seconds % 86400).toNat / 3600)
      ((t.seconds % 86400).toNat / 60 % 60) t.shownSecond t.shownNanos 0 = some t := by
  have hvalid := Date.isValid_ofDays hyear.1 hyear.2
  have hrange := inCalendar_of_fourDigits hyear
  obtain ⟨hsixty, hsecond, hnanos⟩ : t.shownSecond ≤ 60 ∧
      (if t.shownSecond = 60 then 59 else t.shownSecond : ℕ) = (t.seconds % 86400).toNat % 60 ∧
      (if t.shownSecond = 60 then t.shownNanos + 1000000000 else t.shownNanos) = t.nanos := by
    unfold Proper at ht
    rcases shown_eq t with ⟨h, hsecond, hnanos⟩ | ⟨h, hsecond, hnanos⟩
    · have hleap : t.shownSecond = 60 := by omega
      rw [if_pos hleap, if_pos hleap]
      omega
    · have hplain : t.shownSecond ≠ 60 := by omega
      rw [if_neg hplain, if_neg hplain]
      omega
  have hsum : (Date.ofDays (t.seconds / 86400)).toDays * 86400 + ((t.seconds % 86400).toNat / 3600 : ℕ) * 3600 +
      ((t.seconds % 86400).toNat / 60 % 60 : ℕ) * 60 +
      (if t.shownSecond = 60 then 59 else t.shownSecond : ℕ) - 0 = t.seconds := by
    rw [Date.toDays_ofDays, hsecond]
    have hparts : (t.seconds % 86400).toNat = (t.seconds % 86400).toNat / 3600 * 3600 +
        (t.seconds % 86400).toNat / 60 % 60 * 60 + (t.seconds % 86400).toNat % 60 := by omega
    omega
  rw [ofParts?_eq_some hvalid (by omega) (by omega) hsixty hsum hrange, hnanos]

/-! ### Texts -/

theorem after?_cons (c : Char) : after? c (c :: cs) = some cs := if_pos rfl

theorem strictOffset?_zero : strictOffset? ['+', '0', '0', ':', '0', '0'] = some (0, []) := by rfl

theorem toList_toStrictText (t : Instant) :
    t.toStrictText.toList = yearDigits (Date.ofDays (t.seconds / 86400)).year ++ ('-' ::
      (padded 2 (Date.ofDays (t.seconds / 86400)).month ++ ('-' ::
      (padded 2 (Date.ofDays (t.seconds / 86400)).day ++ ('T' ::
      (padded 2 ((t.seconds % 86400).toNat / 3600) ++ (':' ::
      (padded 2 ((t.seconds % 86400).toNat / 60 % 60) ++ (':' ::
      (padded 2 t.shownSecond ++ (fractionDigits t.shownNanos ++ ['+', '0', '0', ':', '0', '0']))))))))))) := by
  simp only [toStrictText, String.toList_ofList, dateTimeChars, shownSecond, shownNanos, List.append_assoc,
    List.cons_append]

/-- **An instant in a year of four digits is read back** from its strict text. -/
theorem ofStrictText?_toStrictText (hyear : t.FourDigits) (ht : t.Proper) :
    ofStrictText? t.toStrictText = some t := by
  have hself := ofParts?_self hyear ht
  have hvalid := Date.isValid_ofDays hyear.1 hyear.2
  obtain ⟨hfirst, hlast⟩ := hyear
  unfold year at hfirst hlast
  rw [ofStrictText?, toList_toStrictText]
  generalize Date.ofDays (t.seconds / 86400) = date at *
  obtain ⟨y, hy⟩ : ∃ y : ℕ, date.year = y := ⟨date.year.toNat, by omega⟩
  have hdate := Date.bounds_of_isValid hvalid
  have hsecond := shown_bounds ht
  have htwo {n : ℕ} (hn : n < 100) (cs : List Char) : fixed? 2 (padded 2 n ++ cs) = some (n, cs) :=
    fixed?_padded (by decide) hn
  rw [yearDigits, if_pos ⟨hfirst, hlast⟩, hy, Int.toNat_natCast, fixed?_padded (by decide) (by omega)]
  simp only [Option.bind_eq_bind, Option.bind_some, after?_cons, htwo (show date.month < 100 by omega),
    htwo (show date.day < 100 by omega), htwo (show (t.seconds % 86400).toNat / 3600 < 100 by omega),
    htwo (show (t.seconds % 86400).toNat / 60 % 60 < 100 by omega), htwo hsecond.1,
    fraction?_fractionDigits hsecond.2 (show '+'.isDigit = false by decide) (by decide), strictOffset?_zero,
    List.isEmpty_nil, if_true]
  rw [← hself, ← hy]

/-- A year of other than four digits is written with a sign, which no strict text begins with. -/
theorem ofStrictText?_eq_none (hyear : ¬ t.FourDigits) : ofStrictText? t.toStrictText = none := by
  have hsign {c : Char} (hc : c.isDigit = false) (cs : List Char) : fixed? 4 (c :: cs) = none := by
    rw [fixed?, if_neg]
    rintro ⟨-, hall⟩
    simp [hc] at hall
  have hnot : ¬ (0 ≤ (Date.ofDays (t.seconds / 86400)).year ∧ (Date.ofDays (t.seconds / 86400)).year ≤ 9999)
    := hyear
  rw [ofStrictText?, toList_toStrictText, yearDigits, if_neg hnot, List.cons_append]
  split_ifs with hneg
  · rw [hsign (by decide), Option.bind_eq_bind, Option.bind_none]
  · rw [hsign (by decide), Option.bind_eq_bind, Option.bind_none]

end Backlog.Instant
