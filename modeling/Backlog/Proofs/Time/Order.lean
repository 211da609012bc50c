import Backlog.Proofs.Time.Rfc3339
import Backlog.Text.Split
import Mathlib.Data.String.Basic

/-! # Texts in the order of time

Of two instants in years of four digits the earlier has the smaller strict text (`toStrictText_lt`), so that texts
are sorted as the instants are (`atMost_toStrictText`). Dates are in the order of their days (`Date.before_ofDays`);
numbers of one width are in the order of their texts (`lt_of_value_lt`), and so are digits after a point, however
many there are, since the sign that follows them is less than a point and a point less than a digit
(`lt_of_fraction_lt`). -/

namespace Backlog

/-! ### Dates -/

namespace Date

variable {n n' : ℤ}

/-- One date is before another. -/
def Before (d d' : Date) : Prop :=
  d.year < d'.year ∨ d.year = d'.year ∧ (d.month < d'.month ∨ d.month = d'.month ∧ d.day < d'.day)

/-- The days before a year, counted by its leap days. -/
theorem daysBefore_closed (y : ℤ) : daysBefore y = 365 * y + y / 4 - y / 100 + y / 400 - 719468 := by
  unfold daysBefore
  omega

theorem daysBefore_mono {y y' : ℤ} (h : y ≤ y') : daysBefore y ≤ daysBefore y' := by
  rw [daysBefore_closed, daysBefore_closed]
  omega

theorem daysBefore_succ (y : ℤ) : daysBefore y + 365 ≤ daysBefore (y + 1) := by
  rw [daysBefore_closed, daysBefore_closed]
  omega

theorem daysBefore_succ_of_leap {y : ℤ} (h : (y + 1) % 4 = 0 ∧ ((y + 1) % 100 ≠ 0 ∨ (y + 1) % 400 = 0)) :
    daysBefore (y + 1) = daysBefore y + 366 := by
  rw [daysBefore_closed, daysBefore_closed]
  omega

theorem exists_ofMarch (n : ℤ) : ∃ y m, 0 ≤ m ∧ m ≤ 365 ∧ daysBefore y + m = n ∧ n < daysBefore (y + 1) ∧
    ofDays n = ofMarch y m := by
  obtain ⟨hlow, hhigh⟩ := dayOfEra_bounds n
  obtain ⟨hleast, hmost⟩ := dayOfYear_bounds hlow hhigh
  obtain ⟨y, hy⟩ : ∃ y, y = yearOfEra (dayOfEra n) + eraOf n * 400 := ⟨_, rfl⟩
  have hday : daysBefore y + dayOfYear (dayOfEra n) = n := by
    rw [hy, daysBefore_eq hlow hhigh]
    unfold dayOfEra
    omega
  refine ⟨y, _, hleast, hmost, hday, ?_, hy ▸ ofDays_eq n⟩
  -- only a leap day is the 366th of its year
  by_cases hlast : dayOfYear (dayOfEra n) = 365
  · have hleap := leap_of_dayOfYear hlow hhigh hlast
    have hyear : (y + 1) % 4 = 0 ∧ ((y + 1) % 100 ≠ 0 ∨ (y + 1) % 400 = 0) := by omega
    have hnext := daysBefore_succ_of_leap hyear
    omega
  · have hnext := daysBefore_succ y
    omega

/-- The months of a year from March, by the day of the year. -/
theorem ofMarch_spec {y m : ℤ} (hlow : 0 ≤ m) (hhigh : m ≤ 365) :
    12 * (ofMarch y m).year + (ofMarch y m).month = 12 * y + (5 * m + 2) / 153 + 3 ∧
      ((ofMarch y m).day : ℤ) = m - (153 * ((5 * m + 2) / 153) + 2) / 5 + 1 ∧
      1 ≤ (ofMarch y m).month ∧ (ofMarch y m).month ≤ 12 := by
  dsimp only [ofMarch]
  split_ifs <;> omega

theorem before_ofDays (h : n < n') : (ofDays n).Before (ofDays n') := by
  obtain ⟨y, m, hlow, hhigh, hday, -, hdate⟩ := exists_ofMarch n
  obtain ⟨y', m', hlow', hhigh', hday', hnext', hdate'⟩ := exists_ofMarch n'
  obtain ⟨hmonths, hdays, hmonth, hmonth12⟩ := ofMarch_spec (y := y) hlow hhigh
  obtain ⟨hmonths', hdays', hmonth', hmonth12'⟩ := ofMarch_spec (y := y') hlow' hhigh'
  have hyear : y < y' ∨ y = y' ∧ m < m' := by
    rcases lt_trichotomy y y' with hlt | rfl | hgt
    · exact .inl hlt
    · exact .inr ⟨rfl, by omega⟩
    · have hle := daysBefore_mono (show y' + 1 ≤ y by omega)
      omega
  rw [hdate, hdate', Before]
  omega

end Date

/-! ### Digits -/

namespace Text

variable {c d e : Char} {cs cs' ds es : List Char}

theorem digitValue_lt_ten (hd : d.isDigit = true) : digitValue d < 10 := by
  have hnine : d.toNat ≤ 57 := (Char.isDigit_iff_toNat.mp hd).2
  unfold digitValue
  omega

theorem lt_of_digitValue_lt (he : e.isDigit = true) (h : digitValue d < digitValue e) : d < e := by
  have hzero : 48 ≤ e.toNat := (Char.isDigit_iff_toNat.mp he).1
  have hlt : d.toNat < e.toNat := by
    unfold digitValue at h
    omega
  exact hlt

theorem eq_of_digitValue_eq (hd : d.isDigit = true) (he : e.isDigit = true) (h : digitValue d = digitValue e) :
    d = e := by
  have hzero : 48 ≤ d.toNat := (Char.isDigit_iff_toNat.mp hd).1
  have hzero' : 48 ≤ e.toNat := (Char.isDigit_iff_toNat.mp he).1
  refine Char.toNat_inj.mp ?_
  unfold digitValue at h
  omega

theorem digitsValue_cons (d : Char) (ds : List Char) :
    digitsValue (d :: ds) = 10 ^ ds.length * digitValue d + digitsValue ds := by
  simp only [digitsValue_eq_ofDigitChars, Nat.ofDigitChars_cons]
  rw [Nat.ofDigitChars_eq_ofDigitChars_zero]
  simp [digitValue]

theorem digitsValue_lt (hds : ∀ d ∈ ds, d.isDigit = true) : digitsValue ds < 10 ^ ds.length := by
  induction ds with
  | nil => decide
  | cons d ds ih =>
    obtain ⟨hd, hds⟩ := List.forall_mem_cons.mp hds
    have hten := digitValue_lt_ten hd
    have hrest := ih hds
    rw [digitsValue_cons, List.length_cons, Nat.pow_succ]
    nlinarith

/-- **The first digits decide** which of two rows of digits after a point spells less, or else those that follow. -/
theorem first_digit (hd : d.isDigit = true) (he : e.isDigit = true) (hds : ∀ d ∈ ds, d.isDigit = true)
    (hes : ∀ e ∈ es, e.isDigit = true)
    (h : digitsValue (d :: ds) * 10 ^ (e :: es).length < digitsValue (e :: es) * 10 ^ (d :: ds).length) :
    d < e ∨ d = e ∧ digitsValue ds * 10 ^ es.length < digitsValue es * 10 ^ ds.length := by
  have hdrest := digitsValue_lt hds
  have herest := digitsValue_lt hes
  rw [digitsValue_cons, digitsValue_cons, List.length_cons, List.length_cons, Nat.pow_succ, Nat.pow_succ] at h
  rcases lt_trichotomy (digitValue d) (digitValue e) with hlt | heq | hgt
  · exact .inl (lt_of_digitValue_lt he hlt)
  · rw [heq] at h
    exact .inr ⟨eq_of_digitValue_eq hd he heq, by linarith⟩
  · exfalso
    -- all that follows a digit is worth less than one in its place
    have hle : 10 ^ es.length * digitValue e + digitsValue es ≤ 10 ^ es.length * digitValue d := by nlinarith
    have hscaled := Nat.mul_le_mul_right (10 ^ ds.length * 10) hle
    have hpart : 0 ≤ digitsValue ds * (10 ^ es.length * 10) := Nat.zero_le _
    linarith

/-- **Digits after a point** are in the order of what they spell, if a sign less than all digits follows them: the
shorter may be the beginning of the longer. -/
theorem lt_of_fraction_lt (hc : ∀ d : Char, d.isDigit = true → c < d) (hds : ∀ d ∈ ds, d.isDigit = true)
    (hes : ∀ e ∈ es, e.isDigit = true)
    (h : digitsValue ds * 10 ^ es.length < digitsValue es * 10 ^ ds.length) : ds ++ c :: cs < es ++ c :: cs' := by
  induction ds generalizing es with
  | nil =>
    cases es with
    | nil => simp [digitsValue] at h
    | cons e es => exact List.cons_lt_cons_iff.mpr (.inl (hc e (hes e List.mem_cons_self)))
  | cons d ds ih =>
    obtain ⟨hd, hds⟩ := List.forall_mem_cons.mp hds
    cases es with
    | nil => simp [digitsValue] at h
    | cons e es =>
      obtain ⟨he, hes⟩ := List.forall_mem_cons.mp hes
      have hfirst := first_digit hd he hds hes h
      exact List.cons_lt_cons_iff.mpr (hfirst.imp_right fun hrest => ⟨hrest.1, ih hds hes hrest.2⟩)

/-- **Numbers of one width** are in the order of their texts, whatever follows. -/
theorem lt_of_value_lt (hds : ∀ d ∈ ds, d.isDigit = true) (hes : ∀ e ∈ es, e.isDigit = true)
    (hlength : ds.length = es.length) (h : digitsValue ds < digitsValue es) : ds ++ cs < es ++ cs' := by
  have hscaled : digitsValue ds * 10 ^ es.length < digitsValue es * 10 ^ ds.length := by
    rw [hlength]
    exact Nat.mul_lt_mul_of_pos_right h (by positivity)
  clear h
  induction ds generalizing es with
  | nil =>
    obtain rfl := List.length_eq_zero_iff.mp hlength.symm
    exact absurd hscaled (Nat.lt_irrefl _)
  | cons d ds ih =>
    obtain ⟨e, es, rfl⟩ := List.exists_cons_of_length_eq_add_one hlength.symm
    obtain ⟨hd, hds⟩ := List.forall_mem_cons.mp hds
    obtain ⟨he, hes⟩ := List.forall_mem_cons.mp hes
    have hfirst := first_digit hd he hds hes hscaled
    exact List.cons_lt_cons_iff.mpr
      (hfirst.imp_right fun hrest => ⟨hrest.1, ih hds hes (Nat.succ.inj hlength) hrest.2⟩)

end Text

/-! ### Instants -/

namespace Instant

open Text

variable {t u : Instant} {cs cs' : List Char}

/-- One instant is before another. -/
def Before (t u : Instant) : Prop := t.seconds < u.seconds ∨ t.seconds = u.seconds ∧ t.nanos < u.nanos

/-- **An instant of the clock** in a year of four digits. -/
structure Dated (t : Instant) : Prop where
  fourDigits : t.FourDigits
  proper : t.Proper

instance (t : Instant) : Decidable t.Dated :=
  decidable_of_iff (t.FourDigits ∧ t.Proper) ⟨fun h => ⟨h.1, h.2⟩, fun h => ⟨h.1, h.2⟩⟩

theorem atMost_iff : t.atMost u = true ↔ t.Before u ∨ t = u := by
  obtain ⟨s, n⟩ := t
  obtain ⟨s', n'⟩ := u
  simp only [atMost, Before, Bool.or_eq_true, Bool.and_eq_true, decide_eq_true_eq, beq_iff_eq, mk.injEq]
  omega

theorem not_atMost_iff : t.atMost u = false ↔ u.Before t := by
  simp only [atMost, Before, Bool.or_eq_false_iff, Bool.and_eq_false_iff, decide_eq_false_iff_not,
    beq_eq_false_iff_ne]
  omega

theorem atMost_trans (t u v : Instant) (h : t.atMost u = true) (h' : u.atMost v = true) : t.atMost v = true := by
  rw [atMost_iff] at *
  rcases h with h | rfl
  · rcases h' with h' | rfl
    · unfold Before at *
      omega
    · exact .inl h
  · exact h'

theorem atMost_total (t u : Instant) : (t.atMost u || u.atMost t) = true := by
  cases h : t.atMost u with
  | true => rfl
  | false => exact atMost_iff.mpr (.inl (not_atMost_iff.mp h))

theorem padded_lt {w m n : ℕ} {p : Prop} (hw : 0 < w) (hn : n < 10 ^ w) (h : m < n ∨ m = n ∧ p) (hp : p → cs < cs') :
    padded w m ++ cs < padded w n ++ cs' := by
  rcases h with hlt | ⟨rfl, hrest⟩
  · refine lt_of_value_lt (fun d => isDigit_of_mem_padded) (fun d => isDigit_of_mem_padded) ?_ ?_
    · rw [length_padded hw (by omega), length_padded hw hn]
    · rwa [digitsValue_padded, digitsValue_padded]
  · exact List.append_left_lt (hp hrest)

/-- The digits of a second: none, or digits after a point that spell its part in billionths. -/
theorem fractionDigits_spec {k : ℕ} (hk : k < 1000000000) :
    k = 0 ∧ fractionDigits k = [] ∨ 0 < k ∧ ∃ ds, fractionDigits k = '.' :: ds ∧ (∀ d ∈ ds, d.isDigit = true) ∧
      digitsValue ds * 1000000000 = k * 10 ^ ds.length := by
  have hdigits : ∀ w n, 0 < w → n < 10 ^ w → n * 1000000000 = k * 10 ^ w →
      ∃ ds, '.' :: padded w n = '.' :: ds ∧ (∀ d ∈ ds, d.isDigit = true) ∧
        digitsValue ds * 1000000000 = k * 10 ^ ds.length := fun w n hw hn hk =>
    ⟨_, rfl, fun d => isDigit_of_mem_padded, by rw [digitsValue_padded, length_padded hw hn, hk]⟩
  unfold fractionDigits
  split_ifs with hzero hmillis hmicros
  · exact .inl ⟨hzero, rfl⟩
  · exact .inr ⟨by omega, hdigits _ _ (by decide) (by omega) (by omega)⟩
  · exact .inr ⟨by omega, hdigits _ _ (by decide) (by omega) (by omega)⟩
  · exact .inr ⟨by omega, hdigits _ _ (by decide) (by omega) (by omega)⟩

/-- **Digits of a second** are in its order, however many there are. -/
theorem fractionDigits_lt {k l : ℕ} (hl : l < 1000000000) (h : k < l) :
    fractionDigits k ++ '+' :: cs < fractionDigits l ++ '+' :: cs := by
  have hsign : ∀ d : Char, d.isDigit = true → '+' < d := by
    intro d hd
    have hzero : 48 ≤ d.toNat := (Char.isDigit_iff_toNat.mp hd).1
    show 43 < d.toNat
    omega
  obtain ⟨hl0, -⟩ | ⟨-, es, hes, hesdigits, hesvalue⟩ := fractionDigits_spec hl
  · omega
  obtain ⟨-, hnone⟩ | ⟨-, ds, hds, hdsdigits, hdsvalue⟩ := fractionDigits_spec (h.trans hl)
  · rw [hnone, hes]
    exact List.cons_lt_cons_iff.mpr (.inl (by decide))
  · rw [hds, hes]
    refine List.cons_lt_cons_iff.mpr (.inr ⟨rfl, lt_of_fraction_lt hsign hdsdigits hesdigits ?_⟩)
    have hpos : 0 < 10 ^ ds.length * 10 ^ es.length := by positivity
    refine Nat.lt_of_mul_lt_mul_right (a := 1000000000) ?_
    calc digitsValue ds * 10 ^ es.length * 1000000000
        = k * (10 ^ ds.length * 10 ^ es.length) := by rw [mul_right_comm, hdsvalue, mul_assoc]
      _ < l * (10 ^ ds.length * 10 ^ es.length) := Nat.mul_lt_mul_of_pos_right h hpos
      _ = digitsValue es * 10 ^ ds.length * 1000000000 := by
          rw [mul_right_comm, hesvalue, mul_assoc, mul_comm (10 ^ es.length)]

theorem timeOfDay_lt (ht : t.Proper) (hu : u.Proper) (h : t.Before u) (hday : t.seconds / 86400 = u.seconds / 86400) :
    (t.seconds % 86400).toNat / 3600 < (u.seconds % 86400).toNat / 3600 ∨
    (t.seconds % 86400).toNat / 3600 = (u.seconds % 86400).toNat / 3600 ∧
    ((t.seconds % 86400).toNat / 60 % 60 < (u.seconds % 86400).toNat / 60 % 60 ∨
    (t.seconds % 86400).toNat / 60 % 60 = (u.seconds % 86400).toNat / 60 % 60 ∧
    (t.shownSecond < u.shownSecond ∨ t.shownSecond = u.shownSecond ∧ t.shownNanos < u.shownNanos)) := by
  unfold Proper at ht hu
  unfold Before at h
  obtain ⟨a, ha, ha60⟩ : ∃ a : ℕ, (t.seconds % 86400).toNat = a ∧ (t.seconds % 60 = 59 → a % 60 = 59) :=
    ⟨_, rfl, by omega⟩
  obtain ⟨b, hb, hb60⟩ : ∃ b : ℕ, (u.seconds % 86400).toNat = b ∧ (u.seconds % 60 = 59 → b % 60 = 59) :=
    ⟨_, rfl, by omega⟩
  have hshown := shown_eq t
  have hshown' := shown_eq u
  have hab : a < b ∨ a = b ∧ t.nanos < u.nanos := by omega
  rw [ha] at hshown ⊢
  rw [hb] at hshown' ⊢
  -- a leap second is the last of its minute, so it is not before another second of it
  have hsecond : a / 60 = b / 60 → t.shownSecond < u.shownSecond ∨
      t.shownSecond = u.shownSecond ∧ t.shownNanos < u.shownNanos := by
    intro hminute
    rcases hshown with ⟨hn, hs, hk⟩ | ⟨hn, hs, hk⟩ <;> rcases hshown' with ⟨hn', hs', hk'⟩ | ⟨hn', hs', hk'⟩ <;> omega
  have hminutes : a / 60 < b / 60 ∨ a / 60 = b / 60 := by omega
  rcases hminutes with hlt | heq
  · omega
  · exact .inr ⟨by omega, .inr ⟨by omega, hsecond heq⟩⟩

/-- **The earlier instant has the smaller text**, if both are in years of four digits. -/
theorem toStrictText_lt (ht : t.Dated) (hu : u.Dated) (h : t.Before u) : t.toStrictText < u.toStrictText := by
  obtain ⟨⟨hfirst, hlast⟩, ht⟩ := ht
  obtain ⟨⟨hfirst', hlast'⟩, hu⟩ := hu
  have htime := timeOfDay_lt ht hu h
  obtain ⟨-, hmonth, -, hday⟩ := Date.bounds_of_isValid (Date.isValid_ofDays hfirst' hlast')
  obtain ⟨hsecond, hnanos⟩ := shown_bounds hu
  unfold year at hfirst hlast hfirst' hlast'
  have hdays : t.seconds / 86400 < u.seconds / 86400 ∨ t.seconds / 86400 = u.seconds / 86400 := by
    unfold Before at h
    omega
  rw [String.lt_iff_toList_lt, toList_toStrictText, toList_toStrictText, yearDigits, if_pos ⟨hfirst, hlast⟩,
    yearDigits, if_pos ⟨hfirst', hlast'⟩]
  have hdate : (Date.ofDays (t.seconds / 86400)).year.toNat < (Date.ofDays (u.seconds / 86400)).year.toNat ∨
      (Date.ofDays (t.seconds / 86400)).year.toNat = (Date.ofDays (u.seconds / 86400)).year.toNat ∧
      ((Date.ofDays (t.seconds / 86400)).month < (Date.ofDays (u.seconds / 86400)).month ∨
      (Date.ofDays (t.seconds / 86400)).month = (Date.ofDays (u.seconds / 86400)).month ∧
      ((Date.ofDays (t.seconds / 86400)).day < (Date.ofDays (u.seconds / 86400)).day ∨
      (Date.ofDays (t.seconds / 86400)).day = (Date.ofDays (u.seconds / 86400)).day ∧
      t.seconds / 86400 = u.seconds / 86400)) := by
    rcases hdays with hlt | heq
    · have hbefore := Date.before_ofDays hlt
      unfold Date.Before at hbefore
      omega
    · rw [heq]
      exact .inr ⟨rfl, .inr ⟨rfl, .inr ⟨rfl, rfl⟩⟩⟩
  -- the first number that differs decides, and the date is the same only if the day is
  refine padded_lt (by decide) (by omega) hdate fun hmonths => .cons ?_
  refine padded_lt (by decide) (by omega) hmonths fun hdays => .cons ?_
  refine padded_lt (by decide) (by omega) hdays fun hsame => .cons ?_
  refine padded_lt (by decide) (by omega) (htime hsame) fun hminutes => .cons ?_
  refine padded_lt (by decide) (by omega) hminutes fun hseconds => .cons ?_
  exact padded_lt (by decide) (by omega) hseconds fun hlt => fractionDigits_lt hnanos hlt

/-- **Texts are sorted as instants are.** -/
theorem atMost_toStrictText (ht : t.Dated) (hu : u.Dated) :
    Text.atMost t.toStrictText u.toStrictText = t.atMost u := by
  cases h : t.atMost u with
  | true =>
    rcases atMost_iff.mp h with hbefore | rfl
    · exact decide_eq_true (toStrictText_lt ht hu hbefore).le
    · exact decide_eq_true le_rfl
  | false => exact decide_eq_false (not_le.mpr (toStrictText_lt hu ht (not_atMost_iff.mp h)))

end Instant

end Backlog
