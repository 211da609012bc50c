import Backlog.Time.Calendar
import Mathlib.Tactic

/-! # Days and dates

A day has a date of the calendar (`isValid_ofDays`), and the date leads back to the day (`toDays_ofDays`). Both
follow the computation: a day is a day of an era of 400 years, which is a day of one of its years, where years
are counted from March (`yearOfEra_bounds`, `dayOfYear_bounds`). The last day of such a year is a leap day if it
is the 366th (`leap_of_dayOfYear`). -/

namespace Backlog.Date

variable {d y m n : ℤ}

/-! ### Years of an era -/

/-- The year of an era that a day of it falls into. -/
def yearOfEra (d : ℤ) : ℤ := (d - d / 1460 + d / 36524 - d / 146096) / 365

/-- The day of the year of an era that a day of it is. -/
def dayOfYear (d : ℤ) : ℤ := d - (365 * yearOfEra d + yearOfEra d / 4 - yearOfEra d / 100)

theorem yearOfEra_bounds (hlow : 0 ≤ d) (hhigh : d < 146097) : 0 ≤ yearOfEra d ∧ yearOfEra d < 400 := by
  unfold yearOfEra
  omega

/-- The centuries that are over can be counted in days or in years. -/
theorem century_eq (hlow : 0 ≤ d) (hhigh : d < 146097) : yearOfEra d / 100 = d / 36524 - d / 146096 := by
  have hcentury : d / 36524 = 0 ∨ d / 36524 = 1 ∨ d / 36524 = 2 ∨ d / 36524 = 3 ∨ d / 36524 = 4 := by omega
  have hlast : d / 146096 = 0 ∨ d / 146096 = 1 := by omega
  unfold yearOfEra
  rcases hcentury with h | h | h | h | h <;> rcases hlast with h' | h' <;> rw [h, h'] <;> omega

/-- The leap days that are over can be counted in days or in years, up to the last. -/
theorem quarter_bounds (hlow : 0 ≤ d) (hhigh : d < 146097) :
    yearOfEra d / 4 ≤ d / 1460 ∧ d / 1460 ≤ yearOfEra d / 4 + 1 := by
  have hcentury := century_eq hlow hhigh
  unfold yearOfEra at *
  generalize d / 36524 = c at *
  omega

theorem dayOfYear_bounds (hlow : 0 ≤ d) (hhigh : d < 146097) : 0 ≤ dayOfYear d ∧ dayOfYear d ≤ 365 := by
  have hcentury := century_eq hlow hhigh
  have hquarter := quarter_bounds hlow hhigh
  have hyear : yearOfEra d = (d - d / 1460 + d / 36524 - d / 146096) / 365 := rfl
  unfold dayOfYear
  generalize yearOfEra d = y at *
  omega

/-- **A 366th day comes at the end of February in leap years alone.** -/
theorem leap_of_dayOfYear (hlow : 0 ≤ d) (hhigh : d < 146097) (h : dayOfYear d = 365) :
    (yearOfEra d + 1) % 4 = 0 ∧ ((yearOfEra d + 1) % 100 ≠ 0 ∨ (yearOfEra d + 1) % 400 = 0) := by
  have hcentury := century_eq hlow hhigh
  have hquarter := quarter_bounds hlow hhigh
  have hyear : yearOfEra d = (d - d / 1460 + d / 36524 - d / 146096) / 365 := rfl
  unfold dayOfYear at h
  generalize yearOfEra d = y at *
  have hy : y < 400 := by omega
  have hcount : d / 1460 = y / 4 + 1 := by omega
  have hlast : y % 4 = 3 := by
    have : y % 4 = 0 ∨ y % 4 = 1 ∨ y % 4 = 2 ∨ y % 4 = 3 := by omega
    rcases this with hr | hr | hr | hr <;> omega
  refine ⟨by omega, ?_⟩
  by_contra hnot
  have : y = 99 ∨ y = 199 ∨ y = 299 := by omega
  omega

/-! ### Dates -/

/-- The era of a day, and the day of the era. -/
def eraOf (n : ℤ) : ℤ := (n + 719468) / 146097

/-- The day of its era that a day is. -/
def dayOfEra (n : ℤ) : ℤ := n + 719468 - eraOf n * 146097

theorem dayOfEra_bounds (n : ℤ) : 0 ≤ dayOfEra n ∧ dayOfEra n < 146097 := by
  unfold dayOfEra eraOf
  omega

/-- The date of a day of a year that is counted from March. -/
def ofMarch (y m : ℤ) : Date :=
  let mp := (5 * m + 2) / 153
  ⟨if (if mp < 10 then mp + 3 else mp - 9) ≤ 2 then y + 1 else y, (if mp < 10 then mp + 3 else mp - 9).toNat,
    (m - (153 * mp + 2) / 5 + 1).toNat⟩

theorem ofDays_eq (n : ℤ) :
    ofDays n = ofMarch (yearOfEra (dayOfEra n) + eraOf n * 400) (dayOfYear (dayOfEra n)) := rfl

/-- The days before a year that is counted from March. -/
def daysBefore (y : ℤ) : ℤ := y / 400 * 146097 + ((y - y / 400 * 400) * 365 + (y - y / 400 * 400) / 4 -
  (y - y / 400 * 400) / 100) - 719468

theorem monthFromMarch (hlow : 0 ≤ m) (hhigh : m ≤ 365) : ∃ k : ℕ, k < 12 ∧ (5 * m + 2) / 153 = k := by
  exact ⟨((5 * m + 2) / 153).toNat, by omega, by omega⟩

theorem toDays_ofMarch (hlow : 0 ≤ m) (hhigh : m ≤ 365) : (ofMarch y m).toDays = daysBefore y + m := by
  obtain ⟨k, hk, hmonth⟩ := monthFromMarch hlow hhigh
  have hday : 0 ≤ m - (153 * (k : ℤ) + 2) / 5 + 1 := by omega
  simp only [ofMarch, toDays, daysBefore, hmonth]
  interval_cases k <;> norm_num <;> omega

theorem isValid_ofMarch (hlow : 0 ≤ m) (hhigh : m ≤ 365) (hfirst : -262143 ≤ y) (hlast : y < 262142)
    (hleap : m = 365 → (y + 1) % 4 = 0 ∧ ((y + 1) % 100 ≠ 0 ∨ (y + 1) % 400 = 0)) :
    (ofMarch y m).isValid = true := by
  obtain ⟨k, hk, hmonth⟩ := monthFromMarch hlow hhigh
  simp only [ofMarch, isValid, daysIn, isLeap, hmonth]
  interval_cases k <;> norm_num <;> omega

theorem daysBefore_eq (hlow : 0 ≤ d) (hhigh : d < 146097) (n : ℤ) :
    daysBefore (yearOfEra d + n * 400) + dayOfYear d = n * 146097 + d - 719468 := by
  obtain ⟨hleast, hmost⟩ := yearOfEra_bounds hlow hhigh
  unfold daysBefore dayOfYear
  generalize yearOfEra d = y at *
  have hera : (y + n * 400) / 400 = n := by omega
  rw [hera]
  have hrest : y + n * 400 - n * 400 = y := by omega
  rw [hrest]
  omega

/-- **The date of a day leads back to the day.** -/
theorem toDays_ofDays (n : ℤ) : (ofDays n).toDays = n := by
  obtain ⟨hlow, hhigh⟩ := dayOfEra_bounds n
  obtain ⟨hleast, hmost⟩ := dayOfYear_bounds hlow hhigh
  rw [ofDays_eq, toDays_ofMarch hleast hmost, daysBefore_eq hlow hhigh]
  unfold dayOfEra
  omega

theorem year_ofMarch : (ofMarch y m).year = y ∨ (ofMarch y m).year = y + 1 := by
  dsimp only [ofMarch]
  split_ifs <;> simp

/-- **A day of a year with four digits has a date of the calendar.** -/
theorem isValid_ofDays (hlow : 0 ≤ (ofDays n).year) (hhigh : (ofDays n).year ≤ 9999) :
    (ofDays n).isValid = true := by
  obtain ⟨hfirst, hlast⟩ := dayOfEra_bounds n
  obtain ⟨hleast, hmost⟩ := dayOfYear_bounds hfirst hlast
  rw [ofDays_eq] at hlow hhigh ⊢
  rcases year_ofMarch (y := yearOfEra (dayOfEra n) + eraOf n * 400) (m := dayOfYear (dayOfEra n))
    with hyear | hyear
  all_goals
    rw [hyear] at hlow hhigh
    refine isValid_ofMarch hleast hmost (by omega) (by omega) fun hday => ?_
    have hleap := leap_of_dayOfYear hfirst hlast hday
    omega

theorem bounds_of_isValid {date : Date} (h : date.isValid = true) :
    1 ≤ date.month ∧ date.month ≤ 12 ∧ 1 ≤ date.day ∧ date.day ≤ 31 := by
  have hmonth : daysIn date.year date.month ≤ 31 := by
    unfold daysIn
    split_ifs <;> omega
  simp only [isValid, Bool.and_eq_true, decide_eq_true_eq] at h
  omega

end Backlog.Date
