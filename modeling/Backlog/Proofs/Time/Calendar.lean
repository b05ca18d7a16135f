import Backlog.Time.Calendar
import Mathlib.Tactic.IntervalCases
/-!
# The dates of days

The date of a day is one that the calendar has: its month has that many days.  For eleven of the
twelve months of a year that begins in March the length is where the next month begins less where
the month itself does, so the day of the month is in range by how the month was found.  The last
month is February.  Its twenty-ninth is the day 365 of the year, and the split of an era into years
reaches that number only in the last of four years, which is no last of a century unless it is the
last of the era: this is the rule of the leap years.

## Main results

* `isLeapYear_of_day` — a year with a day 365 ends in a February of twenty-nine days.
* `isValid_ofDayNumber` — the date of a day is valid.
-/

namespace Backlog.CivilDate

theorem isLeapYear_iff {y : Int} :
    isLeapYear y = true ↔ y % 4 = 0 ∧ (y % 100 ≠ 0 ∨ y % 400 = 0) := by
  simp [isLeapYear]

/-- A year with a day 365 ends in a leap February. -/
theorem isLeapYear_of_day {d : Int} (h0 : 0 ≤ d) (h1 : d < 146097)
    (hday : (yearAndDay d).2 = 365) (era : Int) :
    isLeapYear ((yearAndDay d).1 + era * 400 + 1) = true := by
  simp only [yearAndDay] at hday ⊢
  generalize hc : min 3 (d / 36524) = c at hday ⊢
  generalize hf : (d - c * 36524) / 1461 = f at hday ⊢
  generalize hy : min 3 ((d - c * 36524 - f * 1461) / 365) = y at hday ⊢
  -- the fourth year of the four, and not the fourth of a century's last unless the era ends there
  have hlast : y = 3 ∧ d - c * 36524 - f * 1461 = 1460 := by omega
  have hcentury : 0 ≤ f ∧ (f ≤ 23 ∨ f = 24 ∧ c = 3) := by omega
  rw [isLeapYear_iff]
  omega

/-- A month of a year that begins in March ends where the next one begins. -/
theorem monthLength_march {m : Int} (h0 : 0 ≤ m) (h1 : m < 11) (y : Int) :
    (monthLength y (if m < 10 then m + 3 else m - 9).toNat : Int)
      = (153 * (m + 1) + 2) / 5 - (153 * m + 2) / 5 := by
  interval_cases m <;> rfl

theorem le_monthLength_february (y : Int) : 28 ≤ monthLength y 2 := by
  simp only [monthLength]
  split <;> omega

/-- The date of a day is one the calendar has. -/
theorem isValid_ofDayNumber (n : Int) : (ofDayNumber n).isValid = true := by
  have h0 := Int.emod_nonneg (n + 719468) (by decide : (146097 : Int) ≠ 0)
  have h1 := Int.emod_lt_of_pos (n + 719468) (by decide : (0 : Int) < 146097)
  have hb := yearAndDay_bounds h0 h1
  have hleap := fun hday => isLeapYear_of_day h0 h1 hday ((n + 719468) / 146097)
  obtain ⟨y, d, hp⟩ : ∃ y d, yearAndDay ((n + 719468) % 146097) = (y, d) := ⟨_, _, rfl⟩
  simp only [hp] at hb hleap
  obtain ⟨-, -, hd0, hd1, -⟩ := hb
  simp only [isValid, ofDayNumber, hp, Bool.and_eq_true, decide_eq_true_eq]
  generalize hm : (5 * d + 2) / 153 = m
  by_cases h11 : m < 11
  · have hlength := monthLength_march (by omega : 0 ≤ m) h11
      (if (if m < 10 then m + 3 else m - 9) ≤ 2 then y + (n + 719468) / 146097 * 400 + 1
        else y + (n + 719468) / 146097 * 400)
    constructor <;> omega
  · obtain rfl : m = 11 := by omega
    have hfebruary : (if (11 : Int) < 10 then (11 : Int) + 3 else 11 - 9) = 2 := rfl
    have htwo : (2 : Int).toNat = 2 := rfl
    simp only [hfebruary, le_refl, if_true, htwo]
    have hlength := le_monthLength_february (y + (n + 719468) / 146097 * 400 + 1)
    by_cases hday : d = 365
    · have hlong : monthLength (y + (n + 719468) / 146097 * 400 + 1) 2 = 29 := by
        simp [monthLength, hleap hday]
      rw [hlong]
      omega
    · omega

theorem monthLength_eq_zero {m : Nat} (h : 12 < m) (y : Int) : monthLength y m = 0 := by
  unfold monthLength
  split <;> omega

theorem monthLength_le (y : Int) (m : Nat) : monthLength y m ≤ 31 := by
  unfold monthLength
  split <;> first | omega | split <;> omega

/-- The numbers of a valid date have two digits. -/
theorem bounds_of_isValid {c : CivilDate} (h : c.isValid = true) : c.month < 100 ∧ c.day < 100 := by
  simp only [isValid, Bool.and_eq_true, decide_eq_true_eq] at h
  have hday := monthLength_le c.year c.month
  have hmonth : c.month ≤ 12 := by
    by_contra hlate
    have hnone := monthLength_eq_zero (by omega : 12 < c.month) c.year
    omega
  omega

end Backlog.CivilDate
