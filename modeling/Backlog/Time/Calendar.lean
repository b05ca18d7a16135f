/-!
# The civil calendar

Days are counted from 1970-01-01, negative before it; dates are those of the proleptic Gregorian
calendar, with a year zero and negative years. The conversion counts in years that begin on the
first of March, so that the leap day is the last of its year and the months before it have fixed
lengths: the day of such a year on which month `m` (March is 0) begins is `(153 * m + 2) / 5`.
Four hundred years are one era of 146097 days, after which the pattern repeats.

## Main results

* `dayNumber_ofDayNumber` — the date of a day is a date of that day, for every day.
* `yearAndDay_bounds` — a day of an era splits into a year below 400 and a place in that year.
-/

namespace Backlog

/-- A year, month and day as written, whether or not the month has that day. -/
structure CivilDate where
  year : Int
  month : Nat
  day : Nat
  deriving DecidableEq, Repr

namespace CivilDate

/-- Whether a year has a twenty-ninth of February. -/
def isLeapYear (y : Int) : Bool := y % 4 == 0 && (y % 100 != 0 || y % 400 == 0)

/-- The length of a month, and zero for a number that is no month. -/
def monthLength (y : Int) (m : Nat) : Nat :=
  match m with
  | 1 | 3 | 5 | 7 | 8 | 10 | 12 => 31
  | 4 | 6 | 9 | 11 => 30
  | 2 => if isLeapYear y then 29 else 28
  | _ => 0

/-- Whether the calendar has this date. -/
def isValid (c : CivilDate) : Bool := 1 ≤ c.day && c.day ≤ monthLength c.year c.month

/-- Days from 1970-01-01 to a date. -/
def dayNumber (c : CivilDate) : Int :=
  let y := if c.month ≤ 2 then c.year - 1 else c.year
  let era := y / 400
  let yearOfEra := y % 400
  let marchMonth : Int := (c.month + 9) % 12
  let dayOfYear := (153 * marchMonth + 2) / 5 + c.day - 1
  let dayOfEra := yearOfEra * 365 + yearOfEra / 4 - yearOfEra / 100 + dayOfYear
  era * 146097 + dayOfEra - 719468

/-- The year and day of a day of an era, both counted from zero. A century has 36524 days, four
years 1461 and a year 365; the last century of an era and the last of four years have one day
more, which the `min` keeps in them. -/
def yearAndDay (dayOfEra : Int) : Int × Int :=
  let century := min 3 (dayOfEra / 36524)
  let dayOfCentury := dayOfEra - century * 36524
  let four := dayOfCentury / 1461
  let dayOfFour := dayOfCentury - four * 1461
  let year := min 3 (dayOfFour / 365)
  (century * 100 + four * 4 + year, dayOfFour - year * 365)

/-- The date of the day `n` days after 1970-01-01. -/
def ofDayNumber (n : Int) : CivilDate :=
  let z := n + 719468
  let (yearOfEra, dayOfYear) := yearAndDay (z % 146097)
  let marchMonth := (5 * dayOfYear + 2) / 153
  let day := dayOfYear - (153 * marchMonth + 2) / 5 + 1
  let month := if marchMonth < 10 then marchMonth + 3 else marchMonth - 9
  let year := yearOfEra + z / 146097 * 400
  ⟨if month ≤ 2 then year + 1 else year, month.toNat, day.toNat⟩

/-- A day of an era is the days of the years before it and its own place in its year. -/
theorem yearAndDay_bounds {d : Int} (h0 : 0 ≤ d) (h1 : d < 146097) :
    0 ≤ (yearAndDay d).1 ∧ (yearAndDay d).1 < 400 ∧ 0 ≤ (yearAndDay d).2 ∧
      (yearAndDay d).2 ≤ 365 ∧
      (yearAndDay d).1 * 365 + (yearAndDay d).1 / 4 - (yearAndDay d).1 / 100
        + (yearAndDay d).2 = d := by
  simp only [yearAndDay]
  generalize hc : min 3 (d / 36524) = c
  generalize hf : (d - c * 36524) / 1461 = f
  generalize hy : min 3 ((d - c * 36524 - f * 1461) / 365) = y
  have hc' : 0 ≤ c ∧ c ≤ 3 ∧ 0 ≤ d - c * 36524 ∧ d - c * 36524 ≤ 36524 := by omega
  have hf' : 0 ≤ f ∧ f ≤ 24 ∧ 0 ≤ d - c * 36524 - f * 1461 ∧ d - c * 36524 - f * 1461 ≤ 1460 := by
    omega
  have hy' : 0 ≤ y ∧ y ≤ 3 ∧ 0 ≤ d - c * 36524 - f * 1461 - y * 365 ∧
      d - c * 36524 - f * 1461 - y * 365 ≤ 365 := by omega
  have h4 : (c * 100 + f * 4 + y) / 4 = c * 25 + f := by omega
  have h100 : (c * 100 + f * 4 + y) / 100 = c := by omega
  rw [h4, h100]
  omega

/-- Every day's date is a date of that day. -/
theorem dayNumber_ofDayNumber (n : Int) : dayNumber (ofDayNumber n) = n := by
  have hb := yearAndDay_bounds (Int.emod_nonneg (n + 719468) (by decide : (146097 : Int) ≠ 0))
    (Int.emod_lt_of_pos _ (by decide))
  obtain ⟨y, d, hp⟩ : ∃ y d, yearAndDay ((n + 719468) % 146097) = (y, d) := ⟨_, _, rfl⟩
  simp only [hp] at hb
  obtain ⟨hy0, hy1, hd0, hd1, he⟩ := hb
  simp only [dayNumber, ofDayNumber, hp]
  generalize hm : (5 * d + 2) / 153 = m
  have hm' : 0 ≤ m ∧ m ≤ 11 ∧ 153 * m ≤ 5 * d + 2 := by omega
  have hday : ((d - (153 * m + 2) / 5 + 1).toNat : Int) = d - (153 * m + 2) / 5 + 1 :=
    Int.toNat_of_nonneg (by omega)
  by_cases h10 : m < 10
  · have hmo : ¬ m + 3 ≤ 2 := by omega
    have hmn : ¬ (m + 3).toNat ≤ 2 := by omega
    have hmm : (((m + 3).toNat : Int) + 9) % 12 = m := by omega
    simp only [h10, if_true, hmo, if_false, hmn, hmm]
    have h400 : (y + (n + 719468) / 146097 * 400) / 400 = (n + 719468) / 146097 := by omega
    have h400' : (y + (n + 719468) / 146097 * 400) % 400 = y := by omega
    rw [h400, h400', hday]
    omega
  · have hmo : m - 9 ≤ 2 := by omega
    have hmn : (m - 9).toNat ≤ 2 := by omega
    have hmm : (((m - 9).toNat : Int) + 9) % 12 = m := by omega
    simp only [h10, if_false, hmo, if_true, hmn, hmm]
    have h400 : (y + (n + 719468) / 146097 * 400 + 1 - 1) / 400 = (n + 719468) / 146097 := by omega
    have h400' : (y + (n + 719468) / 146097 * 400 + 1 - 1) % 400 = y := by omega
    rw [h400, h400', hday]
    omega

example : dayNumber ⟨1970, 1, 1⟩ = 0 := by decide
example : dayNumber ⟨2000, 3, 1⟩ = 11017 := by decide
example : ofDayNumber 11016 = ⟨2000, 2, 29⟩ := by decide
example : ofDayNumber (-719529) = ⟨-1, 12, 31⟩ := by decide

end CivilDate

end Backlog
