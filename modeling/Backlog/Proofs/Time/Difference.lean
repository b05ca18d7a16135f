import Backlog.Time.Instant
/-!
# Differences of instants

A cutoff is an instant less a duration, and the calendar ends, so the subtraction is held at the
smallest instant.  Comparing with a cutoff is nevertheless the same as comparing an exact difference
with the duration: nothing is before the smallest instant, so holding the cutoff there lets nothing
through that the exact difference would not.

Instants in leap seconds have no count of nanoseconds of their own.  In the order of instants they
stand behind every regular instant of the second they are written with and before the next second,
and the last nanosecond of that second stands in the same place among all others.  `Instant.mark`
counts them there, which makes the comparison with a regular instant one of numbers for all of them.

## Main results

* `before_iff_mark` — what is before a regular instant.
* `nanos_minus` — a difference, held at the smallest instant.
* `before_minus_iff_mark` — what is before a cutoff is further back than the duration.
-/

namespace Backlog.Instant

/-- The count of nanoseconds at which an instant stands; one in a leap second stands at the last
nanosecond before it. -/
def mark (t : Instant) : Int := t.second * 1000000000 + min t.nano 999999999

theorem isRegular_iff {t : Instant} : t.isRegular = true ↔ t.nano < 1000000000 := by
  simp only [isRegular, decide_eq_true_eq]

/-- A regular instant stands at its own count. -/
theorem mark_of_isRegular {t : Instant} (h : t.isRegular = true) : t.mark = t.nanos := by
  rw [isRegular_iff] at h
  simp only [mark, nanos]
  omega

theorem earliest_le_mark (t : Instant) : earliest.nanos ≤ t.mark := by
  have hsecond := t.second_ge
  simp only [nanos, mark, earliest, firstSecond]
  omega

theorem mark_le_latest (t : Instant) : t.mark ≤ latest.nanos := by
  have hsecond := t.second_le
  simp only [nanos, mark, latest, lastSecond]
  omega

/-- What is before a regular instant stands at a lower count. -/
theorem before_iff_mark {a b : Instant} (hb : b.isRegular = true) :
    a.before b = true ↔ a.mark < b.nanos := by
  rw [isRegular_iff] at hb
  rw [before_iff]
  simp only [mark, nanos]
  omega

/-- A count before the calendar is that of no instant. -/
theorem ofNanos?_eq_none {n : Int} (h : n < earliest.nanos) : ofNanos? n = none := by
  cases ht : ofNanos? n with
  | none => rfl
  | some t =>
      have hnanos := nanos_ofNanos? ht
      have hsecond := t.second_ge
      simp only [nanos, earliest, firstSecond] at hnanos h
      omega

/-- A regular instant less a duration is regular, and its count is the difference, held at that of
the smallest instant. -/
theorem nanos_minus {t : Instant} (h : t.isRegular = true) (d : Duration) :
    (t.minus d).isRegular = true ∧ (t.minus d).nanos = max (t.nanos - d.nanos) earliest.nanos := by
  by_cases hlow : earliest.nanos ≤ t.nanos - d.nanos
  · have hhigh := t.mark_le_latest
    rw [mark_of_isRegular h] at hhigh
    obtain ⟨u, hu, hnanos, hregular⟩ := ofNanos?_isSome hlow (by omega)
    rw [minus, hu, Option.getD_some]
    refine ⟨isRegular_iff.2 hregular, ?_⟩
    omega
  · rw [minus, ofNanos?_eq_none (by omega), Option.getD_none]
    refine ⟨by decide, ?_⟩
    omega

/-- What is before a cutoff is further back than the duration that was taken off, also where the
cutoff would leave the calendar. -/
theorem before_minus_iff_mark {a b : Instant} (hb : b.isRegular = true) (d : Duration) :
    a.before (b.minus d) = true ↔ (d.nanos : Int) < b.nanos - a.mark := by
  obtain ⟨hregular, hnanos⟩ := nanos_minus hb d
  have hlow := a.earliest_le_mark
  rw [before_iff_mark hregular, hnanos]
  omega

end Backlog.Instant
