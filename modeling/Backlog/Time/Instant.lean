import Backlog.Time.Duration
/-!
# Instants

An instant is a second of Coordinated Universal Time, counted from 1970-01-01T00:00:00Z, and a
place inside it in nanoseconds. A place of a whole second or more lies in a leap second, which
follows the second it is written with. The calendar of the program ends at the years −262143 and
+262142, and the bounds are fields: an instant outside them does not exist, so arithmetic that
would leave the calendar says so with an `Option`.

The order is lexicographic: by second, then by the place in it. Away from leap seconds it is the
order of the count of nanoseconds (`before_iff_nanos`), which is what differences of instants are
taken of.

## Main results

* `before_iff_nanos` — without leap seconds, earlier is fewer nanoseconds.
* `nanos_ofNanos?` — an instant made of a count of nanoseconds has that count.
-/

namespace Backlog

/-- A point of time within the calendar. -/
@[ext] structure Instant where
  second : Int
  nano : Nat
  second_ge : -8334601228800 ≤ second
  second_le : second ≤ 8210266876799
  nano_lt : nano < 2000000000
  deriving DecidableEq, Repr

namespace Instant

/-- The first second of the calendar, the start of the year −262143. -/
def firstSecond : Int := -8334601228800

/-- The last second of the calendar, the end of the year +262142. -/
def lastSecond : Int := 8210266876799

/-- The instant with these parts, if the calendar has it. -/
def ofParts? (second : Int) (nano : Nat) : Option Instant :=
  if h : firstSecond ≤ second ∧ second ≤ lastSecond ∧ nano < 2000000000 then
    some ⟨second, nano, h.1, h.2.1, h.2.2⟩
  else none

/-- The smallest instant. -/
def earliest : Instant := ⟨firstSecond, 0, by decide, by decide, by decide⟩

/-- The largest instant. -/
def latest : Instant := ⟨lastSecond, 999999999, by decide, by decide, by decide⟩

/-- 1970-01-01T00:00:00Z. -/
def epoch : Instant := ⟨0, 0, by decide, by decide, by decide⟩

/-- Nanoseconds since 1970-01-01T00:00:00Z. -/
def nanos (t : Instant) : Int := t.second * 1000000000 + t.nano

/-- The instant `n` nanoseconds after 1970-01-01T00:00:00Z, if the calendar has it. -/
def ofNanos? (n : Int) : Option Instant := ofParts? (n / 1000000000) (n % 1000000000).toNat

/-- Whether `a` is earlier than `b`. -/
def before (a b : Instant) : Bool :=
  a.second < b.second || (a.second == b.second && a.nano < b.nano)

/-- A shorter count of nanoseconds, or the smallest instant if that would leave the calendar. -/
def minus (t : Instant) (d : Duration) : Instant := (ofNanos? (t.nanos - d.nanos)).getD earliest

/-- The instant `ms` milliseconds later, held inside the calendar. -/
def plusMillis (t : Instant) (ms : Int) : Instant :=
  if ms == 0 then t
  else (ofNanos? (t.nanos + ms * 1000000)).getD (if ms < 0 then earliest else latest)

/-- Whether an instant lies outside leap seconds. -/
def isRegular (t : Instant) : Bool := t.nano < 1000000000

theorem before_iff {a b : Instant} :
    a.before b = true ↔ a.second < b.second ∨ (a.second = b.second ∧ a.nano < b.nano) := by
  simp [before]

/-- Away from leap seconds, earlier means fewer nanoseconds. -/
theorem before_iff_nanos {a b : Instant} (ha : a.nano < 1000000000) (hb : b.nano < 1000000000) :
    a.before b = true ↔ a.nanos < b.nanos := by
  rw [before_iff]; simp only [nanos]; omega

theorem before_irrefl (a : Instant) : a.before a = false := by
  simp [before]

theorem before_trans {a b c : Instant} (h : a.before b = true) (h' : b.before c = true) :
    a.before c = true := by
  rw [before_iff] at *; omega

/-- Two instants are equal or one of them is earlier. -/
theorem before_total (a b : Instant) : a.before b = true ∨ a = b ∨ b.before a = true := by
  rw [before_iff, before_iff]
  by_cases h : a.second = b.second ∧ a.nano = b.nano
  · exact Or.inr (Or.inl (Instant.ext h.1 h.2))
  · omega

/-- Two places on one calendar second: the count of nanoseconds of an instant made from one. -/
theorem nanos_ofNanos? {n : Int} {t : Instant} (h : ofNanos? n = some t) : t.nanos = n := by
  unfold ofNanos? ofParts? at h
  split at h
  · cases h
    have hn : ((n % 1000000000).toNat : Int) = n % 1000000000 :=
      Int.toNat_of_nonneg (Int.emod_nonneg _ (by decide))
    simp only [nanos, hn]; omega
  · cases h

/-- A count of nanoseconds inside the calendar is that of an instant. -/
theorem ofNanos?_isSome {n : Int} (h : earliest.nanos ≤ n) (h' : n ≤ latest.nanos) :
    ∃ t, ofNanos? n = some t ∧ t.nanos = n ∧ t.nano < 1000000000 := by
  have hn : ((n % 1000000000).toNat : Int) = n % 1000000000 :=
    Int.toNat_of_nonneg (Int.emod_nonneg _ (by decide))
  simp only [nanos, earliest, latest, firstSecond, lastSecond] at h h'
  have hc : firstSecond ≤ n / 1000000000 ∧ n / 1000000000 ≤ lastSecond
      ∧ (n % 1000000000).toNat < 2000000000 := by
    simp only [firstSecond, lastSecond]; omega
  refine ⟨⟨n / 1000000000, (n % 1000000000).toNat, hc.1, hc.2.1, hc.2.2⟩, ?_, ?_, ?_⟩
  · simp only [ofNanos?, ofParts?]; rw [dif_pos hc]
  · simp only [nanos, hn]; omega
  · show (n % 1000000000).toNat < 1000000000
    omega

end Instant

end Backlog
