/-!
# Durations

A duration is a whole number of nanoseconds of at most `2 ^ 64` seconds: seconds that fit a
64-bit word, and a part of a second. Keeping the count of nanoseconds, and the bound as a field,
makes comparison the order of `Nat` and leaves one place where arithmetic meets the bound:
`Duration.saturating`.

Seconds and the part of a second are views (`seconds`, `subsecond`), which only the wire format
needs.

## Main results

* `nanos_saturating` — saturation is the minimum with the largest duration.
* `nanos_ofMillis`, `nanos_ofSeconds` — 64-bit counts never saturate.
* `nanos_clamp` — clamping is `max` below and `min` above.
-/

namespace Backlog

/-- A span of time in nanoseconds, at most the largest one 64-bit seconds can carry. -/
@[ext] structure Duration where
  nanos : Nat
  nanos_le : nanos ≤ 18446744073709551615999999999
  deriving DecidableEq, Repr

namespace Duration

/-- Nanoseconds in the longest duration: `2 ^ 64 - 1` seconds and all of a second but one. -/
def maxNanos : Nat := 18446744073709551615999999999

/-- The duration nearest to `n` nanoseconds. -/
def saturating (n : Nat) : Duration := ⟨min n maxNanos, Nat.min_le_right _ _⟩

/-- The empty duration. -/
def zero : Duration := ⟨0, by decide⟩

/-- The longest duration. -/
def longest : Duration := ⟨maxNanos, Nat.le_refl _⟩

/-- `n` milliseconds. -/
def ofMillis (n : Nat) : Duration := saturating (n * 1000000)

/-- `n` seconds. -/
def ofSeconds (n : Nat) : Duration := saturating (n * 1000000000)

/-- Seconds and nanoseconds together, the nanoseconds carrying into the seconds; none beyond the
longest duration. -/
def ofParts? (seconds nanos : Nat) : Option Duration :=
  let n := seconds * 1000000000 + nanos
  if h : n ≤ maxNanos then some ⟨n, h⟩ else none

/-- The whole seconds of a duration. -/
def seconds (d : Duration) : Nat := d.nanos / 1000000000

/-- What a duration has beyond its whole seconds, in nanoseconds. -/
def subsecond (d : Duration) : Nat := d.nanos % 1000000000

/-- The whole milliseconds of a duration. -/
def millis (d : Duration) : Nat := d.nanos / 1000000

/-- Whether a duration is empty. -/
def isZero (d : Duration) : Bool := d.nanos == 0

instance : LE Duration := ⟨fun a b => a.nanos ≤ b.nanos⟩
instance : LT Duration := ⟨fun a b => a.nanos < b.nanos⟩
instance (a b : Duration) : Decidable (a ≤ b) := inferInstanceAs (Decidable (a.nanos ≤ b.nanos))
instance (a b : Duration) : Decidable (a < b) := inferInstanceAs (Decidable (a.nanos < b.nanos))

/-- The shorter of two durations. -/
def shorter (a b : Duration) : Duration := if a ≤ b then a else b

/-- The longer of two durations. -/
def longer (a b : Duration) : Duration := if a ≤ b then b else a

/-- Twice a duration, held at the longest one. -/
def double (d : Duration) : Duration := saturating (2 * d.nanos)

/-- The duration of `[lo, hi]` nearest to `d`. An empty interval has none, so the bounds come with
the proof that they are in order. -/
def clamp (d lo hi : Duration) (_ : lo ≤ hi) : Duration := (d.longer lo).shorter hi

theorem le_def {a b : Duration} : a ≤ b ↔ a.nanos ≤ b.nanos := Iff.rfl
theorem lt_def {a b : Duration} : a < b ↔ a.nanos < b.nanos := Iff.rfl

@[simp] theorem nanos_saturating (n : Nat) : (saturating n).nanos = min n maxNanos := rfl

/-- A 64-bit count of milliseconds is a duration. -/
theorem nanos_ofMillis {n : Nat} (h : n < 18446744073709551616) : (ofMillis n).nanos = n * 1000000 := by
  simp only [ofMillis, nanos_saturating, maxNanos]; omega

/-- A 64-bit count of seconds is a duration. -/
theorem nanos_ofSeconds {n : Nat} (h : n < 18446744073709551616) : (ofSeconds n).nanos = n * 1000000000 := by
  simp only [ofSeconds, nanos_saturating, maxNanos]; omega

@[simp] theorem nanos_shorter (a b : Duration) : (a.shorter b).nanos = min a.nanos b.nanos := by
  by_cases h : a ≤ b
  · rw [shorter, if_pos h]
    exact (Nat.min_eq_left h).symm
  · rw [shorter, if_neg h]
    exact (Nat.min_eq_right (Nat.le_of_not_le h)).symm

@[simp] theorem nanos_longer (a b : Duration) : (a.longer b).nanos = max a.nanos b.nanos := by
  by_cases h : a ≤ b
  · rw [longer, if_pos h]
    exact (Nat.max_eq_right h).symm
  · rw [longer, if_neg h]
    exact (Nat.max_eq_left (Nat.le_of_not_le h)).symm

@[simp] theorem nanos_clamp (d lo hi : Duration) (h : lo ≤ hi) :
    (d.clamp lo hi h).nanos = min (max d.nanos lo.nanos) hi.nanos := by
  simp [clamp]

theorem lo_le_clamp (d lo hi : Duration) (h : lo ≤ hi) : lo ≤ d.clamp lo hi h := by
  rw [le_def] at *; rw [nanos_clamp]; omega

theorem clamp_le_hi (d lo hi : Duration) (h : lo ≤ hi) : d.clamp lo hi h ≤ hi := by
  rw [le_def] at *; rw [nanos_clamp]; omega

/-- Clamping leaves the durations of the interval alone. -/
theorem clamp_eq_self {d lo hi : Duration} (h : lo ≤ d) (h' : d ≤ hi) :
    d.clamp lo hi (Nat.le_trans h h') = d := by
  apply Duration.ext
  rw [le_def] at *
  rw [nanos_clamp]
  omega

@[simp] theorem nanos_double (d : Duration) : d.double.nanos = min (2 * d.nanos) maxNanos := rfl

/-- The two views together are the duration. -/
theorem seconds_subsecond (d : Duration) : d.seconds * 1000000000 + d.subsecond = d.nanos := by
  simp only [seconds, subsecond]; omega

theorem seconds_lt (d : Duration) : d.seconds < 18446744073709551616 := by
  have := d.nanos_le
  simp only [seconds]; omega

/-- The two views of a duration put together give it back. -/
@[simp] theorem ofParts?_seconds_subsecond (d : Duration) :
    ofParts? d.seconds d.subsecond = some d := by
  have h : d.nanos ≤ maxNanos := d.nanos_le
  simp only [ofParts?, seconds_subsecond, h, dif_pos]

end Duration

end Backlog
