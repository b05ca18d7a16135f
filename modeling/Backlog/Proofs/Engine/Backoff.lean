import Backlog.Engine.Backoff
import Mathlib.Algebra.Group.Nat.Defs
/-!
# The idle sleep in closed form

After `k` polls in a row that found nothing the next sleep is the least one doubled `k` times,
within the limit.  The doubling saturates, and the limit is applied at each step and not once at the
end; neither is to be seen in the result, since a limit is itself a duration and lies below the
point of saturation, and what has reached the limit stays there.

## Main results

* `Backoff.Doubled.idle` — a sleep doubles the next one once more.
* `Backoff.Doubled.within` — every sleep lies between the least one and the limit.
-/

namespace Backlog.Backoff

variable {b : Backoff} {k : Nat}

/-- The next sleep is the least one doubled `k` times, within the limit. -/
structure Doubled (b : Backoff) (k : Nat) : Prop where
  ordered : b.least ≤ b.limit
  next : b.next.nanos = min (b.least.nanos * 2 ^ k) b.limit.nanos

theorem doubled_start (least limit : Duration) : (start least limit).Doubled 0 := by
  constructor
  · rw [Duration.le_def]
    simp only [start, Duration.nanos_longer]
    omega
  · simp only [start, Duration.nanos_longer]
    omega

/-- Nothing is left of the doubling after a reset. -/
theorem Doubled.reset (h : b.Doubled k) : b.reset.Doubled 0 := by
  have hordered : b.least.nanos ≤ b.limit.nanos := h.ordered
  refine ⟨h.ordered, ?_⟩
  simp only [Backoff.reset]
  omega

/-- A sleep doubles the next one once more. -/
theorem Doubled.idle (h : b.Doubled k) : b.idle.2.Doubled (k + 1) := by
  refine ⟨h.ordered, ?_⟩
  -- The limit is a duration, so saturation happens only beyond it.
  have hlimit : b.limit.nanos ≤ Duration.maxNanos := b.limit.nanos_le
  have hnext := h.next
  have hpow : b.least.nanos * 2 ^ (k + 1) = 2 * (b.least.nanos * 2 ^ k) := by
    rw [Nat.pow_succ, ← Nat.mul_assoc, Nat.mul_comm]
  simp only [Backoff.idle, Duration.nanos_shorter, Duration.nanos_double, hpow]
  omega

/-- Every sleep lies between the least one and the limit. -/
theorem Doubled.within (h : b.Doubled k) : b.least ≤ b.idle.1 ∧ b.idle.1 ≤ b.limit := by
  have hordered : b.least.nanos ≤ b.limit.nanos := h.ordered
  have hnext : b.idle.1.nanos = min (b.least.nanos * 2 ^ k) b.limit.nanos := h.next
  have hpow : b.least.nanos ≤ b.least.nanos * 2 ^ k :=
    Nat.le_mul_of_pos_right b.least.nanos (Nat.two_pow_pos k)
  rw [Duration.le_def, Duration.le_def]
  omega

end Backlog.Backoff
