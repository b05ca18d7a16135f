import Backlog.Config.Engine
/-!
# Normalising the settings of the engine

The bound of one setting is another setting: the longest idle sleep is brought into a range that
begins at the shortest one.  A clamp whose bounds are out of order has no duration to give, so the
order in which the two are clamped matters.  It is the shortest sleep after its own clamp that
bounds the longest, and this one never lies above the ceiling that both share; the shortest sleep
as it was configured may.  `normalized?` runs the same clamps with the order of the bounds looked
at each time, and it never fails.

Everything else comes from what a clamp is in numbers, `min` of `max`.  It is monotone in the
duration and in its lower bound, so the settings are monotone although one of them is a bound of
another.

## Main results

* `Duration.clamp?_eq_none_iff` — when a clamp has no duration to give.
* `EngineConfig.normalized?_eq` — normalising never meets bounds out of order.
* `EngineConfig.normalized_le_normalized` — longer settings normalise to longer ones.
* `EngineConfig.normalized_projection` — normalising is a monotone projection onto the settings
  within the bounds.
-/

namespace Backlog

namespace Duration

variable {d d' lo lo' hi : Duration}

/-- The duration of `[lo, hi]` nearest to `d`, if the bounds are in order. -/
def clamp? (d lo hi : Duration) : Option Duration :=
  if lo ≤ hi then some (if d < lo then lo else if hi < d then hi else d) else none

/-- A clamp fails exactly when its lower bound lies above its upper one. -/
theorem clamp?_eq_none_iff : d.clamp? lo hi = none ↔ hi < lo := by
  have hnot : ¬ lo ≤ hi ↔ hi < lo := Nat.not_le
  rw [clamp?, ← hnot]
  by_cases h : lo ≤ hi
  · simp [h]
  · simp [h]

/-- With its bounds in order a clamp gives the nearest duration. -/
theorem clamp?_eq_some (h : lo ≤ hi) : d.clamp? lo hi = some (d.clamp lo hi h) := by
  rw [clamp?, if_pos h]
  refine congrArg some (Duration.ext ?_)
  have horder : lo.nanos ≤ hi.nanos := h
  rw [nanos_clamp]
  by_cases hlo : d < lo
  · rw [if_pos hlo]
    rw [lt_def] at hlo
    omega
  · by_cases hhi : hi < d
    · rw [if_neg hlo, if_pos hhi]
      rw [lt_def] at hlo hhi
      omega
    · rw [if_neg hlo, if_neg hhi]
      rw [lt_def] at hlo hhi
      omega

/-- Clamping is monotone in the duration and in the lower bound. -/
theorem clamp_le_clamp (hd : d ≤ d') (hlo : lo ≤ lo') (h : lo ≤ hi) (h' : lo' ≤ hi) :
    d.clamp lo hi h ≤ d'.clamp lo' hi h' := by
  rw [le_def] at *
  rw [nanos_clamp, nanos_clamp]
  omega

end Duration

namespace EngineConfig

variable {c c' : EngineConfig}

/-! ## No clamp fails -/

/-- The settings brought into their ranges one after the other, with each range looked at first. -/
def normalized? (c : EngineConfig) : Option EngineConfig := do
  let idleMin ← c.idleMin.clamp? idleFloor idleCeiling
  let idleMax ← c.idleMax.clamp? idleMin idleCeiling
  let sweepInterval ← c.sweepInterval.clamp? sweepFloor sweepCeiling
  let processingLimit ← c.processingLimit.clamp? processingFloor processingCeiling
  return { idleMin, idleMax, sweepInterval, processingLimit }

/-- Normalising never meets a range whose bounds are out of order. -/
theorem normalized?_eq (c : EngineConfig) : c.normalized? = some c.normalized := by
  have hmin : c.idleMin.clamp? idleFloor idleCeiling = some c.normalized.idleMin :=
    Duration.clamp?_eq_some idle_ordered
  have hmax : c.idleMax.clamp? c.normalized.idleMin idleCeiling = some c.normalized.idleMax :=
    Duration.clamp?_eq_some c.idleMin_normalized_le
  have hsweep : c.sweepInterval.clamp? sweepFloor sweepCeiling = some c.normalized.sweepInterval :=
    Duration.clamp?_eq_some sweep_ordered
  have hprocessing : c.processingLimit.clamp? processingFloor processingCeiling =
      some c.normalized.processingLimit := Duration.clamp?_eq_some processing_ordered
  simp only [normalized?, Option.bind_eq_bind, hmin, Option.bind_some, hmax, hsweep, hprocessing,
    Option.pure_def]

/-! ## The order of settings -/

/-- Every duration of some settings is at most that of others. -/
structure AtMost (c c' : EngineConfig) : Prop where
  idleMin : c.idleMin ≤ c'.idleMin
  idleMax : c.idleMax ≤ c'.idleMax
  sweepInterval : c.sweepInterval ≤ c'.sweepInterval
  processingLimit : c.processingLimit ≤ c'.processingLimit

instance : LE EngineConfig := ⟨AtMost⟩

/-- Longer settings normalise to longer ones. -/
theorem normalized_le_normalized (h : c ≤ c') : c.normalized ≤ c'.normalized := by
  -- The clamped shortest sleep is the lower bound of the longest one on both sides.
  have hmin : c.normalized.idleMin ≤ c'.normalized.idleMin :=
    Duration.clamp_le_clamp h.idleMin (Nat.le_refl _) idle_ordered idle_ordered
  exact
    { idleMin := hmin
      idleMax := Duration.clamp_le_clamp h.idleMax hmin c.idleMin_normalized_le
        c'.idleMin_normalized_le
      sweepInterval := Duration.clamp_le_clamp h.sweepInterval (Nat.le_refl _) sweep_ordered
        sweep_ordered
      processingLimit := Duration.clamp_le_clamp h.processingLimit (Nat.le_refl _)
        processing_ordered processing_ordered }

/-! ## The projection -/

/-- The bounds in nanoseconds: idle sleeps between fifty milliseconds and a minute, the shortest at
most the longest, sweeps every five seconds to every day, and processing for half a minute to a
week. -/
structure Bounded (c : EngineConfig) : Prop where
  floor : 50 * 1000000 ≤ c.idleMin.nanos
  ordered : c.idleMin.nanos ≤ c.idleMax.nanos
  ceiling : c.idleMax.nanos ≤ 60 * 1000000000
  sweep : 5 * 1000000000 ≤ c.sweepInterval.nanos ∧ c.sweepInterval.nanos ≤ 24 * 3600 * 1000000000
  processing : 30 * 1000000000 ≤ c.processingLimit.nanos ∧
    c.processingLimit.nanos ≤ 7 * 24 * 3600 * 1000000000

theorem bounded_iff : c.Bounded ↔ c.InBounds := by
  constructor
  · rintro ⟨floor, ordered, ceiling, sweep, processing⟩
    exact ⟨floor, ordered, ceiling, sweep.1, sweep.2, processing.1, processing.2⟩
  · rintro ⟨floor, ordered, ceiling, sweep, sweep', processing, processing'⟩
    exact ⟨floor, ordered, ceiling, ⟨sweep, sweep'⟩, processing, processing'⟩

/-- **Normalising is a safe, monotone projection**: no clamp fails, the outcome is within the bounds
and is the settings themselves exactly if those are, so a second time changes nothing, and longer
settings have longer outcomes. -/
theorem normalized_projection (c : EngineConfig) :
    c.normalized? = some c.normalized ∧
      c.normalized.Bounded ∧
      (c.normalized = c ↔ c.Bounded) ∧
      c.normalized.normalized = c.normalized ∧
      ∀ c', c ≤ c' → c.normalized ≤ c'.normalized := by
  have hbounds : c.normalized.InBounds := c.normalized_bounds
  refine ⟨c.normalized?_eq, bounded_iff.2 hbounds, ?_, ?_, fun c' h => normalized_le_normalized h⟩
  · rw [normalized_eq_self_iff, bounded_iff]
  · rw [normalized_eq_self_iff]
    exact hbounds

/-- With a shortest idle sleep above the ceiling, clamping the longest one by it as it was configured
would fail, and normalising does not. -/
example :
    let c : EngineConfig := ⟨.ofSeconds 61, .longest, .zero, .zero⟩
    c.idleMax.clamp? c.idleMin idleCeiling = none ∧
      c.normalized? = some ⟨.ofSeconds 60, .ofSeconds 60, .ofSeconds 5, .ofSeconds 30⟩ := by
  decide

end EngineConfig

end Backlog
