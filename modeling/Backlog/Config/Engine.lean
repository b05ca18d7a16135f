import Backlog.Time.Duration
/-!
# Settings of the engine

Four durations govern the loops: the first and the longest idle sleep of the worker, the interval
of the sweep for stuck tasks, and how long a task may stay in processing. `normalized` brings each
into its range, the longest idle sleep into the range that begins at the first one, so that no
setting can make a busy loop or stall the queue.

## Main results

* `normalized_bounds` — a normalised configuration lies within its bounds.
* `normalized_eq_self_iff` — normalising changes exactly the configurations that do not.
-/

namespace Backlog

/-- The durations of the worker loop and of the sweep. -/
@[ext] structure EngineConfig where
  /-- The first sleep after a poll that found nothing. -/
  idleMin : Duration
  /-- The longest such sleep. -/
  idleMax : Duration
  /-- The time between sweeps for stuck tasks. -/
  sweepInterval : Duration
  /-- How long a task may be in processing without a change. -/
  processingLimit : Duration
  deriving DecidableEq, Repr

namespace EngineConfig

/-- The settings when nothing is configured. -/
def default : EngineConfig :=
  ⟨.ofMillis 200, .ofMillis 5000, .ofSeconds 30, .ofSeconds 3600⟩

/-- The least idle sleep. -/
def idleFloor : Duration := .ofMillis 50

/-- The greatest idle sleep. -/
def idleCeiling : Duration := .ofSeconds 60

/-- The least interval between sweeps. -/
def sweepFloor : Duration := .ofSeconds 5

/-- The greatest interval between sweeps: a day. -/
def sweepCeiling : Duration := .ofSeconds 86400

/-- The least limit on processing. -/
def processingFloor : Duration := .ofSeconds 30

/-- The greatest limit on processing: a week. -/
def processingCeiling : Duration := .ofSeconds 604800

/-- Every duration brought into its range. -/
def normalized (c : EngineConfig) : EngineConfig :=
  let idleMin := c.idleMin.clamp idleFloor idleCeiling (by decide)
  { idleMin := idleMin
    idleMax := c.idleMax.clamp idleMin idleCeiling (Duration.clamp_le_hi _ _ _ _)
    sweepInterval := c.sweepInterval.clamp sweepFloor sweepCeiling (by decide)
    processingLimit := c.processingLimit.clamp processingFloor processingCeiling (by decide) }

/-- Whether every duration lies in its range. -/
def InBounds (c : EngineConfig) : Prop :=
  idleFloor ≤ c.idleMin ∧ c.idleMin ≤ c.idleMax ∧ c.idleMax ≤ idleCeiling ∧
    sweepFloor ≤ c.sweepInterval ∧ c.sweepInterval ≤ sweepCeiling ∧
    processingFloor ≤ c.processingLimit ∧ c.processingLimit ≤ processingCeiling

instance (c : EngineConfig) : Decidable c.InBounds := by unfold InBounds; infer_instance

theorem idle_ordered : idleFloor ≤ idleCeiling := by decide

theorem sweep_ordered : sweepFloor ≤ sweepCeiling := by decide

theorem processing_ordered : processingFloor ≤ processingCeiling := by decide

/-- The range of the longest idle sleep is in order, since it begins at a sleep that is in range. -/
theorem idleMin_normalized_le (c : EngineConfig) : c.normalized.idleMin ≤ idleCeiling :=
  Duration.clamp_le_hi _ _ _ idle_ordered

/-- A normalised configuration lies within its bounds. -/
theorem normalized_bounds (c : EngineConfig) : c.normalized.InBounds := by
  have top : c.normalized.idleMin ≤ idleCeiling := c.idleMin_normalized_le
  exact ⟨Duration.lo_le_clamp _ _ _ idle_ordered, Duration.lo_le_clamp _ _ _ top,
    Duration.clamp_le_hi _ _ _ top, Duration.lo_le_clamp _ _ _ sweep_ordered,
    Duration.clamp_le_hi _ _ _ sweep_ordered, Duration.lo_le_clamp _ _ _ processing_ordered,
    Duration.clamp_le_hi _ _ _ processing_ordered⟩

/-- Normalising changes exactly the configurations outside the bounds. -/
theorem normalized_eq_self_iff (c : EngineConfig) : c.normalized = c ↔ c.InBounds := by
  constructor
  · intro h
    exact h ▸ c.normalized_bounds
  · rintro ⟨h1, h2, h3, h4, h5, h6, h7⟩
    have hmin : c.idleMin.clamp idleFloor idleCeiling idle_ordered = c.idleMin :=
      Duration.clamp_eq_self h1 (Nat.le_trans h2 h3)
    apply EngineConfig.ext
    · exact hmin
    · apply Duration.ext
      simp only [normalized, Duration.nanos_clamp]
      rw [Duration.le_def] at *
      omega
    · exact Duration.clamp_eq_self h4 h5
    · exact Duration.clamp_eq_self h6 h7

end EngineConfig

end Backlog
