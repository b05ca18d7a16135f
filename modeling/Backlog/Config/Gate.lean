import Backlog.Gate.Class
import Backlog.Time.Duration
/-!
# Settings of the gate

For each resource class: how many operations may run at a time and how long an attempt waits. A
capacity of zero opens the class; a wait of zero never ends. Normalising caps both and leaves the
zeros, which mean something else than a small number.
-/

namespace Backlog

/-- Capacity and wait of one resource class. -/
@[ext] structure ClassLimit where
  /-- How many may hold a slot; zero lets everyone through. -/
  capacity : Nat
  /-- How long an attempt waits for a slot; zero waits without end. -/
  acquireTimeout : Duration
  deriving DecidableEq, Repr

namespace ClassLimit

/-- No limit. -/
def unbounded : ClassLimit := ⟨0, .zero⟩

/-- Whether everyone gets through. -/
def isUnbounded (l : ClassLimit) : Bool := l.capacity == 0

/-- The greatest capacity. -/
def capacityCeiling : Nat := 1024

/-- The longest wait. -/
def timeoutCeiling : Duration := .ofSeconds 600

/-- Capacity and wait capped. -/
def normalized (l : ClassLimit) : ClassLimit :=
  ⟨min l.capacity capacityCeiling, l.acquireTimeout.shorter timeoutCeiling⟩

theorem capacity_normalized_le (l : ClassLimit) : l.normalized.capacity ≤ 1024 :=
  Nat.min_le_right _ _

@[simp] theorem isUnbounded_normalized (l : ClassLimit) :
    l.normalized.isUnbounded = l.isUnbounded := by
  simp only [isUnbounded, normalized, capacityCeiling]
  by_cases h : l.capacity = 0
  · simp [h]
  · rw [beq_eq_false_iff_ne.2 h, beq_eq_false_iff_ne]; omega

end ClassLimit

/-- The limits of every class. -/
abbrev GateConfig := PerClass ClassLimit

namespace GateConfig

/-- The limits when nothing is configured. -/
def default : GateConfig where
  ocr := ⟨2, .ofSeconds 30⟩
  bulkExport := ⟨1, .ofSeconds 5⟩
  emailDownload := ⟨2, .ofSeconds 10⟩

/-- No limits at all. -/
def unbounded : GateConfig := ⟨.unbounded, .unbounded, .unbounded⟩

/-- The limits of every class capped. -/
def normalized (c : GateConfig) : GateConfig := c.map ClassLimit.normalized

end GateConfig

end Backlog
