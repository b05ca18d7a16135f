import Backlog.Gate.Slots
import Backlog.Logging.Event
import Backlog.Task.Error
/-!
# The concurrency gate

The gate keeps the slots of every class. Who passes it holds a permit, and giving the permit back
gives the slot back. Whether an attempt waits, and how long, is up to the attempt: `Gate.enter`
passes or queues, and `Gate.check` tells a queued attempt what became of it — the slot first, the
deadline second, so a slot that is granted by the deadline counts.
-/

namespace Backlog

/-- The right to run one operation of a class. -/
structure Permit where
  resource : ResourceClass
  /-- Whether a slot is held; an unbounded class has none. -/
  gated : Bool
  deriving DecidableEq, Repr

/-- The slots of every class. -/
abbrev Gate := PerClass Slots

/-- An attempt that waits for a slot. -/
structure Waiting where
  resource : ResourceClass
  ticket : Nat
  /-- When the wait ends, in nanoseconds of the engine's own time; none waits without end. -/
  deadline : Option Nat
  /-- How long the attempt was to wait. -/
  timeout : Duration
  deriving DecidableEq, Repr

/-- What became of a waiting attempt. -/
inductive WaitResult where
  | passed (permit : Permit)
  | busy
  | pending
  deriving DecidableEq, Repr

namespace Gate

/-- The gate of a configuration, whose limits are capped first. -/
def ofConfig (c : GateConfig) : Gate := (GateConfig.normalized c).map Slots.ofLimit

/-- The limit of a class. -/
def limit (g : Gate) (c : ResourceClass) : ClassLimit := (g.get c).limit

/-- The free slots of a class, none for an unbounded one. -/
def available? (g : Gate) (c : ResourceClass) : Option Nat := (g.get c).available?

/-- A permit without waiting, if a slot is free. -/
def passAtOnce? (g : Gate) (c : ResourceClass) : Option (Permit × Gate) :=
  if (g.limit c).isUnbounded then some (⟨c, false⟩, g)
  else (g.get c).take?.map fun s => (⟨c, true⟩, g.set c s)

/-- A permit is given back. -/
def release (g : Gate) (p : Permit) : Gate :=
  if p.gated then g.set p.resource (g.get p.resource).release else g

/-- An attempt begins at a moment: it passes, or waits under its ticket. -/
def enter (g : Gate) (c : ResourceClass) (timeout : Duration) (ticket now : Nat) :
    (Permit ⊕ Waiting) × Gate :=
  match g.passAtOnce? c with
  | some (p, g) => (.inl p, g)
  | none =>
    let deadline := if timeout.isZero then none else some (now + timeout.nanos)
    (.inr ⟨c, ticket, deadline, timeout⟩, g.set c ((g.get c).enqueue ticket))

/-- A waiting attempt looks at a moment what became of it. -/
def check (g : Gate) (w : Waiting) (now : Nat) : WaitResult × Gate :=
  let s := g.get w.resource
  if s.isGranted w.ticket then (.passed ⟨w.resource, true⟩, g.set w.resource (s.redeem w.ticket))
  else if w.deadline.any fun d => d ≤ now then (.busy, g.set w.resource (s.leave w.ticket))
  else (.pending, g)

/-- A waiting attempt is abandoned. -/
def abandon (g : Gate) (w : Waiting) : Gate :=
  g.set w.resource ((g.get w.resource).leave w.ticket)

/-- The lines worth writing when an attempt that may wait has passed. -/
def passedEvents (p : Permit) : List Event := if p.gated then [.slotAcquired p.resource] else []

/-- The line worth writing when a wait has ended in vain. -/
def busyEvent (w : Waiting) : Event := .gateSaturated w.resource w.timeout

end Gate

/-- The error of an attempt that found no slot. -/
def ResourceClass.busy (c : ResourceClass) : TaskError := .resourceBusy c

end Backlog
