import Backlog.Config.Engine
import Backlog.Engine.Sweep
/-!
# The sweep loop

Sweeps come at fixed moments: the first one interval after the start, the next ones each an
interval later. A sweep that comes late does not shift the moments after it; moments missed
altogether are passed over. The moment of the next sweep is fixed when a sweep begins, however long
that one takes. The stop signal ends the loop between sweeps.
-/

namespace Backlog

/-- The sweep loop. -/
inductive Sweeper where
  /-- Waiting for the moment of the next sweep, in nanoseconds of the engine's own time. -/
  | waiting (due : Nat)
  /-- In a sweep, with the moment of the next one. -/
  | sweeping (sweep : Sweep) (next : Nat)
  | stopped

namespace Sweeper

/-- The loop before its first sweep. -/
def start (config : EngineConfig) (now : Nat) : Sweeper :=
  .waiting (now + config.sweepInterval.nanos)

/-- The line with which the loop begins. -/
def opening (config : EngineConfig) : Event :=
  .sweeperStarted config.sweepInterval config.processingLimit

/-- How late a sweep may be before the moments it has missed are passed over: five milliseconds. -/
def tolerance : Nat := 5000000

/-- The moment after one that was due, for an interval: the next one, or the next that is still
to come if the sweep was late. -/
def nextDue (interval due now : Nat) : Nat :=
  if now ≤ due + tolerance then due + interval else now + interval - (now - due) % interval

/-- The sweep that was due at a moment begins now, with this reading of the clock. -/
def begin (config : EngineConfig) (reading : Instant) (due now : Nat) : Sweeper :=
  .sweeping (Sweep.start reading config.processingLimit)
    (nextDue config.sweepInterval.nanos due now)

/-- The end of a sweep, with the moment of the next one. A store error is reported, and the caller
counts it. -/
def conclude (next : Nat) : Except StoreError Nat → Sweeper × List Event
  | .ok _ => (.waiting next, [])
  | .error e => (.waiting next, [.sweepFailed e])

/-- The stop signal ends the loop. -/
def stop : Sweeper × List Event := (.stopped, [.sweeperStopped])

/-- Whether the loop has ended. -/
def isStopped : Sweeper → Bool
  | .stopped => true
  | _ => false

end Sweeper

end Backlog
