import Backlog.Config.Engine
import Backlog.Engine.Attempt
import Backlog.Engine.Backoff
/-!
# The worker loop

The worker makes one attempt after the other. After work it goes on at once; after a poll that
found nothing it rests for the idle sleep, and after a store error for the least sleep. A rest ends
at its time, at a wake signal, or at the stop signal, and the first two lead to the next attempt.
The stop signal is looked at before each attempt and while resting, never during an attempt, so an
attempt that has begun is carried to its end.

The wake signal is one slot: signals do not add up, and one that comes while the worker does not
rest waits for the next rest.

The points of the loop are `WorkerPoint`; the functions of `Worker` lead from one to the next.
-/

namespace Backlog

/-- Where the worker loop stands. -/
inductive WorkerPoint (H : Type) where
  /-- Before an attempt. -/
  | ready
  /-- In an attempt. -/
  | attempting (attempt : Attempt H)
  /-- After an attempt, about to rest so long. -/
  | tired (sleep : Duration)
  /-- At rest until a moment, in nanoseconds of the engine's own time. -/
  | resting (deadline : Nat)
  | stopped

/-- The worker loop. -/
structure Worker (H : Type) where
  point : WorkerPoint H
  backoff : Backoff

namespace Worker

variable {H : Type}

/-- The worker of an engine before its first attempt. -/
def start (config : EngineConfig) : Worker H :=
  ⟨.ready, Backoff.start config.idleMin config.idleMax⟩

/-- The line with which the loop begins. -/
def opening (config : EngineConfig) (kinds : List TaskKind) : Event :=
  .workerStarted config.idleMin config.idleMax kinds

/-- The beginning of an attempt, unless the worker was told to stop. -/
def begin (w : Worker H) (stop : Bool) : Worker H × List Event :=
  if stop then ({ w with point := .stopped }, [.workerStopped])
  else ({ w with point := .attempting .poll }, [])

/-- The end of an attempt. A store error is reported, and the caller counts it. -/
def conclude (w : Worker H) : Except StoreError (Option Processed) → Worker H × List Event
  | .ok (some _) => (⟨.ready, w.backoff.reset⟩, [])
  | .ok none => (⟨.tired w.backoff.idle.1, w.backoff.idle.2⟩, [])
  | .error e => (⟨.tired w.backoff.least, w.backoff.reset⟩, [.pollFailed e])

/-- A rest that begins now. -/
def lieDown (w : Worker H) (now : Nat) : Worker H :=
  match w.point with
  | .tired sleep => { w with point := .resting (now + sleep.nanos) }
  | _ => w

/-- A wake signal ends the rest. -/
def wake (w : Worker H) : Worker H := ⟨.ready, w.backoff.reset⟩

/-- The time of the rest is over. -/
def riseAtTime (w : Worker H) : Worker H := { w with point := .ready }

/-- The stop signal ends the rest and the loop. -/
def stop (w : Worker H) : Worker H × List Event := ({ w with point := .stopped }, [.workerStopped])

/-- Whether the loop has ended. -/
def isStopped (w : Worker H) : Bool :=
  match w.point with
  | .stopped => true
  | _ => false

end Worker

end Backlog
