import Backlog.Store.Activity
/-!
# The sweep for stuck tasks

A task that has been in processing longer than the limit is taken for stuck and failed. The sweep
computes the instant before which a last change is too old and leaves the rest to one store call.
A limit that reaches back beyond the calendar leaves nothing to find.
-/

namespace Backlog

/-- The points of a sweep. -/
inductive Sweep where
  /-- About to fail the tasks last changed before the cutoff. -/
  | write (cutoff : Instant)
  | done (result : Except StoreError Nat)

namespace Sweep

/-- The error of a task that a sweep failed. -/
def timeoutMessage : String := "task processing timeout"

/-- A sweep at an instant, with this limit on processing. -/
def start (now : Instant) (limit : Duration) : Sweep := .write (now.minus limit)

/-- After the store call. -/
def swept (cutoff : Instant) : Except StoreError Nat → Sweep × List Event
  | .error e => (.done (.error e), [])
  | .ok n => (.done (.ok n), [if n > 0 then .stuckTasksFailed n cutoff else .noStuckTasks])

/-- What a sweep does next. -/
def move : Sweep → Move Sweep
  | .write cutoff => .call (.failStale cutoff timeoutMessage) (swept cutoff)
  | .done _ => .rest

/-- The result, once there is one. -/
def result? : Sweep → Option (Except StoreError Nat)
  | .done r => some r
  | _ => none

end Sweep

end Backlog
