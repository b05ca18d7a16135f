import Backlog.Engine.Outcome
import Backlog.Engine.Registry
import Backlog.Store.Activity
/-!
# One attempt at the queue

An attempt polls for the queued task that comes first, claims it, looks at it once more, runs its
handler and stores the outcome. Every write is guarded by the status it expects. A claim that
changes nothing was lost to another worker; a task that has left processing by the second look is
skipped; an outcome that changes nothing came too late, after a cancellation or a sweep, and is
discarded. When the second look fails the handler runs all the same, since the write of its outcome
is guarded too. A kind without a handler fails the task.
-/

namespace Backlog

/-- The points of an attempt with handlers of type `H`. -/
inductive Attempt (H : Type) where
  /-- About to ask for the queued task that comes first. -/
  | poll
  /-- About to claim a task. -/
  | claim (task : Task)
  /-- About to look at the claimed task again. -/
  | recheck (task : Task)
  /-- The handler of the claimed task runs on its target. -/
  | handle (task : Task) (handler : H)
  /-- About to store the outcome. -/
  | complete (task : Task) (verdict : Except String Json)
  | done (result : Except StoreError (Option Processed))

namespace Attempt

variable {H : Type}

/-- After the poll. -/
def polled : Except StoreError (Option Task) → Attempt H × List Event
  | .error e => (.done (.error e), [])
  | .ok none => (.done (.ok none), [])
  | .ok (some t) => (.claim t, [])

/-- After the claim. -/
def claimed (t : Task) : Except StoreError Nat → Attempt H × List Event
  | .error e => (.done (.error e), [])
  | .ok rows => if rows = 0 then (.done (.ok none), [.claimLost t.id]) else (.recheck t, [])

/-- The handler of a task's kind, or the failure of a kind without one. -/
def dispatch (registry : Registry H) (t : Task) : Attempt H :=
  match registry.find? t.kind with
  | some h => .handle t h
  | none => .complete t (.error (TaskError.unknownKind t.kind.name).message)

/-- After the second look. -/
def rechecked (registry : Registry H) (t : Task) :
    Except StoreError (Option Task) → Attempt H × List Event
  | .ok (some current) =>
    if current.status = .processing then (dispatch registry t, [])
    else (.done (.ok (some (.skipped t.id))), [.leftBeforeDispatch current.status])
  | .ok none => (.done (.ok (some (.skipped t.id))), [.claimedTaskGone])
  | .error e => (dispatch registry t, [.recheckFailed e])

/-- The update that stores a verdict. -/
def verdictUpdate : Except String Json → Update
  | .ok value => Update.succeed value
  | .error reason => Update.fail reason

/-- After the outcome was stored, or not. -/
def completed (t : Task) (verdict : Except String Json) :
    Except StoreError Nat → Attempt H × List Event
  | .error e => (.done (.error e), [])
  | .ok rows =>
    if rows = 0 then (.done (.ok (some (.superseded t.id))), [.outcomeDiscarded])
    else
      match verdict with
      | .ok _ => (.done (.ok (some (.succeeded t.id))), [.taskSucceeded])
      | .error reason => (.done (.ok (some (.failed t.id))), [.taskFailed reason])

/-- What an attempt does next; a running handler is not its own move. -/
def move (registry : Registry H) : Attempt H → Move (Attempt H)
  | .poll => .call .oldestQueued polled
  | .claim t => .call (.updateIf t.id (Guard.status .queued) Update.claim) (claimed t)
  | .recheck t => .call (.get t.id) (rechecked registry t)
  | .handle _ _ => .rest
  | .complete t verdict =>
    .call (.updateIf t.id (Guard.status .processing) (verdictUpdate verdict)) (completed t verdict)
  | .done _ => .rest

/-- The attempt once its handler has ended. -/
def handled (a : Attempt H) (outcome : HandlerOutcome) : Attempt H :=
  match a with
  | .handle t _ => .complete t outcome.verdict
  | a => a

/-- The result, once there is one. -/
def result? : Attempt H → Option (Except StoreError (Option Processed))
  | .done r => some r
  | _ => none

end Attempt

end Backlog
