import Backlog.Store.Activity
import Backlog.Text.Blank
/-!
# Calling a task off

One guarded update does it: the task must be in flight and the caller's. When the update changes
nothing, the task is read to say why: it may not exist, it may be canceled already by its owner,
which counts as success, or it is someone else's or has ended otherwise. Who cancels a task that a
worker is processing wins over the worker's own outcome.
-/

namespace Backlog

/-- The points of a cancellation. -/
inductive Cancel where
  /-- About to update the task. -/
  | write (id : TaskId) (owner : String)
  /-- About to read the task, the update having changed nothing. -/
  | reread (id : TaskId) (owner : String)
  | done (answer : Except TaskError Unit)

namespace Cancel

open Text

/-- A cancellation begins with its arguments: a blank one is refused, and a text that is no
identifier names no task. -/
def start (idText owner : String) : Cancel :=
  let owner := trim owner
  if (trim idText).isEmpty || owner.isEmpty then
    .done (.error (.invalidInput "missing task id or owner_id"))
  else
    match TaskId.readTrimmed? idText with
    | none => .done (.error .notFound)
    | some id => .write id owner

/-- The guard of the update: in flight and the owner's. -/
def guard (owner : String) : Guard := (Guard.anyOf Status.activeOnes).ownedBy owner

/-- After the update. -/
def written (id : TaskId) (owner : String) : Except StoreError Nat → Cancel × List Event
  | .error e => (.done (.error e.toTaskError), [])
  | .ok rows =>
    if rows > 0 then (.done (.ok ()), [.taskCanceled id owner]) else (.reread id owner, [])

/-- After the read. -/
def read (id : TaskId) (owner : String) : Except StoreError (Option Task) → Cancel × List Event
  | .error e => (.done (.error e.toTaskError), [])
  | .ok none => (.done (.error .notFound), [])
  | .ok (some t) =>
    if t.owner = owner ∧ t.status = .canceled then (.done (.ok ()), [])
    else (.done (.error .notCancelable), [.cancelRejected id t.status])

/-- What a cancellation does next. -/
def move : Cancel → Move Cancel
  | .write id owner => .call (.updateIf id (guard owner) Update.cancel) (written id owner)
  | .reread id owner => .call (.get id) (read id owner)
  | .done _ => .rest

/-- The answer, once there is one. -/
def answer? : Cancel → Option (Except TaskError Unit)
  | .done a => some a
  | _ => none

end Cancel

end Backlog
