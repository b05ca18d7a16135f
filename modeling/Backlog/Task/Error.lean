import Backlog.Gate.Class
/-!
# What a caller is told

The errors of submission, lookup, cancellation and the gate. What goes wrong inside a handler is
not among them: that is a text stored with the task.
-/

namespace Backlog

/-- Why a request was refused. -/
inductive TaskError where
  /-- An argument is blank or malformed. -/
  | invalidInput (reason : String)
  /-- The store could not answer. -/
  | storeUnavailable (reason : String)
  /-- No slot of a class became free in time. -/
  | resourceBusy (resource : ResourceClass)
  /-- No handler is registered for a kind of work. -/
  | unknownKind (name : String)
  /-- The task is someone else's or has ended. -/
  | notCancelable
  /-- There is no such task. -/
  | notFound
  deriving DecidableEq, Repr

namespace TaskError

/-- The text a caller reads. -/
def message : TaskError → String
  | invalidInput reason => s!"invalid input: {reason}"
  | storeUnavailable reason => s!"task store unavailable: {reason}"
  | resourceBusy resource => resource.label ++ " busy"
  | unknownKind name => s!"unknown task type: {name}"
  | notCancelable => "task not cancelable"
  | notFound => "task not found"

/-- Whether the same request may succeed later. -/
def isRetryable : TaskError → Bool
  | storeUnavailable _ | resourceBusy _ => true
  | _ => false

end TaskError

end Backlog
