import Backlog.Task.Error
/-!
# Failures of a store

What a store answers when it cannot do what it was asked. To a caller of the service they are one:
the store is unavailable, with the inner reason.
-/

namespace Backlog

/-- Why a store call failed. -/
inductive StoreError where
  /-- The store could not be reached. -/
  | unavailable (reason : String)
  /-- An insert collided with an identifier or with a task in flight. -/
  | conflict (reason : String)
  /-- A stored row does not denote a task. -/
  | corrupt (reason : String)
  deriving DecidableEq, Repr

namespace StoreError

/-- The reason without the kind of failure. -/
def reason : StoreError → String
  | unavailable r | conflict r | corrupt r => r

/-- The text of the failure. -/
def message : StoreError → String
  | unavailable r => s!"task store unavailable: {r}"
  | conflict r => s!"task conflict: {r}"
  | corrupt r => s!"corrupt task row: {r}"

/-- What a caller of the service is told. -/
def toTaskError (e : StoreError) : TaskError := .storeUnavailable e.reason

end StoreError

end Backlog
