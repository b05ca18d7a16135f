import Backlog.Engine.Outcome
import Backlog.Gate.Class
import Backlog.Task.Submission
/-!
# What a simulated handler does

A handler of a simulation follows a plan: things to do one after the other, and an end. The plan of
a handler may depend on the target; for a given target it comes down to a *script*, a list of
actions and the outcome they end with unless one of them fails.
-/

namespace Backlog.Simulation

/-- One thing a handler does. -/
inductive Action where
  /-- Wait. -/
  | sleep (ms : Nat)
  /-- Shift the wall clock. -/
  | jump (ms : Int)
  /-- Turn the store's outage on or off. -/
  | offline (value : Bool)
  /-- Call a task off, through the service. -/
  | cancel (idText owner : String)
  /-- Submit work, through the service. -/
  | submit (form : SubmissionForm)
  /-- Take a slot until the handler ends, waiting for it or not. -/
  | pass (resource : ResourceClass) (waits : Bool)
  deriving Repr

/-- The plan of a handler. -/
inductive Plan where
  /-- Return the target. -/
  | echo
  /-- End in this way. -/
  | finish (outcome : HandlerOutcome)
  /-- Do something and go on. -/
  | act (action : Action) (next : Plan)
  /-- Go on as the target says. -/
  | byTarget (cases : List (String × Plan)) (otherwise : Plan)

/-- What a handler does for one target. -/
structure Script where
  actions : List Action
  ending : HandlerOutcome

namespace Plan

/-- The value an echo returns. -/
def echoValue (target : String) : Json := .obj [("target", .str target)]

mutual

/-- The script of a plan for a target. -/
def script (target : String) : Plan → Script
  | .echo => ⟨[], .returned (echoValue target)⟩
  | .finish outcome => ⟨[], outcome⟩
  | .act a next =>
    let s := script target next
    ⟨a :: s.actions, s.ending⟩
  | .byTarget cases otherwise => scriptIn target cases (script target otherwise)

/-- The script of the first case for a target, or the one for every other target. -/
def scriptIn (target : String) : List (String × Plan) → Script → Script
  | [], otherwise => otherwise
  | (t, p) :: cases, otherwise =>
    if t = target then script target p else scriptIn target cases otherwise

end

end Plan

end Backlog.Simulation
