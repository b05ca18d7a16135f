import Backlog.Logging.Event
import Backlog.Store.Call
/-!
# Users of a store

Submitting, cancelling, attempting a task and sweeping each take several store calls, and other
parties may act between any two of them. Such an activity is written as a type of the points it
can stand at, and a function that says what it does at each: one store call with what follows for
each reply, one wake signal, or nothing of the kind. One move is one atomic step.

So the same definition serves a run against one store without interference, a run against a store
that answers anything, and a run in which many activities take turns.
-/

namespace Backlog

/-- What an activity with points `σ` does next. -/
inductive Move (σ : Type) where
  /-- It asks the store; the reply leads to a point and may be worth log lines. -/
  | call (c : StoreCall) (next : c.Reply → σ × List Event)
  /-- It gives the wake signal and goes on. -/
  | signal (next : σ)
  /-- It waits for something else, or has ended. -/
  | rest

end Backlog
