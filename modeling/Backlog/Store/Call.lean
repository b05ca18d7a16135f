import Backlog.Store.Error
import Backlog.Task.Update
/-!
# Store calls

The eight things a store of tasks can be asked. A call and the type of its answer are separate
from every store, so that whoever works with a store is written once, as a user of calls, and runs
against the store in memory, a database, a store that fails at will, or one that other parties
change between two calls. Each call is one atomic step of its store.
-/

namespace Backlog

/-- One request to a store of tasks. -/
inductive StoreCall where
  /-- Keep a new task. -/
  | insert (task : Task)
  /-- The task of an identifier, whoever owns it. -/
  | get (id : TaskId)
  /-- The task of an identifier, if it belongs to the owner. -/
  | getForOwner (owner : String) (id : TaskId)
  /-- A task in flight that the key finds. -/
  | findActive (key : WorkKey)
  /-- The queued task that comes first. -/
  | oldestQueued
  /-- Apply an update if its guard allows; the answer counts the changed tasks. -/
  | updateIf (id : TaskId) (guard : Guard) (update : Update)
  /-- Fail the tasks that have been in processing since before an instant; the answer counts
  them. -/
  | failStale (cutoff : Instant) (error : String)
  /-- An owner's tasks in order, optionally of one status, at most so many. -/
  | listForOwner (owner : String) (status : Option Status) (limit : Nat)

/-- The eight sorts of call, by which a fault can be aimed. -/
inductive StoreMethod where
  | insert
  | get
  | getForOwner
  | findActive
  | oldestQueued
  | updateIf
  | failStale
  | listForOwner
  deriving DecidableEq, Repr

namespace StoreCall

/-- The type of a call's answer when it succeeds. -/
@[reducible] def Answer : StoreCall → Type
  | insert _ => Unit
  | get _ | getForOwner _ _ | findActive _ | oldestQueued => Option Task
  | updateIf _ _ _ | failStale _ _ => Nat
  | listForOwner _ _ _ => List Task

/-- What a store says to a call. -/
abbrev Reply (c : StoreCall) : Type := Except StoreError c.Answer

/-- The sort of a call. -/
def method : StoreCall → StoreMethod
  | insert _ => .insert
  | get _ => .get
  | getForOwner _ _ => .getForOwner
  | findActive _ => .findActive
  | oldestQueued => .oldestQueued
  | updateIf _ _ _ => .updateIf
  | failStale _ _ => .failStale
  | listForOwner _ _ _ => .listForOwner

/-- The answer of a store that has nothing and changes nothing. -/
def nothing : (c : StoreCall) → c.Answer
  | insert _ => ()
  | get _ | getForOwner _ _ | findActive _ | oldestQueued => none
  | updateIf _ _ _ | failStale _ _ => 0
  | listForOwner _ _ _ => []

end StoreCall

end Backlog
