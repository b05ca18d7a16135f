import Backlog.Store.Activity
import Backlog.Text.Blank
/-!
# Looking tasks up

Both lookups are one store call within the caller's own tasks. A caller learns nothing from an
identifier that is malformed, unknown or someone else's: the answer is that there is no such task.
-/

namespace Backlog

/-- The points of a lookup of one task. -/
inductive Lookup where
  /-- About to read the task. -/
  | read (owner : String) (id : TaskId)
  | done (answer : Except TaskError Task)

/-- The points of a listing. -/
inductive Listing where
  /-- About to read the tasks. -/
  | read (owner : String) (status : Option Status) (limit : Nat)
  | done (answer : Except TaskError (List Task))

namespace Lookup

open Text

/-- A lookup begins with its arguments. -/
def start (owner idText : String) : Lookup :=
  let owner := trim owner
  if owner.isEmpty then .done (.error .notFound)
  else
    match TaskId.readTrimmed? idText with
    | none => .done (.error .notFound)
    | some id => .read owner id

/-- After the read. -/
def found : Except StoreError (Option Task) → Lookup × List Event
  | .error e => (.done (.error e.toTaskError), [])
  | .ok none => (.done (.error .notFound), [])
  | .ok (some t) => (.done (.ok t), [])

/-- What a lookup does next. -/
def move : Lookup → Move Lookup
  | .read owner id => .call (.getForOwner owner id) found
  | .done _ => .rest

/-- The answer, once there is one. -/
def answer? : Lookup → Option (Except TaskError Task)
  | .done a => some a
  | _ => none

end Lookup

namespace Listing

open Text

/-- A listing begins with its arguments. -/
def start (owner : String) (status : Option Status) (limit : Nat) : Listing :=
  let owner := trim owner
  if owner.isEmpty then .done (.error (.invalidInput "missing owner_id"))
  else .read owner status limit

/-- After the read. -/
def found : Except StoreError (List Task) → Listing × List Event
  | .error e => (.done (.error e.toTaskError), [])
  | .ok ts => (.done (.ok ts), [])

/-- What a listing does next. -/
def move : Listing → Move Listing
  | .read owner status limit => .call (.listForOwner owner status limit) found
  | .done _ => .rest

/-- The answer, once there is one. -/
def answer? : Listing → Option (Except TaskError (List Task))
  | .done a => some a
  | _ => none

end Listing

end Backlog
