import Backlog.Database.Statement
import Backlog.Database.Value
import Backlog.Store.Call
/-!
# Store calls as statements

Every call of a store of tasks is one statement, so the database makes it one atomic step: a guard
is part of the condition under which rows are changed, and whoever comes second finds the status
moved and changes nothing.
-/

namespace Backlog.Database

/-- A statement with its parameters. -/
structure Query where
  /-- The name by which errors refer to the query. -/
  operation : String
  statement : Statement
  params : List Value
  deriving Repr

/-- The values of a task, in the order of the columns. -/
def taskValues (t : Task) : List Value :=
  [ .uuid t.id, .text t.owner, .text t.kind.name, .text t.target, .textOrNull t.fingerprint,
    .text t.status.name, .text t.creator, .jsonOrNull t.result, .textOrNull t.error,
    .ofInstant t.createdAt, .ofInstant t.updatedAt ]

/-- The greatest limit a database takes. -/
def limitCeiling : Nat := 9223372036854775807

namespace Query

open Condition

/-- The query that a call is, when the clock reads `now`. -/
def ofCall (now : Instant) : StoreCall → Query
  | .insert t => ⟨"insert_task", .insert, taskValues t⟩
  | .get id => ⟨"get_task", .select [matchesParam .id 1] none, [.uuid id]⟩
  | .getForOwner owner id =>
    ⟨"get_task_for_owner", .select [matchesParam .id 1, matchesParam .owner 2] none,
      [.uuid id, .text owner]⟩
  | .findActive k =>
    ⟨"find_active_task",
      .select
        [ matchesParam .kind 1, matchesParam .owner 2, matchesParam .target 3, isActive,
          matchesIfGiven .fingerprint 4 ]
        (some (.count 1)),
      [.text k.kind.name, .text k.owner, .text k.target, .textOrNull k.fingerprint]⟩
  | .oldestQueued => ⟨"oldest_queued", .select [hasStatus .queued] (some (.count 1)), []⟩
  | .updateIf id g u =>
    ⟨"update_task_if",
      .update
        [ (.status, .param 1), (.result, .param 2), (.error, .param 3), (.updatedAt, .param 4) ]
        [matchesParam .id 5, .memberOf (.column .status) 6, matchesIfGiven .owner 7],
      [ .text u.status.name, .jsonOrNull u.result, .textOrNull u.error, .ofInstant now, .uuid id,
        .texts (g.expected.map Status.name), .textOrNull g.owner ]⟩
  | .failStale cutoff error =>
    ⟨"fail_stale_processing",
      .update
        [ (.status, .word Status.failed.name), (.result, .null), (.error, .param 1),
          (.updatedAt, .param 2) ]
        [hasStatus .processing, .less (.column .updatedAt) (.param 3)],
      [.text error, .ofInstant now, .ofInstant cutoff]⟩
  | .listForOwner owner status limit =>
    ⟨"list_tasks_for_owner",
      .select [matchesParam .owner 1, matchesIfGiven .status 2] (some (.param 3)),
      [.text owner, .textOrNull (status.map Status.name), .integer (min limit limitCeiling)]⟩

end Query

end Backlog.Database
