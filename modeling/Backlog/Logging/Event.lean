import Backlog.Gate.Class
import Backlog.Json.Value
import Backlog.Logging.Level
import Backlog.Store.Error
import Backlog.Task.Record
import Backlog.Text.Decimal
import Backlog.Text.Quoted
import Backlog.Time.Timestamp
/-!
# Events worth a log line

What the service, the engine and the gate report while they work. An event says what happened;
its level, its message and its named fields are functions of it.
-/

namespace Backlog

/-- The text by which a log line shows a kind. -/
def TaskKind.shown (k : TaskKind) : String :=
  match k with
  | .custom name => "Custom(" ++ Text.quoted name ++ ")"
  | _ => k.label

/-- The text by which a log line shows a set of kinds. -/
def TaskKind.setText (ks : List TaskKind) : String :=
  let names := (ks.map TaskKind.shown).mergeSort fun a b => a ≤ b
  "\x7b" ++ ", ".intercalate names ++ "\x7d"

/-- Something that happened and is worth a line. -/
inductive Event where
  /-- A submission became a task. -/
  | taskQueued (task : Task)
  /-- A submission found its work already in flight. -/
  | inFlightReturned (id : TaskId) (status : Status)
  /-- A submission was overtaken between its search and its insert. -/
  | insertRaceLost (reason : String)
  | taskCanceled (id : TaskId) (owner : String)
  | cancelRejected (id : TaskId) (status : Status)
  | claimLost (id : TaskId)
  | leftBeforeDispatch (status : Status)
  | claimedTaskGone
  /-- The look at a claimed task failed; its handler runs all the same. -/
  | recheckFailed (error : StoreError)
  | outcomeDiscarded
  | taskSucceeded
  | taskFailed (error : String)
  | stuckTasksFailed (count : Nat) (cutoff : Instant)
  | noStuckTasks
  | pollFailed (error : StoreError)
  | sweepFailed (error : StoreError)
  | workerStarted (idleMin idleMax : Duration) (kinds : List TaskKind)
  | sweeperStarted (interval limit : Duration)
  | workerStopped
  | sweeperStopped
  | engineStopped
  | slotAcquired (resource : ResourceClass)
  /-- No slot within the time an attempt waits. -/
  | gateSaturated (resource : ResourceClass) (timeout : Duration)

namespace Event

/-- How grave an event is. -/
def level : Event → LogLevel
  | pollFailed _ | sweepFailed _ => .error
  | cancelRejected _ _ | claimedTaskGone | recheckFailed _ | taskFailed _ | stuckTasksFailed _ _
  | gateSaturated _ _ => .warn
  | inFlightReturned _ _ | insertRaceLost _ | claimLost _ | noStuckTasks | slotAcquired _ => .debug
  | _ => .info

/-- The message of an event. -/
def message : Event → String
  | taskQueued _ => "task queued"
  | inFlightReturned _ _ => "returning in-flight task"
  | insertRaceLost _ => "submission lost insert race"
  | taskCanceled _ _ => "task canceled"
  | cancelRejected _ _ => "cancel rejected"
  | claimLost _ => "claim lost"
  | leftBeforeDispatch _ => "task left processing before dispatch, skipping"
  | claimedTaskGone => "claimed task disappeared, skipping"
  | recheckFailed _ => "re-check after claim failed, dispatching anyway"
  | outcomeDiscarded => "task left processing while the handler ran, outcome discarded"
  | taskSucceeded => "task succeeded"
  | taskFailed _ => "task failed"
  | stuckTasksFailed _ _ => "failed stuck processing tasks"
  | noStuckTasks => "no stuck tasks"
  | pollFailed _ => "task poll failed"
  | sweepFailed _ => "reaper sweep failed"
  | workerStarted _ _ _ => "task worker started"
  | sweeperStarted _ _ => "task reaper started"
  | workerStopped => "task worker stopped"
  | sweeperStopped => "task reaper stopped"
  | engineStopped => "task engine stopped"
  | slotAcquired _ => "gate slot acquired"
  | gateSaturated _ _ => "gate saturated"

/-- Milliseconds as a log field holds them: 64 bits, the higher ones dropped. -/
def millisField (d : Duration) : Json := .nat (d.millis % 18446744073709551616)

/-- The fields of an event. -/
def fields : Event → List (String × Json)
  | taskQueued t =>
    [ ("task_id", .str t.id.text), ("task_type", .str t.kind.name), ("owner_id", .str t.owner),
      ("target_id", .str t.target) ]
  | inFlightReturned id status | cancelRejected id status =>
    [("task_id", .str id.text), ("status", .str status.name)]
  | insertRaceLost reason => [("error", .str reason)]
  | taskCanceled id owner => [("task_id", .str id.text), ("owner_id", .str owner)]
  | claimLost id => [("task_id", .str id.text)]
  | leftBeforeDispatch status => [("status", .str status.name)]
  | recheckFailed e | pollFailed e | sweepFailed e => [("error", .str e.message)]
  | taskFailed e => [("error", .str e)]
  | stuckTasksFailed count cutoff =>
    [("count", .nat count), ("cutoff", .str (Timestamp.logText cutoff))]
  | workerStarted idleMin idleMax kinds =>
    [ ("idle_min_ms", millisField idleMin), ("idle_max_ms", millisField idleMax),
      ("handlers", .str (TaskKind.setText kinds)) ]
  | sweeperStarted interval limit =>
    [("interval_secs", .nat interval.seconds), ("ttl_secs", .nat limit.seconds)]
  | slotAcquired resource => [("class", .str resource.label)]
  | gateSaturated resource timeout =>
    [("class", .str resource.label), ("timeout_ms", millisField timeout)]
  | _ => []

/-- An event as JSON: its level, message and fields. -/
def toJson (e : Event) : Json :=
  .obj [("level", .str e.level.name), ("message", .str e.message), ("fields", .obj e.fields)]

end Event

end Backlog
