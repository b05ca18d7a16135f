import Backlog.Database.Row
import Backlog.Database.Schema
/-!
# A store in a database

A store call is one query to a server. What can go wrong on the way, and what the server can say,
are `Failure` and `Reply`; how they look to the user of the store is `Failure.toStoreError` and
`Reply.answer`. A unique key that is there already makes a conflict, a row that denotes no task is
corrupt, and everything else means that the store is unavailable.
-/

namespace Backlog.Database

/-- What went wrong with a query. -/
inductive Failure where
  /-- The server refused, with a code and a message. -/
  | server (code message : String)
  /-- The connection broke, or there was none in time. -/
  | lost
  /-- The connections were closed before. -/
  | closed
  deriving DecidableEq, Repr

/-- The server's code for a unique key that is there already. -/
def uniqueViolation : String := "23505"

/-- The codes with which a server asks to come back later: it has no room, or is starting. -/
def retryCodes : List String := ["53300", "57P03"]

namespace Failure

/-- What the user of the store is told of a failure in an operation. -/
def toStoreError (operation : String) : Failure → StoreError
  | server code message =>
    let reason := s!"database error in {operation}: {message}"
    if code == uniqueViolation then .conflict reason else .unavailable reason
  | lost => .unavailable s!"sqlx error in {operation}"
  | closed => .unavailable s!"connection pool closed in {operation}"

end Failure

/-- How the server can be reached. -/
inductive Access where
  | reachable
  /-- The connections are closed before a query is sent. -/
  | closed
  /-- The server turns every connection away. -/
  | refused (code message : String)
  /-- There is no server. -/
  | unreachable
  deriving DecidableEq, Repr

/-- What the server does with a statement. -/
inductive Reply where
  /-- It answers with rows, and counts the rows it has changed. -/
  | done (rows : List Row) (changed : Nat)
  | failed (code message : String)
  /-- It breaks the connection. -/
  | disconnected

/-- A connection is made. A server that asks to come back later is asked until the time is over. -/
def connect : Access → Except StoreError Unit
  | .reachable | .closed => .ok ()
  | .refused code message =>
    let failure : Failure := if retryCodes.contains code then .lost else .server code message
    .error (failure.toStoreError "connect")
  | .unreachable => .error (Failure.lost.toStoreError "connect")

/-- The rows and the count that an operation gets, and whether its statement was executed. -/
def outcome (access : Access) (reply : Reply) (operation : String) :
    Bool × Except StoreError (List Row × Nat) :=
  match access, reply with
  | .reachable, .done rows changed => (true, .ok (rows, changed))
  | .reachable, .failed code message =>
    (true, .error ((Failure.server code message).toStoreError operation))
  | .reachable, .disconnected => (true, .error (Failure.lost.toStoreError operation))
  | _, _ => (false, .error (Failure.closed.toStoreError operation))

/-- The task that a row denotes, for the user of the store. -/
def readTask (r : Row) : Except StoreError Task :=
  match r.task with
  | .ok t => .ok t
  | .error e => .error e.toStoreError

/-- The task in the first row, if there is a row. -/
def readFirst : List Row → Except StoreError (Option Task)
  | [] => .ok none
  | r :: _ => (readTask r).map some

/-- The answer of a call that rows and a count of changes make. -/
def answerOf : (c : StoreCall) → List Row → Nat → c.Reply
  | .insert _, _, _ => .ok ()
  | .get _, rows, _ => readFirst rows
  | .getForOwner _ _, rows, _ => readFirst rows
  | .findActive _, rows, _ => readFirst rows
  | .oldestQueued, rows, _ => readFirst rows
  | .updateIf _ _ _, _, changed => .ok changed
  | .failStale _ _, _, changed => .ok changed
  | .listForOwner _ _ _, rows, _ => rows.mapM readTask

/-- A store call over a connection: the query if it was executed, and the answer. -/
def ask (access : Access) (reply : Reply) (now : Instant) (c : StoreCall) :
    Option Query × c.Reply :=
  let q := Query.ofCall now c
  match outcome access reply q.operation with
  | (sent, .ok (rows, changed)) => (if sent then some q else none, answerOf c rows changed)
  | (sent, .error e) => (if sent then some q else none, .error e)

/-- The schema is applied: its text if it was executed, and whether that succeeded. -/
def migrate (access : Access) (reply : Reply) : Option String × Except StoreError Unit :=
  match outcome access reply "migrate" with
  | (sent, r) => (if sent then some Schema.text else none, r.map fun _ => ())

end Backlog.Database
