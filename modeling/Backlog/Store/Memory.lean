import Backlog.Store.Call
/-!
# The store in memory

Tasks in a list, and a switch that simulates an outage: while the store is offline every call
fails and nothing changes. `insert` keeps two rules — an identifier is stored once, and of the
tasks in flight no two have the same exact key — and `updateIf` keeps the life of a task: a change
along no arrow is no change.

Answers do not depend on the order of the list. Reads pick the first task by creation time and
identifier (`earliest?`), lists are sorted by them.

## Main results

* `ids_updated` — an update leaves every identifier in its place.
* `exec_offline` — an offline store answers nothing and keeps everything.
-/

namespace Backlog

/-- A store of tasks in memory. -/
structure Memory where
  tasks : List Task
  online : Bool
  deriving Repr

namespace Memory

/-- The store that holds nothing. -/
def empty : Memory := ⟨[], true⟩

/-- The stored task of an identifier. -/
def find? (m : Memory) (id : TaskId) : Option Task := m.tasks.find? fun t => t.id == id

/-- Of some tasks the one that comes before all others. -/
def earliest? : List Task → Option Task
  | [] => none
  | t :: ts =>
    match earliest? ts with
    | none => some t
    | some u => some (if u.isBefore t then u else t)

/-- Tasks in the order of the queue. -/
def inOrder (ts : List Task) : List Task := ts.mergeSort fun a b => !b.isBefore a

/-- The task in flight with exactly this key. -/
def inFlight? (m : Memory) (k : WorkKey) : Option Task :=
  m.tasks.find? fun t => t.status.isActive && k.isExact t

/-- What keeps a task out of the store. -/
def collision? (m : Memory) (t : Task) : Option StoreError :=
  if (m.find? t.id).isSome then
    let id := t.id.text
    some (.conflict s!"task {id} already exists")
  else if t.status.isActive then
    (m.inFlight? t.key).map fun u =>
      let id := u.id.text
      .conflict s!"task {id} already in flight for this key"
  else none

/-- The tasks with an update applied to the one of an identifier, where it may change it. -/
def updated (ts : List Task) (id : TaskId) (g : Guard) (u : Update) (now : Instant) : List Task :=
  ts.map fun t => if t.id = id ∧ u.mayChange g t = true then u.apply t now else t

/-- How many tasks an update changes. -/
def changes (ts : List Task) (id : TaskId) (g : Guard) (u : Update) : Nat :=
  match ts.find? fun t => t.id == id with
  | some t => if u.mayChange g t then 1 else 0
  | none => 0

/-- Whether a task has been in processing since before an instant. -/
def isStale (cutoff : Instant) (t : Task) : Bool :=
  t.status == .processing && t.updatedAt.before cutoff

/-- What the store answers to a call while it is online, and the tasks after it. -/
def perform (m : Memory) (now : Instant) : (c : StoreCall) → List Task × c.Reply
  | .insert t =>
    match m.collision? t with
    | some e => (m.tasks, .error e)
    | none => (m.tasks ++ [t], .ok ())
  | .get id => (m.tasks, .ok (m.find? id))
  | .getForOwner owner id => (m.tasks, .ok ((m.find? id).filter fun t => t.owner == owner))
  | .findActive k =>
    (m.tasks, .ok (earliest? (m.tasks.filter fun t => t.status.isActive && k.finds t)))
  | .oldestQueued => (m.tasks, .ok (earliest? (m.tasks.filter fun t => t.status == .queued)))
  | .updateIf id g u => (updated m.tasks id g u now, .ok (changes m.tasks id g u))
  | .failStale cutoff error =>
    ( m.tasks.map fun t => if isStale cutoff t then (Update.fail error).apply t now else t,
      .ok (m.tasks.countP (isStale cutoff)) )
  | .listForOwner owner status limit =>
    let mine := m.tasks.filter fun t =>
      t.owner == owner && (status.isNone || status == some t.status)
    (m.tasks, .ok ((inOrder mine).take limit))

/-- What the store answers to a call at an instant, and the store after it. -/
def exec (m : Memory) (now : Instant) (c : StoreCall) : Memory × c.Reply :=
  if m.online then
    let (ts, r) := m.perform now c
    ({ m with tasks := ts }, r)
  else (m, .error (.unavailable "in-memory store offline"))

/-- An offline store answers nothing and keeps everything. -/
theorem exec_offline {m : Memory} (h : m.online = false) (now : Instant) (c : StoreCall) :
    m.exec now c = (m, .error (.unavailable "in-memory store offline")) := by
  simp [exec, h]

/-- The tasks an update leaves keep their identifiers, in place. -/
theorem ids_updated (ts : List Task) (id : TaskId) (g : Guard) (u : Update) (now : Instant) :
    (updated ts id g u now).map Task.id = ts.map Task.id := by
  simp only [updated, List.map_map]
  apply List.map_congr_left
  intro t _
  simp only [Function.comp_apply]
  split <;> rfl

end Memory

end Backlog
