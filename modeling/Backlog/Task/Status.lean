import Backlog.Task.Error
/-!
# The life of a task

```text
queued ──► processing ──► succeeded
  │            │   └────► failed
  └──► canceled ◄┘
```

A task begins `queued`, becomes `processing` when a worker claims it, and ends `succeeded`,
`failed` or `canceled`. The first two are *active*: the task is in flight. `Status.canBecome` holds
exactly along the arrows above; every stored change of status goes along one of them.

## Main results

* `not_canBecome_queued` — nothing becomes queued again.
* `not_canBecome_of_terminal` — nothing leaves a terminal status.
* `ofName?_eq_some_iff` — a status is read from its own name and from no other text.
-/

namespace Backlog

/-- Where a task is in its life. -/
inductive Status where
  | queued
  | processing
  | succeeded
  | failed
  | canceled
  deriving DecidableEq, Repr, Inhabited

namespace Status

/-- Every status, in the order of a task's life. -/
def all : List Status := [queued, processing, succeeded, failed, canceled]

/-- The statuses of a task in flight. -/
def activeOnes : List Status := [queued, processing]

/-- The name of a status. -/
def name : Status → String
  | queued => "queued"
  | processing => "processing"
  | succeeded => "succeeded"
  | failed => "failed"
  | canceled => "canceled"

/-- The status with this name. -/
def ofName? (s : String) : Option Status := all.find? fun t => t.name == s

/-- The error of a text that names no status. -/
def unknown (s : String) : TaskError := .invalidInput s!"unknown task status: {s}"

/-- The status a text names, exactly. -/
def parse (s : String) : Except TaskError Status :=
  match ofName? s with
  | some t => .ok t
  | none => .error (unknown s)

/-- Whether a task of this status is in flight. -/
def isActive : Status → Bool
  | queued | processing => true
  | _ => false

/-- Whether a task of this status has ended. -/
def isTerminal (s : Status) : Bool := !s.isActive

/-- Whether the life of a task has an arrow from one status to another. -/
def canBecome : Status → Status → Bool
  | queued, processing | queued, canceled => true
  | processing, succeeded | processing, failed | processing, canceled => true
  | _, _ => false

/-- A status taken along a list of others, each time only if there is an arrow; every item says
whether there was one, and the status it left. -/
def walk : Status → List Status → List (Bool × Status)
  | _, [] => []
  | s, t :: ts =>
    let next := if s.canBecome t then t else s
    (s.canBecome t, next) :: walk next ts

@[simp] theorem mem_all (s : Status) : s ∈ all := by cases s <;> decide

theorem mem_activeOnes {s : Status} : s ∈ activeOnes ↔ s.isActive = true := by
  cases s <;> decide

/-- A status is read from its own name and from no other text. -/
theorem ofName?_eq_some_iff {t : String} {s : Status} : ofName? t = some s ↔ t = s.name := by
  constructor
  · intro h
    have := List.find?_some h
    exact (beq_iff_eq.1 this).symm
  · rintro rfl
    cases s <;> rfl

/-- Nothing becomes queued again. -/
theorem not_canBecome_queued (s : Status) : s.canBecome queued = false := by cases s <;> rfl

/-- Nothing leaves a terminal status. -/
theorem not_canBecome_of_terminal {s : Status} (h : s.isTerminal = true) (t : Status) :
    s.canBecome t = false := by
  cases s <;> first | rfl | cases h

/-- Only active statuses are left. -/
theorem isActive_of_canBecome {s t : Status} (h : s.canBecome t = true) : s.isActive = true := by
  cases s <;> first | rfl | cases h

end Status

end Backlog
