import Backlog.Json.Value
import Backlog.Store.Error
import Backlog.Task.Id
/-!
# Outcomes

What became of a handler's run, and what became of an attempt to process a task. A handler returns
a value, fails with a chain of reasons from the outermost to the root, panics, or is cut off before
it is through; whatever it does, the task ends with a value or with one text.
-/

namespace Backlog

/-- How the run of a handler ended. -/
inductive HandlerOutcome where
  /-- It returned this value. -/
  | returned (value : Json)
  /-- It failed for these reasons, the outermost first. -/
  | failed (reasons : List String)
  /-- It panicked, with a message if there was a text. -/
  | panicked (message : Option String)
  /-- Its run was cut off from outside, with a word on how. -/
  | aborted (reason : String)
  deriving Repr

/-- The value or the error text with which a task ends. -/
def HandlerOutcome.verdict : HandlerOutcome → Except String Json
  | returned value => .ok value
  | failed reasons => .error (": ".intercalate reasons)
  | panicked (some message) => .error s!"handler panicked: {message}"
  | panicked none => .error "handler panicked: unknown panic payload"
  | aborted reason => .error s!"handler aborted: {reason}"

/-- Only a returned value makes a task succeed. -/
theorem HandlerOutcome.verdict_eq_ok_iff {o : HandlerOutcome} {v : Json} :
    o.verdict = .ok v ↔ o = .returned v := by
  match o with
  | returned _ => simp [verdict]
  | failed _ | panicked (some _) | panicked none | aborted _ => simp [verdict]

/-- What became of a claimed task. -/
inductive Processed where
  /-- The handler's value was stored. -/
  | succeeded (id : TaskId)
  /-- The error was stored. -/
  | failed (id : TaskId)
  /-- The task left processing before its handler ran. -/
  | skipped (id : TaskId)
  /-- The task left processing while its handler ran, and the outcome was discarded. -/
  | superseded (id : TaskId)
  deriving DecidableEq, Repr

namespace Processed

/-- The task that was claimed. -/
def id : Processed → TaskId
  | succeeded id | failed id | skipped id | superseded id => id

/-- The word for what became of the task. -/
def name : Processed → String
  | succeeded _ => "succeeded"
  | failed _ => "failed"
  | skipped _ => "skipped"
  | superseded _ => "superseded"

end Processed

/-- Counts over the life of an engine. -/
@[ext] structure Stats where
  processed : Nat
  succeeded : Nat
  failed : Nat
  skipped : Nat
  superseded : Nat
  /-- Tasks failed by sweeps. -/
  reaped : Nat
  /-- Polls and sweeps of the loops that ended in a store error. -/
  storeErrors : Nat
  deriving DecidableEq, Repr

namespace Stats

/-- Nothing counted yet. -/
def zero : Stats := ⟨0, 0, 0, 0, 0, 0, 0⟩

/-- A claimed task counted. -/
def count (s : Stats) (p : Processed) : Stats :=
  let s := { s with processed := s.processed + 1 }
  match p with
  | .succeeded _ => { s with succeeded := s.succeeded + 1 }
  | .failed _ => { s with failed := s.failed + 1 }
  | .skipped _ => { s with skipped := s.skipped + 1 }
  | .superseded _ => { s with superseded := s.superseded + 1 }

/-- The tasks of a sweep counted. -/
def countReaped (s : Stats) (n : Nat) : Stats := { s with reaped := s.reaped + n }

/-- A store error counted. -/
def countError (s : Stats) : Stats := { s with storeErrors := s.storeErrors + 1 }

/-- The result of an attempt counted: what became of a claimed task, or a store error that a loop
met. -/
def concluded (s : Stats) (byLoop : Bool) : Except StoreError (Option Processed) → Stats
  | .ok (some p) => s.count p
  | .ok none => s
  | .error _ => if byLoop then s.countError else s

/-- The result of a sweep counted: the tasks it failed, or a store error that the loop met. -/
def swept (s : Stats) (byLoop : Bool) : Except StoreError Nat → Stats
  | .ok n => s.countReaped n
  | .error _ => if byLoop then s.countError else s

/-- The four ways a claimed task can go. -/
def outcomes (s : Stats) : Nat := s.succeeded + s.failed + s.skipped + s.superseded

theorem outcomes_count (s : Stats) (p : Processed) : (s.count p).outcomes = s.outcomes + 1 := by
  cases p <;> simp only [outcomes, count] <;> omega

theorem processed_count (s : Stats) (p : Processed) : (s.count p).processed = s.processed + 1 := by
  cases p <;> rfl

end Stats

end Backlog
