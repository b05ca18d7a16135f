import Backlog.Store.Activity
import Backlog.Task.Submission
/-!
# Submitting work

A submission first searches for a task in flight that its key finds, and answers with it. Only if
there is none does it insert a task of its own. Between the two another submitter may have inserted
the same work; the store refuses the second insert as a conflict, and the search is made once more.
If by then the other task has ended, the caller is asked to try again.

The wake signal is given exactly when the answer is a queued task, and after the task is stored,
so that a worker it wakes will find it.
-/

namespace Backlog

/-- The points of a submission. -/
inductive Submit where
  /-- About to search for a task in flight. -/
  | search (submission : Submission)
  /-- About to insert a task, none having been found. -/
  | insert (submission : Submission) (task : Task)
  /-- About to search again, the insert having met a conflict. -/
  | searchAgain (submission : Submission)
  /-- About to give the wake signal and answer with a task. -/
  | signal (task : Task)
  | done (answer : Except TaskError Task)

namespace Submit

/-- A submission begins with its check. -/
def start (form : SubmissionForm) : Submit :=
  match Submission.check form with
  | .error e => .done (.error e)
  | .ok s => .search s

/-- The answer with a task: a queued one is signalled first. -/
def answerWith (t : Task) : Submit := if t.status = .queued then .signal t else .done (.ok t)

/-- After the first search. -/
def searched (now : Instant) (fresh : TaskId) (s : Submission) :
    Except StoreError (Option Task) → Submit × List Event
  | .error e => (.done (.error e.toTaskError), [])
  | .ok (some t) => (answerWith t, [.inFlightReturned t.id t.status])
  | .ok none => (.insert s (s.task fresh now), [])

/-- After the insert. -/
def inserted (s : Submission) (t : Task) : Except StoreError Unit → Submit × List Event
  | .ok () => (.signal t, [.taskQueued t])
  | .error (.conflict reason) => (.searchAgain s, [.insertRaceLost reason])
  | .error e => (.done (.error e.toTaskError), [])

/-- After the second search. -/
def searchedAgain : Except StoreError (Option Task) → Submit × List Event
  | .error e => (.done (.error e.toTaskError), [])
  | .ok (some t) => (answerWith t, [])
  | .ok none =>
    (.done (.error (.storeUnavailable "concurrent submission for the same key, retry")), [])

/-- What a submission does next, when the clock reads `now` and `fresh` is the next identifier. -/
def move (now : Instant) (fresh : TaskId) : Submit → Move Submit
  | .search s => .call (.findActive s.key) (searched now fresh s)
  | .insert s t => .call (.insert t) (inserted s t)
  | .searchAgain s => .call (.findActive s.key) searchedAgain
  | .signal t => .signal (.done (.ok t))
  | .done _ => .rest

/-- The answer, once there is one. -/
def answer? : Submit → Option (Except TaskError Task)
  | .done a => some a
  | _ => none

end Submit

end Backlog
