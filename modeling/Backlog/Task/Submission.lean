import Backlog.Task.Error
import Backlog.Task.Record
import Backlog.Text.Blank
/-!
# Submissions

What a caller asks for, before it is a task. Four texts are required, and each is kept without
the blanks at its ends; one that is blank throughout is refused, the first in the order type,
owner, creator, target. A blank fingerprint counts as none.
-/

namespace Backlog

/-- A submission that has been checked. -/
@[ext] structure Submission where
  kind : TaskKind
  owner : String
  creator : String
  target : String
  fingerprint : Option String
  deriving DecidableEq, Repr

/-- The texts of a submission as the caller gave them. -/
structure SubmissionForm where
  kind : String
  owner : String
  creator : String
  target : String
  fingerprint : Option String
  deriving DecidableEq, Repr

/-- A submission on one's own behalf: the creator is the owner. -/
def SubmissionForm.own (kind creator target : String) (fingerprint : Option String) :
    SubmissionForm := ⟨kind, creator, creator, target, fingerprint⟩

namespace Submission

open Text

/-- A text without its outer blanks, refused under the name of its field if nothing is left. -/
def required (field value : String) : Except TaskError String :=
  let trimmed := trim value
  if trimmed.isEmpty then .error (.invalidInput s!"missing {field}") else .ok trimmed

/-- A fingerprint without its outer blanks, none if nothing is left. -/
def fingerprint? (value : Option String) : Option String :=
  (value.map trim).filter fun s => !s.isEmpty

/-- The checked submission, or the first fault found in it. -/
def check (form : SubmissionForm) : Except TaskError Submission := do
  let kind ← required "type" form.kind
  let owner ← required "owner_id" form.owner
  let creator ← required "created_by" form.creator
  let target ← required "target_id" form.target
  return ⟨TaskKind.ofName kind, owner, creator, target, fingerprint? form.fingerprint⟩

/-- The key of the work a submission asks for. -/
def key (s : Submission) : WorkKey := ⟨s.kind, s.owner, s.target, s.fingerprint⟩

/-- The task a submission becomes: queued, created now. -/
def task (s : Submission) (id : TaskId) (now : Instant) : Task where
  id := id
  owner := s.owner
  kind := s.kind
  target := s.target
  fingerprint := s.fingerprint
  status := .queued
  creator := s.creator
  result := none
  error := none
  createdAt := now
  updatedAt := now

@[simp] theorem key_task (s : Submission) (id : TaskId) (now : Instant) :
    (s.task id now).key = s.key := rfl

@[simp] theorem isConsistent_task (s : Submission) (id : TaskId) (now : Instant) :
    (s.task id now).isConsistent = true := rfl

end Submission

end Backlog
