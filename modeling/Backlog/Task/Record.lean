import Backlog.Json.Value
import Backlog.Task.Id
import Backlog.Task.Kind
import Backlog.Task.Status
import Backlog.Time.Instant
/-!
# Tasks and their keys

A task is the record of one piece of deferred work. Its key says which work that is: the kind, the
owner, the target and, if the submitter gave one, a fingerprint of the content. At most one task
of a key is in flight at a time, and the absence of a fingerprint is a value of its own in that
rule (`WorkKey.isExact`). A search by key is looser: a key without a fingerprint finds a task with
any (`WorkKey.finds`).

## Main results

* `isExact_iff_key_eq` — the exact match is equality with the task's own key.
* `finds_of_isExact` — an exact match is found.
-/

namespace Backlog

/-- One piece of deferred work. -/
@[ext] structure Task where
  id : TaskId
  owner : String
  kind : TaskKind
  target : String
  fingerprint : Option String
  status : Status
  creator : String
  /-- What the handler returned; only a succeeded task has it. -/
  result : Option Json
  /-- Why the task failed; only a failed task has it. -/
  error : Option String
  createdAt : Instant
  updatedAt : Instant
  deriving Repr

/-- Which work a task is. -/
@[ext] structure WorkKey where
  kind : TaskKind
  owner : String
  target : String
  fingerprint : Option String
  deriving DecidableEq, Repr

namespace Task

/-- The key of a task. -/
def key (t : Task) : WorkKey := ⟨t.kind, t.owner, t.target, t.fingerprint⟩

/-- Whether result and error agree with the status: a result on success, an error on failure, and
nothing else. -/
def isConsistent (t : Task) : Bool :=
  match t.status with
  | .succeeded => t.result.isSome && t.error.isNone
  | .failed => t.result.isNone && t.error.isSome
  | _ => t.result.isNone && t.error.isNone

/-- Whether a task comes before another one: it was created earlier, or at the same instant with a
smaller identifier. -/
def isBefore (a b : Task) : Bool :=
  a.createdAt.before b.createdAt || (a.createdAt == b.createdAt && a.id < b.id)

end Task

namespace WorkKey

/-- Whether a task is the work of this key, the fingerprint compared only if the key has one. -/
def finds (k : WorkKey) (t : Task) : Bool :=
  t.kind == k.kind && t.owner == k.owner && t.target == k.target
    && (k.fingerprint.isNone || t.fingerprint == k.fingerprint)

/-- Whether a task has exactly this key. -/
def isExact (k : WorkKey) (t : Task) : Bool := t.key == k

theorem isExact_iff_key_eq {k : WorkKey} {t : Task} : k.isExact t = true ↔ t.key = k := by
  simp [isExact]

theorem finds_iff {k : WorkKey} {t : Task} :
    k.finds t = true ↔ t.kind = k.kind ∧ t.owner = k.owner ∧ t.target = k.target ∧
      (k.fingerprint = none ∨ t.fingerprint = k.fingerprint) := by
  simp [finds, and_assoc]

/-- An exact match is found. -/
theorem finds_of_isExact {k : WorkKey} {t : Task} (h : k.isExact t = true) : k.finds t = true := by
  rw [isExact_iff_key_eq] at h
  subst h
  simp [finds_iff, Task.key]

end WorkKey

end Backlog
