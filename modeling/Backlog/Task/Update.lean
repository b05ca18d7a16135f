import Backlog.Task.Record
/-!
# Guarded updates

A task changes only by an update: a new status together with the result and the error that belong
to it, so that no change leaves an outcome of another status behind. An update is applied under a
guard, which names the statuses it expects and may name the owner; whoever comes second finds the
status moved and changes nothing.

The updates `claim`, `succeed`, `fail` and `cancel` are the ones the engine and the service use.
Each leaves a consistent task (`isConsistent_apply_claim` and its neighbours).
-/

namespace Backlog

/-- When an update applies. -/
structure Guard where
  /-- The status must be one of these. -/
  expected : List Status
  /-- If given, the task must belong to this owner. -/
  owner : Option String
  deriving DecidableEq, Repr

/-- What an update writes. -/
@[ext] structure Update where
  status : Status
  result : Option Json
  error : Option String
  deriving Repr

namespace Guard

/-- The task must be in this status. -/
def status (s : Status) : Guard := ⟨[s], none⟩

/-- The task must be in one of these statuses. -/
def anyOf (ss : List Status) : Guard := ⟨ss, none⟩

/-- The guard that also asks for an owner. -/
def ownedBy (g : Guard) (owner : String) : Guard := { g with owner := some owner }

/-- Whether a guard lets an update through. -/
def allows (g : Guard) (t : Task) : Bool :=
  g.expected.contains t.status && (g.owner.isNone || g.owner == some t.owner)

theorem allows_iff {g : Guard} {t : Task} :
    g.allows t = true ↔ t.status ∈ g.expected ∧ (g.owner = none ∨ g.owner = some t.owner) := by
  simp [allows]

end Guard

namespace Update

/-- A worker takes the task. -/
def claim : Update := ⟨.processing, none, none⟩

/-- The work is done, with this result. -/
def succeed (result : Json) : Update := ⟨.succeeded, some result, none⟩

/-- The work failed, for this reason. -/
def fail (error : String) : Update := ⟨.failed, none, some error⟩

/-- The task is called off. -/
def cancel : Update := ⟨.canceled, none, none⟩

/-- The task after an update at `now`. -/
def apply (u : Update) (t : Task) (now : Instant) : Task :=
  { t with status := u.status, result := u.result, error := u.error, updatedAt := now }

/-- Whether an update may change a task: the guard allows it and the life of a task has the
arrow. -/
def mayChange (g : Guard) (u : Update) (t : Task) : Bool :=
  g.allows t && t.status.canBecome u.status

@[simp] theorem id_apply (u : Update) (t : Task) (now : Instant) : (u.apply t now).id = t.id := rfl

@[simp] theorem status_apply (u : Update) (t : Task) (now : Instant) :
    (u.apply t now).status = u.status := rfl

@[simp] theorem isConsistent_apply_claim (t : Task) (now : Instant) :
    (claim.apply t now).isConsistent = true := rfl

@[simp] theorem isConsistent_apply_succeed (v : Json) (t : Task) (now : Instant) :
    ((succeed v).apply t now).isConsistent = true := rfl

@[simp] theorem isConsistent_apply_fail (e : String) (t : Task) (now : Instant) :
    ((fail e).apply t now).isConsistent = true := rfl

@[simp] theorem isConsistent_apply_cancel (t : Task) (now : Instant) :
    (cancel.apply t now).isConsistent = true := rfl

end Update

end Backlog
