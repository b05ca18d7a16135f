import Backlog.Task.Update
/-!
# What a store call may make of a task

Tasks change only by updates, and an update writes the status, the outcome and the time of the
change, all together.  Two relations say what is left of a record afterwards.  `Task.SameWork`
holds between records that agree in every other field.  `Task.Advances` holds between a record and
what one store call may make of it: the record itself, or the same work with its status moved
along one arrow of the life of a task.

The life of a task has no arrow out of a terminal status and none into the first, so a terminal
record does not advance at all, and a record that is queued has never advanced.

## Main results

* `Advances.eq_of_terminal` — a terminal record stays as it is.
* `Advances.eq_of_queued` — what is queued after a call was the same record before it.
* `Advances.isActive` — what is in flight after a call was in flight before it.
-/

namespace Backlog

namespace Task

/-- The second record is the same piece of work as the first: every field but the status, the
outcome and the time of the last change agrees. -/
structure SameWork (t u : Task) : Prop where
  id : u.id = t.id
  owner : u.owner = t.owner
  kind : u.kind = t.kind
  target : u.target = t.target
  fingerprint : u.fingerprint = t.fingerprint
  creator : u.creator = t.creator
  createdAt : u.createdAt = t.createdAt

theorem SameWork.refl (t : Task) : t.SameWork t :=
  ⟨rfl, rfl, rfl, rfl, rfl, rfl, rfl⟩

theorem SameWork.trans {t u v : Task} (h : t.SameWork u) (h' : u.SameWork v) : t.SameWork v where
  id := h'.id.trans h.id
  owner := h'.owner.trans h.owner
  kind := h'.kind.trans h.kind
  target := h'.target.trans h.target
  fingerprint := h'.fingerprint.trans h.fingerprint
  creator := h'.creator.trans h.creator
  createdAt := h'.createdAt.trans h.createdAt

/-- The key of a task is part of its work. -/
theorem SameWork.key_eq {t u : Task} (h : t.SameWork u) : u.key = t.key := by
  simp only [key, h.kind, h.owner, h.target, h.fingerprint]

/-- What one store call may make of a stored record. -/
inductive Advances (t : Task) : Task → Prop where
  | stay : Advances t t
  | move {u : Task} (work : t.SameWork u) (arrow : t.status.canBecome u.status = true) :
      Advances t u

theorem Advances.sameWork {t u : Task} (h : t.Advances u) : t.SameWork u := by
  cases h with
  | stay => exact SameWork.refl t
  | move work _ => exact work

theorem Advances.id_eq {t u : Task} (h : t.Advances u) : u.id = t.id := h.sameWork.id

/-- A terminal record stays as it is. -/
theorem Advances.eq_of_terminal {t u : Task} (h : t.Advances u)
    (ht : t.status.isTerminal = true) : u = t := by
  cases h with
  | stay => rfl
  | move _ arrow =>
      rw [Status.not_canBecome_of_terminal ht] at arrow
      cases arrow

/-- What is queued after a call was the same record before it. -/
theorem Advances.eq_of_queued {t u : Task} (h : t.Advances u) (hu : u.status = .queued) :
    u = t := by
  cases h with
  | stay => rfl
  | move _ arrow =>
      rw [hu, Status.not_canBecome_queued] at arrow
      cases arrow

/-- What is in flight after a call was in flight before it. -/
theorem Advances.isActive {t u : Task} (h : t.Advances u) (hu : u.status.isActive = true) :
    t.status.isActive = true := by
  cases h with
  | stay => exact hu
  | move _ arrow => exact Status.isActive_of_canBecome arrow

end Task

namespace Update

theorem sameWork_apply (u : Update) (t : Task) (now : Instant) : t.SameWork (u.apply t now) :=
  ⟨rfl, rfl, rfl, rfl, rfl, rfl, rfl⟩

/-- What an update may change is in flight. -/
theorem isActive_of_mayChange {g : Guard} {u : Update} {t : Task}
    (h : u.mayChange g t = true) : t.status.isActive = true := by
  rw [mayChange, Bool.and_eq_true] at h
  exact Status.isActive_of_canBecome h.2

/-- An update that may change a task advances it. -/
theorem advances_apply {g : Guard} {u : Update} {t : Task} (h : u.mayChange g t = true)
    (now : Instant) : t.Advances (u.apply t now) := by
  rw [mayChange, Bool.and_eq_true] at h
  exact .move (sameWork_apply u t now) h.2

end Update

end Backlog
