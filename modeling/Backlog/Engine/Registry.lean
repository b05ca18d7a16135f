import Backlog.Task.Kind
/-!
# Handlers by kind

A registry maps kinds of work to handlers. Registering a kind again replaces its handler. Kinds are
compared as values, so a `custom` kind with a built-in name has an entry of its own.

## Main results

* `find?_register_self`, `find?_register_of_ne` — a registry answers with the last registration.
-/

namespace Backlog

/-- Handlers of type `H`, each with its kind; no kind occurs twice. -/
structure Registry (H : Type) where
  entries : List (TaskKind × H)
  deriving Repr

namespace Registry

variable {H : Type}

/-- The registry without handlers. -/
def empty : Registry H := ⟨[]⟩

/-- The handler of a kind. -/
def find? (r : Registry H) (k : TaskKind) : Option H :=
  (r.entries.find? fun e => e.1 == k).map (·.2)

/-- The registry with this handler for this kind. -/
def register (r : Registry H) (k : TaskKind) (h : H) : Registry H :=
  ⟨r.entries.filter (fun e => e.1 != k) ++ [(k, h)]⟩

/-- The registry after these registrations, the first of them first. -/
def ofList (es : List (TaskKind × H)) : Registry H := es.foldl (fun r e => r.register e.1 e.2) empty

/-- The kinds that have a handler. -/
def kinds (r : Registry H) : List TaskKind := r.entries.map (·.1)

/-- The handler registered last for a kind is found. -/
@[simp] theorem find?_register_self (r : Registry H) (k : TaskKind) (h : H) :
    (r.register k h).find? k = some h := by
  have hn : (r.entries.filter fun e => e.1 != k).find? (fun e => e.1 == k) = none := by
    rw [List.find?_eq_none]
    intro e he
    simpa using (List.mem_filter.1 he).2
  simp [find?, register, hn]

/-- A registration concerns no other kind. -/
theorem find?_register_of_ne (r : Registry H) {k l : TaskKind} (hl : l ≠ k) (h : H) :
    (r.register k h).find? l = r.find? l := by
  have hk : (k == l) = false := beq_eq_false_iff_ne.2 (Ne.symm hl)
  have hf : (r.entries.filter fun e => e.1 != k).find? (fun e => e.1 == l)
      = r.entries.find? (fun e => e.1 == l) := by
    rw [List.find?_filter]
    congr 1
    funext e
    by_cases he : e.1 = l
    · simp [he, hl]
    · simp [he]
  simp [find?, register, hf, hk]

end Registry

end Backlog
