import Backlog.Store.Memory
/-!
# Faults on demand

A store can be told to misbehave: each sort of call has a queue of faults, and a call takes the
first one of its sort. A fault fails the call, answers as if there were nothing, or lets the call
through; the last sort of fault also cancels the task that an update was aimed at, right after the
update, as a user would who is quicker than the engine.
-/

namespace Backlog

/-- How one call misbehaves. -/
inductive Fault where
  /-- The call fails without touching the store. -/
  | fail (error : StoreError)
  /-- The call answers as if there were nothing, without touching the store. -/
  | nothing
  /-- The call goes through, and an updated task is then canceled if it is in flight. -/
  | thenCancel
  /-- The call goes through. -/
  | pass
  deriving DecidableEq, Repr

/-- Faults that wait for their call, each with the sort of call it is for. -/
abbrev Faults := List (StoreMethod × Fault)

namespace Faults

/-- The first fault for a sort of call, and the others. -/
def take? (faults : Faults) (m : StoreMethod) : Option (Fault × Faults) :=
  match faults with
  | [] => none
  | (n, f) :: rest =>
    if n = m then some (f, rest) else (take? rest m).map fun (g, others) => (g, (n, f) :: others)

end Faults

namespace Fault

/-- The cancellation of a task in flight, whoever asks for it. -/
def cancelInFlight (m : Memory) (now : Instant) (id : TaskId) : Memory :=
  (m.exec now (.updateIf id (Guard.anyOf Status.activeOnes) Update.cancel)).1

/-- A call under a fault. -/
def exec (fault : Fault) (m : Memory) (now : Instant) (c : StoreCall) : Memory × c.Reply :=
  match fault with
  | fail e => (m, .error e)
  | nothing => (m, .ok c.nothing)
  | pass => m.exec now c
  | thenCancel =>
    let (after, reply) := m.exec now c
    match c with
    | .updateIf id _ _ => (cancelInFlight after now id, reply)
    | _ => (after, reply)

end Fault

end Backlog
