import Backlog.Config.Gate
/-!
# The slots of one class

A class has a fixed number of slots. An attempt that finds none free joins a queue, first come
first served, under a ticket. A slot that is given back goes to the first ticket of the queue and
is not free in between: the ticket is *granted*, and its holder takes the slot when it next looks.
A ticket that leaves the queue costs nothing, and one that leaves after it was granted gives its
slot back.

The unbounded class has no slots to count: everyone gets through.

## Main results

* `release_nil`, `release_cons` — a slot given back is free, or goes to the first ticket.
-/

namespace Backlog

/-- The slots of one class, with the tickets that wait. -/
@[ext] structure Slots where
  limit : ClassLimit
  /-- Slots nobody holds and no ticket was granted. -/
  free : Nat
  /-- Tickets that wait, the first one in front. -/
  queue : List Nat
  /-- Tickets that were granted a slot and have not taken it. -/
  granted : List Nat
  deriving DecidableEq, Repr

namespace Slots

/-- The slots of a class of this limit, none taken. -/
def ofLimit (limit : ClassLimit) : Slots := ⟨limit, limit.capacity, [], []⟩

/-- A slot taken at once, if one is free. -/
def take? (s : Slots) : Option Slots :=
  if 0 < s.free then some { s with free := s.free - 1 } else none

/-- A ticket joins the queue. -/
def enqueue (s : Slots) (ticket : Nat) : Slots := { s with queue := s.queue ++ [ticket] }

/-- A slot is given back. -/
def release (s : Slots) : Slots :=
  match s.queue with
  | [] => { s with free := s.free + 1 }
  | t :: ts => { s with queue := ts, granted := s.granted ++ [t] }

/-- Whether a ticket has been granted a slot. -/
def isGranted (s : Slots) (ticket : Nat) : Bool := s.granted.contains ticket

/-- The holder of a granted ticket takes its slot. -/
def redeem (s : Slots) (ticket : Nat) : Slots := { s with granted := s.granted.erase ticket }

/-- A ticket is abandoned. -/
def leave (s : Slots) (ticket : Nat) : Slots :=
  if s.isGranted ticket then (s.redeem ticket).release
  else { s with queue := s.queue.erase ticket }

/-- The free slots of a bounded class. -/
def available? (s : Slots) : Option Nat := if s.limit.isUnbounded then none else some s.free

theorem release_nil {s : Slots} (h : s.queue = []) : s.release = { s with free := s.free + 1 } := by
  simp [release, h]

theorem release_cons {s : Slots} {t : Nat} {ts : List Nat} (h : s.queue = t :: ts) :
    s.release = { s with queue := ts, granted := s.granted ++ [t] } := by
  simp [release, h]

end Slots

end Backlog
