import Backlog.Time.Duration
/-!
# The idle sleep

A worker that finds nothing sleeps, and longer each time: the sleep doubles up to a limit and falls
back to the least one when there is work again. A limit below the least sleep is raised to it.
-/

namespace Backlog

/-- The state of the idle sleep. -/
@[ext] structure Backoff where
  least : Duration
  limit : Duration
  /-- The sleep after the next poll that finds nothing. -/
  next : Duration
  deriving DecidableEq, Repr

namespace Backoff

/-- An idle sleep that begins at `least` and does not exceed `limit`. -/
def start (least limit : Duration) : Backoff := ⟨least, limit.longer least, least⟩

/-- The sleep after a poll that found nothing, and the state for the next one. -/
def idle (b : Backoff) : Duration × Backoff :=
  (b.next, { b with next := b.next.double.shorter b.limit })

/-- The state after work was found. -/
def reset (b : Backoff) : Backoff := { b with next := b.least }

@[simp] theorem least_idle (b : Backoff) : b.idle.2.least = b.least := rfl
@[simp] theorem limit_idle (b : Backoff) : b.idle.2.limit = b.limit := rfl
@[simp] theorem next_reset (b : Backoff) : b.reset.next = b.least := rfl

end Backoff

end Backlog
