import Backlog.Proofs.Store.Match
import Backlog.Proofs.Workshop.Carried
/-!
# One attempt among others

An errand is one attempt at the queue in a store that belongs to others as well.  Between any two of
its moves they do to the store what they please: any calls with any arguments, and outages.  Each
call of the attempt may fail before it reaches the store, and a handler ends as it likes.  A
workshop has parties that keep to their activities; here nothing is known of the others except that
they go through the store, which has no call that deletes.

What the errand did is kept as its requests, each with the store it met.  The store that a request
left, and whether it failed, can be computed from that, so what a request did is said of the two
stores and not of its reply: it was idle, or it wrote to one task.

A store has one task for each identifier; on a list of tasks this is a condition.  It is needed for
the poll, where two tasks could otherwise tie, and for the guarded updates, whose count is that of
the first task with the identifier.

## Main results

* `Request.idle_of_zero`, `Request.writes_of_pos` — what a guarded update did, by its reply.
* `Request.polled_of_reply` — the task that a poll answers is the first of the queue.
* `stepsLeft_after`, `ends` — every beat brings an errand nearer to its end.
-/

namespace Backlog

/-- A call of the store that an errand made. -/
structure Request where
  /-- The store as the call met it. -/
  met : Memory
  now : Instant
  /-- With a fault the call ends in that error and does not reach the store. -/
  fault : Option StoreError
  call : StoreCall

namespace Request

/-- The store as the call left it. -/
def left (q : Request) : Memory := (q.met.answer q.now q.fault q.call).1

/-- Whether the call ended in an error. -/
def failed (q : Request) : Bool :=
  match (q.met.answer q.now q.fault q.call).2 with
  | .ok _ => false
  | .error _ => true

/-- The call left the store as it was. -/
def Idle (q : Request) : Prop := q.left = q.met

/-- The poll answered with a task: the first of the queue. -/
structure Polled (q : Request) (t : Task) : Prop where
  call : q.call = .oldestQueued
  answer : (q.met.answer q.now q.fault .oldestQueued).2 = .ok (some t)
  stored : q.met.find? t.id = some t
  queued : t.status = .queued
  first : ∀ u ∈ q.met.tasks, u.status = .queued → u ≠ t → t.isBefore u = true

/-- The guarded update found a record, in the status that it expected, and moved it; under every
other identifier the store is as it was. -/
structure Writes (q : Request) (a : Task) (u : Update) : Prop where
  call : q.call = .updateIf a.id (Guard.status a.status) u
  met : q.met.find? a.id = some a
  left : q.left.find? a.id = some (u.apply a q.now)
  others : ∀ i, i ≠ a.id → q.left.find? i = q.met.find? i

variable {m : Memory} {now : Instant} {fault : Option StoreError}

theorem idle_of_lookup {q : Request} (h : q.call.isLookup = true) : q.Idle :=
  Memory.answer_lookup h q.met q.now q.fault

theorem Polled.idle {q : Request} {t : Task} (h : q.Polled t) : q.Idle :=
  idle_of_lookup (by rw [h.call]; rfl)

theorem Polled.unique {q : Request} {t u : Task} (h : q.Polled t) (h' : q.Polled u) : t = u :=
  Option.some.inj (Except.ok.inj (h.answer.symm.trans h'.answer))

theorem idle_of_error {c : StoreCall} {e : StoreError}
    (h : (m.answer now fault c).2 = .error e) : Idle ⟨m, now, fault, c⟩ :=
  Memory.answer_error h

theorem idle_of_zero (hids : (m.tasks.map Task.id).Nodup) {id : TaskId} {g : Guard} {u : Update}
    (h : (m.answer now fault (.updateIf id g u)).2 = .ok 0) :
    Idle ⟨m, now, fault, .updateIf id g u⟩ :=
  Memory.updateIf_zero hids h

/-- An update that counts a row moved the record it found. -/
theorem writes_of_pos {id : TaskId} {s : Status} {u : Update} {rows : Nat}
    (h : (m.answer now fault (.updateIf id (Guard.status s) u)).2 = .ok rows) (hrows : 0 < rows) :
    ∃ a, a.id = id ∧ a.status = s ∧
      Writes ⟨m, now, fault, .updateIf id (Guard.status s) u⟩ a u := by
  obtain ⟨a, hmet, hmay, hleft⟩ := Memory.updateIf_ok h hrows
  have hid : a.id = id := (Memory.find?_some hmet).2
  have hstatus : a.status = s := Workshop.status_of_mayChange hmay
  subst hid hstatus
  exact ⟨a, rfl, rfl, rfl, hmet, hleft,
    fun i hi => Memory.find?_updateIf_of_ne hi m now fault _ u⟩

/-- The task that a poll answers is the first of the queue. -/
theorem polled_of_reply (hids : (m.tasks.map Task.id).Nodup) {t : Task}
    (h : (m.answer now fault .oldestQueued).2 = .ok (some t)) :
    Polled ⟨m, now, fault, .oldestQueued⟩ t := by
  obtain ⟨hmem, hqueued⟩ := Memory.oldestQueued_ok h
  have hearliest := (Memory.answer_ok h).2
  simp only [Memory.perform, Except.ok.injEq] at hearliest
  refine ⟨rfl, h, (Memory.find?_eq_some_iff_of_nodup hids).2 ⟨hmem, rfl⟩, hqueued, ?_⟩
  intro u hu huqueued hne
  have hid : t.id ≠ u.id := fun heq => hne (List.inj_on_of_nodup_map hids hu hmem heq.symm)
  have hnot := Memory.not_isBefore_of_earliest? hearliest u
    (List.mem_filter.2 ⟨hu, beq_iff_eq.2 huqueued⟩)
  exact Task.isBefore_of_ne hid hnot

end Request

/-! ## What others leave of a task -/

namespace Memory

variable {m : Memory} {id : TaskId} {P : Task → Prop}

/-- The store has a task under the identifier, of which the property holds. -/
def Holds (m : Memory) (id : TaskId) (P : Task → Prop) : Prop := ∃ u, m.find? id = some u ∧ P u

/-- What no advance undoes is kept by a call. -/
theorem Holds.answer (hP : ∀ u v, Task.Advances u v → P u → P v) (h : m.Holds id P)
    (now : Instant) (fault : Option StoreError) (c : StoreCall) :
    (m.answer now fault c).1.Holds id P := by
  obtain ⟨u, hu, hPu⟩ := h
  obtain ⟨v, hv, hadv⟩ := advances_answer hu now fault c
  exact ⟨v, hv, hP u v hadv hPu⟩

/-- What no advance undoes is kept by whatever others do. -/
theorem Holds.after (hP : ∀ u v, Task.Advances u v → P u → P v) (h : m.Holds id P)
    (es : List StoreEvent) : (m.after es).Holds id P := by
  induction es generalizing m with
  | nil => exact h
  | cons e es ih =>
    obtain ⟨u, hu, hPu⟩ := h
    obtain ⟨v, hv, hadv⟩ := advances_meet hu e
    exact ih ⟨v, hv, hP u v hadv hPu⟩

theorem nodup_ids_after (h : (m.tasks.map Task.id).Nodup) (es : List StoreEvent) :
    ((m.after es).tasks.map Task.id).Nodup := by
  induction es generalizing m with
  | nil => exact h
  | cons e es ih => exact ih ((effect_meet m e).nodup_ids h)

end Memory

namespace Task

/-- The record is that of the task, and the task itself as long as it is queued. -/
def Unclaimed (t u : Task) : Prop := t.SameWork u ∧ (u.status = .queued → u = t)

/-- The record is that of the task, and it has left the queue. -/
def Claimed (t u : Task) : Prop := t.SameWork u ∧ u.status ≠ .queued

theorem Unclaimed.advances {t : Task} (u v : Task) (h : u.Advances v) (hu : t.Unclaimed u) :
    t.Unclaimed v := by
  refine ⟨hu.1.trans h.sameWork, fun hqueued => ?_⟩
  have hsame := h.eq_of_queued hqueued
  rw [hsame]
  exact hu.2 (hsame ▸ hqueued)

theorem Claimed.advances {t : Task} (u v : Task) (h : u.Advances v) (hu : t.Claimed u) :
    t.Claimed v := by
  refine ⟨hu.1.trans h.sameWork, fun hqueued => ?_⟩
  have hsame := h.eq_of_queued hqueued
  exact hu.2 (hsame ▸ hqueued)

/-- What left the queue is in processing or has ended. -/
theorem Claimed.isTerminal {t u : Task} (h : t.Claimed u) (hstatus : u.status ≠ .processing) :
    u.status.isTerminal = true := by
  have hqueued := h.2
  cases hs : u.status <;> simp_all [Status.isTerminal, Status.isActive]

end Task

/-! ## Errands -/

/-- The handler that begins at a point of an attempt. -/
def Attempt.opening {H : Type} : Attempt H → List (Task × H)
  | .handle t h => [(t, h)]
  | _ => []

/-- One attempt in a store that others use. -/
structure Errand (H : Type) where
  memory : Memory
  attempt : Attempt H
  /-- The requests it made, the last first. -/
  calls : List Request
  /-- The handlers that began, each with its task. -/
  begun : List (Task × H)
  /-- How handlers ended. -/
  ended : List HandlerOutcome

namespace Errand

variable {H : Type} {r : Registry H} {e : Errand H}

/-- The errand before its poll. -/
def start (m : Memory) : Errand H := ⟨m, .poll, [], [], []⟩

/-- Others act. -/
def wait (e : Errand H) (es : List StoreEvent) : Errand H :=
  { e with memory := e.memory.after es }

/-- The attempt asks the store and goes where the reply leads; a handler may begin there. -/
def ask (e : Errand H) (now : Instant) (fault : Option StoreError) (c : StoreCall)
    (next : c.Reply → Attempt H) : Errand H where
  memory := (e.memory.answer now fault c).1
  attempt := next (e.memory.answer now fault c).2
  calls := ⟨e.memory, now, fault, c⟩ :: e.calls
  begun := (next (e.memory.answer now fault c).2).opening ++ e.begun
  ended := e.ended

/-- One move of the attempt. -/
def go (r : Registry H) (e : Errand H) (now : Instant) (fault : Option StoreError)
    (outcome : HandlerOutcome) : Errand H :=
  match e.attempt with
  | .handle t h =>
    { e with attempt := (Attempt.handle t h).handled outcome, ended := outcome :: e.ended }
  | a =>
    match a.move r with
    | .call c next => e.ask now fault c fun x => (next x).1
    | _ => e

/-- What others do, and then one move of the attempt: a call at a reading of the clock, which may
fail, or the end of the handler with an outcome. -/
structure Beat where
  others : List StoreEvent
  now : Instant
  fault : Option StoreError
  outcome : HandlerOutcome

/-- One beat. -/
def beat (r : Registry H) (e : Errand H) (b : Beat) : Errand H :=
  (e.wait b.others).go r b.now b.fault b.outcome

/-- The errand after some beats. -/
def after (r : Registry H) (e : Errand H) (bs : List Beat) : Errand H := bs.foldl (beat r) e

/-- A reply leads an attempt by one of five ways. -/
theorem follows_of_move {a : Attempt H} {c : StoreCall} {next : c.Reply → Attempt H × List Event}
    (h : a.move r = .call c next) (reply : c.Reply) :
    Attempt.Follows r a c reply (next reply).1 := by
  have hmove : (Party.attempt r a).move .epoch ⟨0, by decide⟩ =
      .call c fun x => (.attempt r (next x).1, (next x).2) := by
    rw [Party.move, h]
    rfl
  exact Party.follows_of_asks (Party.asks_of_move hmove) rfl

/-- Every move brings an errand nearer to its end. -/
theorem stepsLeft_go (e : Errand H) (now : Instant) (fault : Option StoreError)
    (outcome : HandlerOutcome) :
    (e.go r now fault outcome).attempt.stepsLeft ≤ e.attempt.stepsLeft - 1 := by
  obtain ⟨m, a, calls, begun, ended⟩ := e
  cases a with
  | handle t h => exact Nat.le_refl 1
  | done x => exact Nat.le_refl 0
  | poll =>
    exact Nat.le_sub_one_of_lt ((follows_of_move (r := r) rfl _).stepsLeft_lt (Nat.succ_pos 4))
  | claim t =>
    exact Nat.le_sub_one_of_lt ((follows_of_move (r := r) rfl _).stepsLeft_lt (Nat.succ_pos 3))
  | recheck t =>
    exact Nat.le_sub_one_of_lt ((follows_of_move (r := r) rfl _).stepsLeft_lt (Nat.succ_pos 2))
  | complete t v =>
    exact Nat.le_sub_one_of_lt ((follows_of_move (r := r) rfl _).stepsLeft_lt (Nat.succ_pos 0))

/-- What a move does to the stored tasks, it does by one call at most. -/
theorem effect_go (e : Errand H) (now : Instant) (fault : Option StoreError)
    (outcome : HandlerOutcome) :
    Memory.Effect e.memory.tasks (e.go r now fault outcome).memory.tasks := by
  obtain ⟨m, a, calls, begun, ended⟩ := e
  cases a with
  | handle t h => exact .keep
  | done x => exact .keep
  | poll | claim t | recheck t | complete t v => exact Memory.effect_answer m now fault _

/-- Every beat brings an errand nearer to its end. -/
theorem stepsLeft_after (e : Errand H) (bs : List Beat) :
    (e.after r bs).attempt.stepsLeft ≤ e.attempt.stepsLeft - bs.length := by
  induction bs generalizing e with
  | nil => exact Nat.le_refl _
  | cons b bs ih =>
    have hbeat := stepsLeft_go (r := r) (e.wait b.others) b.now b.fault b.outcome
    have hrest := ih (e.beat r b)
    simp only [after, List.foldl_cons, List.length_cons, beat, wait] at hbeat hrest ⊢
    omega

/-- After five beats an errand has ended. -/
theorem ends (m : Memory) {bs : List Beat} (h : 5 ≤ bs.length) :
    ∃ x, ((start m : Errand H).after r bs).attempt = .done x := by
  have hzero : ((start m : Errand H).after r bs).attempt.stepsLeft = 0 := by
    have hfive : (start m : Errand H).attempt.stepsLeft = 5 := rfl
    have hbs := stepsLeft_after (r := r) (start m) bs
    omega
  cases ha : ((start m : Errand H).after r bs).attempt with
  | done x => exact ⟨x, rfl⟩
  | _ =>
    rw [ha] at hzero
    exact absurd hzero (Nat.succ_ne_zero _)

end Errand

end Backlog
