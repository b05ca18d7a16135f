import Backlog.Proofs.Store.Count
import Backlog.Proofs.Store.Match
import Backlog.Proofs.Workshop.Claims
/-!
# Loops that empty the queue

A drain is a store in memory with loops that work on it and nobody else.  A loop makes one attempt
after the other and collects the tasks it answered with, until an attempt first finds nothing; that
loop is over.  Loops take turns in any order.  A turn is one call of the store, a handler ends when
it ends, and after an attempt that found something the loop goes on to the next as a step of its
own.  Nobody turns the store off, so no call fails.

The difficulty is that an attempt finds nothing in two ways: the queue was empty, or its claim was
lost to another loop.  So a loop can be over while tasks are queued, and what the calls of an attempt
can come to is listed with the state of the store that they show (`Called`).

## Main results

* `called_of_move` — what a call of an attempt comes to, in six cases.
* `moves_of_event` — what can happen to a drain, in three cases.
-/

namespace Backlog

variable {H : Type}

/-- A loop of attempts. -/
structure Loop (H : Type) where
  registry : Registry H
  attempt : Attempt H
  /-- The tasks it has answered with, the last one first. -/
  answers : List Processed

/-- A store and the loops that work on it. -/
structure Drain (H : Type) where
  memory : Memory
  loops : List (Loop H)
  /-- The calls of the store, the last one first; the party of a call is the place of its loop. -/
  history : List (Deed H)

/-- Something that happens to a drain. -/
inductive DrainEvent where
  /-- A loop makes its next call of the store. -/
  | turn (place : Nat) (now : Instant)
  /-- The handler of a loop ends. -/
  | finish (place : Nat) (outcome : HandlerOutcome)
  /-- A loop whose attempt found something begins the next. -/
  | goOn (place : Nat)

/-- The loop that an event is about. -/
def DrainEvent.place : DrainEvent → Nat
  | turn j _ | finish j _ | goOn j => j

/-- Whether an attempt has found nothing. -/
def Attempt.isIdle : Attempt H → Bool
  | .done (.ok none) => true
  | _ => false

/-- Whether an event is the next thing that happens to an attempt. -/
def DrainEvent.suits : DrainEvent → Attempt H → Bool
  | turn _ _, .poll | turn _ _, .claim _ | turn _ _, .recheck _ | turn _ _, .complete _ _ => true
  | finish _ _, .handle _ _ => true
  | goOn _, .done (.ok (some _)) => true
  | _, _ => false

namespace Drain

/-- Loops of these engines before their first call. -/
def start (m : Memory) (rs : List (Registry H)) : Drain H :=
  ⟨m, rs.map fun r => ⟨r, .poll, []⟩, []⟩

/-- The attempt of a loop goes on. -/
def advance (d : Drain H) (j : Nat) (l : Loop H) (b : Attempt H) : Drain H :=
  { d with loops := d.loops.set j { l with attempt := b } }

/-- The attempt of a loop calls the store and goes where the reply leads. -/
def ask (d : Drain H) (j : Nat) (l : Loop H) (now : Instant) (c : StoreCall)
    (b : Attempt H) : Drain H :=
  { memory := (d.memory.exec now c).1
    loops := d.loops.set j { l with attempt := b }
    history := .call j d.memory c (d.memory.exec now c).2 :: d.history }

/-- A loop takes note of what its attempt found, and begins the next. -/
def note (d : Drain H) (j : Nat) (l : Loop H) (x : Processed) : Drain H :=
  { d with loops := d.loops.set j { l with attempt := .poll, answers := x :: l.answers } }

/-- A drain after something happened; what no loop waits for changes nothing. -/
def step (d : Drain H) (x : DrainEvent) : Drain H :=
  match d.loops[x.place]? with
  | none => d
  | some l =>
    match x, l.attempt with
    | .turn j now, a =>
      match a.move l.registry with
      | .call c next => d.ask j l now c (next (d.memory.exec now c).2).1
      | _ => d
    | .finish j outcome, .handle t k => d.advance j l ((Attempt.handle t k).handled outcome)
    | .goOn j, .done (.ok (some x)) => d.note j l x
    | _, _ => d

/-- A drain after a run. -/
def after (d : Drain H) (xs : List DrainEvent) : Drain H := xs.foldl step d

/-- Whether an event is the next thing that happens to its loop. -/
def awaits (d : Drain H) (x : DrainEvent) : Bool :=
  (d.loops[x.place]?).any fun l => x.suits l.attempt

/-- Whether all loops are over. -/
def isOver (d : Drain H) : Bool := d.loops.all fun l => l.attempt.isIdle

end Drain

/-! ## What a call comes to -/

/-- What the calls of an attempt come to at a store that does not fail, while the task it holds is
left to it. -/
inductive Called (r : Registry H) (m : Memory) :
    Attempt H → (c : StoreCall) → c.Reply → Attempt H → Prop where
  | found {t : Task} (stored : t ∈ m.tasks) (queued : t.status = .queued) :
      Called r m .poll .oldestQueued (.ok (some t)) (.claim t)
  | nothing (empty : m.tally .queued = 0) :
      Called r m .poll .oldestQueued (.ok none) (.done (.ok none))
  | won {t : Task} : Called r m (.claim t)
      (.updateIf t.id (Guard.status .queued) Update.claim) (.ok 1) (.recheck t)
  | lost {t : Task} : Called r m (.claim t)
      (.updateIf t.id (Guard.status .queued) Update.claim) (.ok 0) (.done (.ok none))
  | dispatched {t : Task} {reply : Except StoreError (Option Task)} :
      Called r m (.recheck t) (.get t.id) reply (Attempt.dispatch r t)
  | stored {t : Task} {v : Except String Json} {x : Processed} : Called r m (.complete t v)
      (.updateIf t.id (Guard.status .processing) (Attempt.verdictUpdate v)) (.ok 1)
      (.done (.ok (some x)))

/-- What a loop holds is in processing. -/
def Attempt.Holds (m : Memory) (a : Attempt H) : Prop :=
  ∀ t, a.claimed? = some t → ∃ u, m.find? t.id = some u ∧ u.status = .processing

/-- An update is counted once at most. -/
theorem updateIf_reply {m : Memory} (hon : m.online = true) (now : Instant) (id : TaskId)
    (g : Guard) (u : Update) : (m.exec now (.updateIf id g u)).2 = .ok 0 ∨
      (m.exec now (.updateIf id g u)).2 = .ok 1 := by
  rw [Memory.exec_of_online hon]
  show (.ok (Memory.changes m.tasks id g u) : Except StoreError Nat) = .ok 0 ∨ _
  have hle : Memory.changes m.tasks id g u ≤ 1 := Memory.changes_le_one _ _ _ _
  rcases Nat.le_one_iff_eq_zero_or_eq_one.1 hle with h | h
  · exact Or.inl (congrArg _ h)
  · exact Or.inr (congrArg _ h)

/-- The poll finds a queued task, or there is none. -/
theorem called_poll {r : Registry H} {m : Memory} (hon : m.online = true) (now : Instant) :
    Called r m .poll .oldestQueued (m.exec now .oldestQueued).2
      (Attempt.polled (m.exec now .oldestQueued).2).1 := by
  have hreply : (m.exec now .oldestQueued).2 =
      .ok (Memory.earliest? (m.tasks.filter fun t => t.status == .queued)) := by
    rw [Memory.exec_of_online hon]
    rfl
  rw [hreply]
  cases hfirst : Memory.earliest? (m.tasks.filter fun t => t.status == .queued) with
  | some t =>
      obtain ⟨hmem, hqueued⟩ := List.mem_filter.1 (Memory.mem_of_earliest? hfirst)
      exact .found hmem (eq_of_beq hqueued)
  | none =>
      refine .nothing ?_
      rw [Memory.tally, List.countP_eq_length_filter, Memory.earliest?_eq_none_iff.1 hfirst,
        List.length_nil]

/-- The second look finds the task in processing. -/
theorem called_recheck {r : Registry H} {m : Memory} (hon : m.online = true) (now : Instant)
    {t : Task} (hholds : (Attempt.recheck t : Attempt H).Holds m) :
    Called r m (.recheck t) (.get t.id) (m.exec now (.get t.id)).2
      (Attempt.rechecked r t (m.exec now (.get t.id)).2).1 := by
  obtain ⟨u, hu, hprocessing⟩ := hholds t rfl
  have hreply : (m.exec now (.get t.id)).2 = .ok (some u) := by
    rw [Memory.exec_of_online hon]
    exact congrArg _ hu
  rw [hreply]
  simp only [Attempt.rechecked, if_pos hprocessing]
  exact .dispatched

/-- The outcome of a task in processing is stored. -/
theorem called_complete {r : Registry H} {m : Memory} (hon : m.online = true) (now : Instant)
    {t : Task} {v : Except String Json} (hholds : (Attempt.complete t v : Attempt H).Holds m) :
    Called r m (.complete t v)
      (.updateIf t.id (Guard.status .processing) (Attempt.verdictUpdate v))
      (m.exec now (.updateIf t.id (Guard.status .processing) (Attempt.verdictUpdate v))).2
      (Attempt.completed t v (m.exec now
        (.updateIf t.id (Guard.status .processing) (Attempt.verdictUpdate v))).2).1 := by
  obtain ⟨u, hu, hprocessing⟩ := hholds t rfl
  have hmay : (Attempt.verdictUpdate v).mayChange (Guard.status .processing) u = true := by
    simp only [Update.mayChange, Guard.status, Guard.allows, hprocessing]
    cases v <;> rfl
  rcases updateIf_reply hon now t.id (Guard.status .processing) (Attempt.verdictUpdate v) with
    hr | hr
  · have hanswer : (m.answer now none (.updateIf t.id (Guard.status .processing)
      (Attempt.verdictUpdate v))).2 = .ok 0 := hr
    exact absurd hmay (Memory.mayChange_of_zero hanswer hu)
  · rw [hr]
    cases v <;> exact .stored

/-- What a call of an attempt comes to. -/
theorem called_of_move {r : Registry H} {m : Memory} (hon : m.online = true) (now : Instant)
    {a : Attempt H} (hholds : a.Holds m) {c : StoreCall}
    {next : c.Reply → Attempt H × List Event} (h : a.move r = .call c next) :
    Called r m a c (m.exec now c).2 (next (m.exec now c).2).1 := by
  cases a with
  | poll =>
      cases h
      exact called_poll hon now
  | claim t =>
      cases h
      rcases updateIf_reply hon now t.id (Guard.status .queued) Update.claim with hr | hr
      · rw [hr]
        exact .lost
      · rw [hr]
        exact .won
  | recheck t =>
      cases h
      exact called_recheck hon now hholds
  | complete t v =>
      cases h
      exact called_complete hon now hholds
  | handle t k | done result => cases h

namespace Drain

variable {d d' : Drain H}

/-- What can happen to a drain. -/
inductive Moves (d : Drain H) : Drain H → Prop where
  | call {j : Nat} {l : Loop H} {now : Instant} {c : StoreCall} {b : Attempt H}
      (stands : d.loops[j]? = some l)
      (called : Called l.registry d.memory l.attempt c (d.memory.exec now c).2 b) :
      Moves d (d.ask j l now c b)
  | handled {j : Nat} {l : Loop H} {t : Task} {k : H} (stands : d.loops[j]? = some l)
      (running : l.attempt = .handle t k) (outcome : HandlerOutcome) :
      Moves d (d.advance j l (.complete t outcome.verdict))
  | goOn {j : Nat} {l : Loop H} {x : Processed} (stands : d.loops[j]? = some l)
      (ended : l.attempt = .done (.ok (some x))) : Moves d (d.note j l x)

/-- What an event does: what its loop waited for, in one of three cases, or nothing. -/
theorem moves_of_event (hon : d.memory.online = true)
    (hholds : ∀ l ∈ d.loops, l.attempt.Holds d.memory) (x : DrainEvent) :
    (d.awaits x = true ∧ d.Moves (d.step x)) ∨ (d.awaits x = false ∧ d.step x = d) := by
  unfold awaits step
  cases hl : d.loops[x.place]? with
  | none => exact Or.inr ⟨rfl, rfl⟩
  | some l =>
      have hmem : l ∈ d.loops := List.mem_of_getElem? hl
      cases x with
      | turn j now =>
          simp only [Option.any_some]
          cases hm : l.attempt.move l.registry with
          | call c next =>
              refine Or.inl ⟨?_, .call hl (called_of_move hon now (hholds l hmem) hm)⟩
              cases ha : l.attempt <;> rw [ha] at hm <;> first | rfl | cases hm
          | signal b => cases ha : l.attempt <;> rw [ha] at hm <;> cases hm
          | rest =>
              refine Or.inr ⟨?_, rfl⟩
              cases ha : l.attempt <;> rw [ha] at hm <;> first | rfl | cases hm
      | finish j outcome =>
          simp only [Option.any_some]
          cases ha : l.attempt with
          | handle t k => exact Or.inl ⟨rfl, .handled hl ha outcome⟩
          | _ => exact Or.inr ⟨rfl, rfl⟩
      | goOn j =>
          simp only [Option.any_some]
          cases ha : l.attempt with
          | done result =>
              rcases result with e | _ | y
              · exact Or.inr ⟨rfl, rfl⟩
              · exact Or.inr ⟨rfl, rfl⟩
              · exact Or.inl ⟨rfl, .goOn hl ha⟩
          | _ => exact Or.inr ⟨rfl, rfl⟩

end Drain

end Backlog
