import Backlog.Config.Engine
import Backlog.Engine.Outcome
import Backlog.Engine.Sweep
import Backlog.Proofs.Store.History
import Backlog.Proofs.Time.Difference
/-!
# What a sweep fails

A sweep is to fail the tasks that have been in processing for longer than the limit, no others and
none of them too early.  The law is said with an exact difference, the reading of the clock less the
time of the last change (`Task.IsOverdue`), while the sweep itself computes a cutoff and leaves the
comparison to the store.  The two agree at both ends of the calendar and at equality
(`isStale_minus_iff`), for every store, so what a sweep writes, what it answers and what the counts
of the engine grow by are said with the exact law alone.

What a sweep has failed is no longer in processing.  That is why a second sweep at the same reading
finds nothing, whatever the clock of the store says by then.

## Main results

* `isStale_minus_iff` — what the store takes for stale is overdue.
* `Books.sweep_online`, `Books.sweep_refused` — a sweep of a store that can be reached, and of one
  that cannot.
* `Books.sweep_exact` — the law of a sweep.
-/

namespace Backlog

/-- Whether a task is in processing and, at a reading of the clock, was last changed longer ago than
the limit. -/
def Task.IsOverdue (now : Instant) (limit : Duration) (t : Task) : Prop :=
  t.status = .processing ∧ (limit.nanos : Int) < now.nanos - t.updatedAt.mark

instance (now : Instant) (limit : Duration) (t : Task) : Decidable (t.IsOverdue now limit) :=
  inferInstanceAs (Decidable (_ ∧ _))

/-- A task that a sweep fails when the clock of the store reads `clock`. -/
def Task.timedOut (clock : Instant) (t : Task) : Task :=
  { t with
    status := .failed, result := none, error := some "task processing timeout", updatedAt := clock }

/-- The tasks after a sweep that reads `now`, made when the clock of the store reads `clock`. -/
def Task.sweptAt (now : Instant) (limit : Duration) (clock : Instant) (ts : List Task) :
    List Task :=
  ts.map fun t => if t.IsOverdue now limit then t.timedOut clock else t

/-- How many tasks are overdue. -/
def Task.overdueIn (now : Instant) (limit : Duration) (ts : List Task) : Nat :=
  ts.countP fun t => t.IsOverdue now limit

/-- A store together with the counts of an engine that works on it. -/
structure Books where
  memory : Memory
  stats : Stats

namespace Memory

variable {now : Instant} {limit : Duration}

/-- What the store takes for stale before a cutoff is overdue. -/
theorem isStale_minus_iff (h : now.isRegular = true) (t : Task) :
    isStale (now.minus limit) t = true ↔ t.IsOverdue now limit := by
  rw [isStale, Bool.and_eq_true, beq_iff_eq, Instant.before_minus_iff_mark h]
  rfl

/-- A sweep of the store, said by what is overdue. -/
theorem perform_failStale (h : now.isRegular = true) (m : Memory) (clock : Instant) :
    m.perform clock (.failStale (now.minus limit) Sweep.timeoutMessage) =
      (Task.sweptAt now limit clock m.tasks, .ok (Task.overdueIn now limit m.tasks)) := by
  have hstale : isStale (now.minus limit) = fun t => decide (t.IsOverdue now limit) := by
    funext t
    rw [Bool.eq_iff_iff, isStale_minus_iff h, decide_eq_true_iff]
  simp only [perform, hstale, decide_eq_true_eq]
  rfl

end Memory

namespace Task

variable {now : Instant} {limit : Duration} {clock : Instant} {ts : List Task}

/-- What has been failed is overdue no more. -/
theorem not_isOverdue_of_sweptAt {t : Task} (h : t ∈ sweptAt now limit clock ts) :
    ¬ t.IsOverdue now limit := by
  obtain ⟨u, _, rfl⟩ := List.mem_map.1 h
  split
  · rintro ⟨hstatus, _⟩
    cases hstatus
  · next hnot => exact hnot

/-- A sweep of tasks none of which is overdue changes nothing and counts none. -/
theorem sweptAt_of_none (h : ∀ t ∈ ts, ¬ t.IsOverdue now limit) (clock : Instant) :
    sweptAt now limit clock ts = ts ∧ overdueIn now limit ts = 0 := by
  constructor
  · rw [sweptAt, List.map_congr_left fun t ht => if_neg (h t ht), List.map_id']
  · refine List.countP_eq_zero.2 fun t ht => ?_
    rw [decide_eq_true_eq]
    exact h t ht

/-- Nothing is overdue as long as the limit reaches back beyond the calendar. -/
theorem not_isOverdue_of_early (h : now.nanos - limit.nanos < Instant.earliest.nanos) (t : Task) :
    ¬ t.IsOverdue now limit := by
  rintro ⟨_, hlong⟩
  have hlow := t.updatedAt.earliest_le_mark
  omega

end Task

namespace Books

/-- The limit on processing that an engine of these settings goes by. -/
abbrev limitOf (config : EngineConfig) : Duration := config.normalized.processingLimit

/-- A sweep at a reading of the clock by an engine of these settings, and its answer.  Its call of
the store is made when the clock reads `clock`; with a fault the call ends before it reaches the
store.  Its answer is counted, and a failure too if a loop made the sweep. -/
def sweep (config : EngineConfig) (now clock : Instant) (fault : Option StoreError) (byLoop : Bool)
    (b : Books) : Books × Except StoreError Nat :=
  match (Sweep.start now (limitOf config)).move with
  | .call c next =>
    let after := (b.memory.answer clock fault c).1
    let result := (next (b.memory.answer clock fault c).2).1.result?.getD (.ok 0)
    (⟨after, b.stats.swept byLoop result⟩, result)
  | _ => (b, .ok 0)

variable {config : EngineConfig} {now : Instant} {b : Books}

/-- What an engine asks of the store, and what it makes of the reply. -/
theorem sweep_eq (config : EngineConfig) (now clock : Instant) (fault : Option StoreError)
    (byLoop : Bool) (b : Books) : b.sweep config now clock fault byLoop =
      (⟨(b.memory.answer clock fault
          (.failStale (now.minus (limitOf config)) Sweep.timeoutMessage)).1,
        b.stats.swept byLoop (b.memory.answer clock fault
          (.failStale (now.minus (limitOf config)) Sweep.timeoutMessage)).2⟩,
        (b.memory.answer clock fault
          (.failStale (now.minus (limitOf config)) Sweep.timeoutMessage)).2) := by
  simp only [sweep, Sweep.start, Sweep.move]
  cases (b.memory.answer clock fault
    (.failStale (now.minus (limitOf config)) Sweep.timeoutMessage)).2 <;> rfl

/-- The store and the counts after a sweep: what is overdue has been failed and counted. -/
def swept (now : Instant) (limit : Duration) (clock : Instant) (b : Books) : Books where
  memory := { b.memory with tasks := Task.sweptAt now limit clock b.memory.tasks }
  stats :=
    { b.stats with reaped := b.stats.reaped + Task.overdueIn now limit b.memory.tasks }

/-- A sweep of a store that can be reached fails and counts what is overdue. -/
theorem sweep_online (h : now.isRegular = true) (hon : b.memory.online = true) (clock : Instant)
    (byLoop : Bool) : b.sweep config now clock none byLoop =
      (b.swept now (limitOf config) clock,
        .ok (Task.overdueIn now (limitOf config) b.memory.tasks)) := by
  rw [sweep_eq, Memory.answer, Memory.exec_of_online hon, Memory.perform_failStale h]
  rfl

/-- A sweep of a store that cannot be reached ends in an error and changes nothing; a loop counts
the error. -/
theorem sweep_refused {fault : Option StoreError}
    (h : fault.isSome = true ∨ b.memory.online = false)
    (now clock : Instant) (byLoop : Bool) : ∃ e, b.sweep config now clock fault byLoop =
      (⟨b.memory, if byLoop then b.stats.countError else b.stats⟩, .error e) := by
  rw [sweep_eq]
  cases fault with
  | some e => exact ⟨e, rfl⟩
  | none =>
      rcases h with hsome | hoff
      · cases hsome
      · refine ⟨.unavailable "in-memory store offline", ?_⟩
        rw [Memory.answer, Memory.exec_offline hoff]
        rfl

/-- A sweep fails exactly if its call of the store does. -/
theorem sweep_fails_iff (h : now.isRegular = true) {clock : Instant} {fault : Option StoreError}
    {byLoop : Bool} : (∃ e, (b.sweep config now clock fault byLoop).2 = .error e) ↔
      fault.isSome = true ∨ b.memory.online = false := by
  constructor
  · rintro ⟨e, herror⟩
    cases fault with
    | some e' => exact Or.inl rfl
    | none =>
        refine Or.inr (Bool.eq_false_iff.2 fun hon => ?_)
        rw [sweep_online h hon] at herror
        cases herror
  · intro hrefused
    obtain ⟨e, heq⟩ := sweep_refused hrefused now clock byLoop
    exact ⟨e, by rw [heq]⟩

/-- What a sweep that reads `now` is to do, by an engine of these settings. -/
structure SweepLaw (config : EngineConfig) (now : Instant) (b : Books) : Prop where
  /-- A task whose last change was in no leap second is overdue exactly if it is in processing and
  the exact time since is longer than the limit. -/
  exact : ∀ t : Task, t.updatedAt.isRegular = true → (t.IsOverdue now (limitOf config) ↔
    t.status = .processing ∧ ((limitOf config).nanos : Int) < now.nanos - t.updatedAt.nanos)
  /-- The tasks that are overdue are failed, all others are left alone, and the answer is the number
  of those that were failed, by which the count of the engine grows. -/
  done : b.memory.online = true → ∀ clock byLoop,
    b.sweep config now clock none byLoop =
      (⟨{ b.memory with
          tasks := b.memory.tasks.map fun t =>
            if t.IsOverdue now (limitOf config) then
              { t with
                status := .failed, result := none, error := some "task processing timeout",
                updatedAt := clock }
            else t },
        { b.stats with
          reaped := b.stats.reaped +
            b.memory.tasks.countP fun t => t.IsOverdue now (limitOf config) }⟩,
        .ok (b.memory.tasks.countP fun t => t.IsOverdue now (limitOf config)))
  /-- Where the limit reaches back beyond the calendar, nothing is failed. -/
  beyond : b.memory.online = true → now.nanos - (limitOf config).nanos < Instant.earliest.nanos →
    ∀ clock byLoop, b.sweep config now clock none byLoop = (b, .ok 0)
  /-- A second sweep at the same reading fails nothing. -/
  again : b.memory.online = true → ∀ clock later byLoop byLoop',
    (b.sweep config now clock none byLoop).1.sweep config now later none byLoop' =
      ((b.sweep config now clock none byLoop).1, .ok 0)
  /-- A sweep fails exactly if its call of the store does. -/
  fails : ∀ clock fault byLoop, (∃ e, (b.sweep config now clock fault byLoop).2 = .error e) ↔
    fault.isSome = true ∨ b.memory.online = false
  /-- A sweep that fails changes nothing in the store, and of the counts at most that of the errors
  that loops have met. -/
  refused : ∀ clock fault byLoop e, (b.sweep config now clock fault byLoop).2 = .error e →
    (b.sweep config now clock fault byLoop).1 =
      ⟨b.memory, if byLoop then b.stats.countError else b.stats⟩

/-- A sweep of a store in which nothing is overdue changes nothing. -/
theorem sweep_of_none (b : Books) (h : now.isRegular = true) (hon : b.memory.online = true)
    (hnone : ∀ t ∈ b.memory.tasks, ¬ t.IsOverdue now (limitOf config)) (clock : Instant)
    (byLoop : Bool) : b.sweep config now clock none byLoop = (b, .ok 0) := by
  obtain ⟨htasks, hcount⟩ := Task.sweptAt_of_none hnone clock
  rw [sweep_online h hon, swept, htasks, hcount]
  rfl

/-- **The law of a sweep.**  At every regular reading of the clock, for all settings and every
store. -/
theorem sweep_exact (config : EngineConfig) {now : Instant} (h : now.isRegular = true) (b : Books) :
    b.SweepLaw config now := by
  constructor
  case exact =>
    intro t ht
    rw [Task.IsOverdue, Instant.mark_of_isRegular ht]
  case done => exact fun hon clock byLoop => sweep_online h hon clock byLoop
  case beyond =>
    intro hon hearly clock byLoop
    exact sweep_of_none b h hon (fun t _ => Task.not_isOverdue_of_early hearly t) clock byLoop
  case again =>
    intro hon clock later byLoop byLoop'
    rw [sweep_online h hon]
    refine sweep_of_none (b.swept now (limitOf config) clock) h hon ?_ later byLoop'
    exact fun t ht => Task.not_isOverdue_of_sweptAt ht
  case fails => exact fun clock fault byLoop => sweep_fails_iff h
  case refused =>
    intro clock fault byLoop e herror
    obtain ⟨e', heq⟩ := sweep_refused ((sweep_fails_iff h).1 ⟨e, herror⟩) now clock byLoop
    rw [heq]

/-- Two tasks in processing, one last changed at the epoch and the other a nanosecond before. -/
def onEitherSide : Books where
  memory :=
    ⟨[Memory.invoiceTask .processing,
      { Memory.invoiceTask .processing with
        id := .v7 0 1, target := "inv2", updatedAt := Instant.epoch.minus (.saturating 1) }], true⟩
  stats := Stats.zero

/-- An hour after the epoch. -/
def anHourIn : Instant := Instant.epoch.plusMillis 3600000

/-- An engine that allows an hour fails the second of the two tasks an hour after the epoch. -/
theorem sweep_exact_at_the_limit :
    anHourIn.isRegular = true ∧
    (onEitherSide.sweep .default anHourIn .epoch none false).2 = .ok 1 ∧
    onEitherSide.SweepLaw .default anHourIn :=
  ⟨by decide, by decide +kernel, sweep_exact .default (by decide) onEitherSide⟩

end Books

end Backlog
