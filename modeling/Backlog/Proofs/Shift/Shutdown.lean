import Backlog.Proofs.Shift.Basic
/-!
# Shutting down

Whoever stops an engine gives the signal and waits until both loops have ended.  The signal can
come while the worker polls, while a handler runs, while an outcome is stored or while the loop
rests, and together with a wake signal, with the end of a rest and with a tick.  Whenever it comes,
and however the loops choose between what is ready, the same holds.

The worker begins no further attempt, since it looks at the signal before each; but an attempt that
has begun it does not leave (`Manned`), so that one is carried to its end, with the write of the
outcome if a handler ran.  So when the caller returns, whatever the worker has claimed is done with,
and only a store error can have left a task in processing.

The sweep loop looks at its timer and at the signal together, so it may sweep once more if a sweep
is due.  How often it does so is a matter of time.  The tick after a sweep is fixed when the sweep
begins and is still to come then.  A loop that is back at its look before that tick finds the signal
alone and ends, so it has swept once at most (`Winding`); a loop that is back later finds both again.
That it is back in time is a property of the run (`Prompt`), and `second_sweep_and_late_claim` has a
run without it.

A task that is queued at the signal stays queued, unless somebody else takes it.  The attempt that
is under way at the signal may be one that has not claimed a task yet, and it goes on to claim one.
It is the only attempt of the loop that can.

Nothing stands in the way of the end either: from wherever the loops are at the signal, their own
turns bring the caller back (`Told.finishes`).

## Main results

* `Since.step` — what has happened since the signal.
* `Winding.step` — how often a loop that is in time has swept since the signal.
* `Told.finishes` — a shutdown can always be completed.
* `shutdown_graceful` — what a shutdown does and leaves, on every run.
* `second_sweep_and_late_claim` — what a shutdown does not exclude.
-/

namespace Backlog

variable {H : Type}

/-- How many turns a loop that was told to stop still takes. -/
def Worker.stepsLeft (k : Worker H) : Nat :=
  match k.point with
  | .attempting a => 2 + a.stepsLeft
  | .ready | .tired _ | .resting _ => 1
  | .stopped => 0

/-- How many turns a sweep loop that was told to stop still takes, if it does not sweep again. -/
def Sweeper.stepsLeft : Sweeper → Nat
  | .sweeping (.write _) _ => 3
  | .sweeping (.done _) _ => 2
  | .waiting _ => 1
  | .stopped => 0

/-- The tick that a sweep loop has ahead of it, as long as it has not rested since its start or its
last sweep. -/
def Sweeper.tickAhead? (awake : Bool) : Sweeper → Option Nat
  | .waiting due => if awake then some due else none
  | .sweeping _ next => some next
  | .stopped => none

theorem Sweeper.tickAhead?_attend (awake : Bool) (k : Sweeper) (p : Option (Party H)) :
    (k.attend p).tickAhead? awake = k.tickAhead? awake := by
  unfold attend
  split
  · split <;> rfl
  · rfl

theorem Sweeper.eq_of_tickAhead? {awake : Bool} {due tick : Nat}
    (h : (Sweeper.waiting due).tickAhead? awake = some tick) : tick = due := by
  cases awake with
  | false => cases h
  | true => exact (Option.some.inj h).symm

namespace Watch

variable {ours : Nat → Bool} {w w' : Watch H}

/-- A loop that was told to stop begins nothing. -/
theorem begins_of_stopping (h : w.stopping = true) (y : Moment H) : w.begins y = false := by
  unfold begins
  split
  · split
    · rw [h]
      rfl
    · rfl
  · rfl

/-- A loop that begins nothing keeps to the place of its attempt, and when it has yet to claim a
task it had yet to do so before. -/
theorem Manned.keeps (ht : Turns ours w w' false) {places : List Nat} (h : w.Manned places) :
    w'.place = w.place ∧ ∀ b, w'.worker.attempt? = some b → b.isSeeking = true →
      ∃ a, w.worker.attempt? = some a ∧ a.isSeeking = true := by
  have hmanned := h.step ht
  cases ht with
  | shop x =>
      refine ⟨rfl, fun b hb hseeks => ?_⟩
      have hs := w.shop.step_of_happening x
      cases ha : w.worker.attempt? with
      | none =>
          have hsame := Worker.attend_of_none ha ((w.shop.step x).parties[w.place]?)
          simp only [hsame, ha] at hb
          cases hb
      | some a => exact ⟨a, rfl, hs.seeking (h.here a ha).2 (hmanned.here b hb).2 hseeks⟩
  | apart stays _ _ _ _ => exact ⟨rfl, fun b hb hseeks => ⟨b, stays b hb, hseeks⟩⟩

end Watch

/-- A sweep came of the look. -/
def Pick.isSweep : Pick → Bool
  | .swept _ _ _ => true
  | .ended => false

/-- A sweep came of the look, and it was due when it began. -/
def Pick.IsLate : Pick → Prop
  | .swept due begun _ => due ≤ begun
  | .ended => False

/-- What came of the looks of a sweep loop that was told to stop, the last look first: it sweeps
only when it is due, and when it has ended it looks no more. -/
inductive FurtherPicks (stopped : Bool) : List Pick → Prop where
  | going {new : List Pick} (late : ∀ p ∈ new, p.IsLate) : FurtherPicks stopped new
  | ended {new : List Pick} (last : stopped = true) (late : ∀ p ∈ new, p.IsLate) :
      FurtherPicks stopped (.ended :: new)

/-- As long as the loop has not ended, all its looks led to sweeps. -/
theorem FurtherPicks.late {new : List Pick} (h : FurtherPicks false new) : ∀ p ∈ new, p.IsLate := by
  cases h with
  | going late => exact late
  | ended last _ => cases last

namespace Shift

variable {ours : Nat → Bool} {s s₀ s' : Shift H}

/-- How many sweeps the loop has begun. -/
def sweeps (s : Shift H) : Nat := s.picks.countP Pick.isSweep

/-! ## Sweep loops in time -/

/-- Whether a beat leaves the sweep loop in time, once it has begun more than so many sweeps: its
next tick does not come before it has looked again. -/
def IsPrompt (count : Nat) (s : Shift H) : Beat H → Prop
  | .pass nanos =>
    count < s.sweeps → ∀ tick ∈ s.sweeper.tickAhead? s.awake, s.now + nanos < tick
  | _ => True

instance (count : Nat) (s : Shift H) (b : Beat H) : Decidable (s.IsPrompt count b) :=
  match b with
  | .pass nanos =>
    inferInstanceAs (Decidable
      (count < s.sweeps → ∀ tick ∈ s.sweeper.tickAhead? s.awake, s.now + nanos < tick))
  | .moment _ | .look _ _ | .conclude | .join => isTrue trivial

/-- A run in which every sweep but the first so many is over, and the loop has looked again, before
the next tick comes. -/
def Prompt (ours : Nat → Bool) (count : Nat) : Shift H → List (Beat H) → Prop
  | _, [] => True
  | s, b :: bs => s.IsPrompt count b ∧ Prompt ours count (s.step ours b) bs

instance decidablePrompt (ours : Nat → Bool) (count : Nat) :
    (s : Shift H) → (bs : List (Beat H)) → Decidable (Prompt ours count s bs)
  | _, [] => isTrue trivial
  | s, b :: bs =>
    have := decidablePrompt ours count (s.step ours b) bs
    inferInstanceAs (Decidable (s.IsPrompt count b ∧ _))

/-! ## What has happened since the signal -/

/-- What was queued in the state `s₀` is as it was, unless it was touched since: by somebody else,
or by the attempt that was under way and had yet to claim a task. -/
def SparesQueue (s₀ s : Shift H) : Prop :=
  ∃ recent, s.watch.shop.history = recent ++ s₀.watch.shop.history ∧
    ∀ id t, s₀.watch.shop.memory.find? id = some t → t.status = .queued →
      s.watch.shop.memory.find? id = some t ∨
        ∃ d ∈ recent, d.touches id = true ∧
          (d.party ∉ s₀.attempts ∨ (d.party = s₀.watch.place ∧
            ∃ a, s₀.watch.worker.attempt? = some a ∧ a.isSeeking = true))

/-- What has happened since an engine in the state `s₀` was told to stop. -/
structure Since (s₀ s : Shift H) : Prop where
  told : s.watch.stopping = true
  attempts : s.attempts = s₀.attempts
  place : s.watch.place = s₀.watch.place
  seeking : ∀ b, s.watch.worker.attempt? = some b → b.isSeeking = true →
    ∃ a, s₀.watch.worker.attempt? = some a ∧ a.isSeeking = true
  picks : ∃ new, s.picks = new ++ s₀.picks ∧ FurtherPicks s.sweeper.isStopped new
  queue : SparesQueue s₀ s

/-- What has happened to the queue since the signal, after one more moment. -/
theorem Since.queue_moment (h : Since s₀ s) (hk : Kept s) (y : Moment H) :
    SparesQueue s₀ (s.moment ours y) := by
  obtain ⟨recent, hrecent, hqueue⟩ := h.queue
  obtain ⟨new, hnew, hdequeued⟩ := (s.watch.shop_step ours y).dequeued
  refine ⟨new ++ recent, ?_, ?_⟩
  · exact hnew.trans (by rw [hrecent, List.append_assoc])
  · intro id t ht hq
    rcases hqueue id t ht hq with hstill | ⟨d, hd, htouches, hwho⟩
    · rcases hdequeued id t hstill hq with hsame | ⟨d, hd, htouches, p, hp, hpoint⟩
      · exact Or.inl hsame
      · refine Or.inr ⟨d, List.mem_append_left _ hd, htouches, ?_⟩
        by_cases hours : d.party ∈ s₀.attempts
        · -- an attempt of the loop that has not ended is the one the loop is in
          rw [← h.attempts] at hours
          rcases hk.manned.done d.party hours with ⟨result, hresult⟩ | ⟨hplace, a, ha⟩
          · rw [hresult] at hp
            cases hp
            rcases hpoint with ⟨r, u, heq⟩ | ⟨c, heq⟩ <;> cases heq
          · have hstands := (hk.manned.here a ha).2
            rw [← hplace, hp] at hstands
            cases hstands
            rcases hpoint with ⟨r, u, heq⟩ | ⟨c, heq⟩
            · cases heq
              exact Or.inr ⟨hplace.trans h.place, h.seeking _ ha rfl⟩
            · cases heq
        · exact Or.inl hours
    · exact Or.inr ⟨d, List.mem_append_right _ hd, htouches, hwho⟩

/-- What has happened since the signal, after one more moment. -/
theorem Since.moment (h : Since s₀ s) (hk : Kept s) (y : Moment H) :
    Since s₀ (s.moment ours y) := by
  have hbegins := Watch.begins_of_stopping h.told y
  have ht := s.watch.turns_step ours y
  rw [hbegins] at ht
  obtain ⟨hplace, hseeking⟩ := hk.manned.keeps ht
  refine ⟨(s.watch.over_step ours y).2 h.told, ?_, hplace.trans h.place, ?_, ?_,
    h.queue_moment hk y⟩
  · show (if s.watch.begins y = true then _ else s.attempts) = s₀.attempts
    rw [hbegins, if_neg Bool.false_ne_true]
    exact h.attempts
  · intro b hb hseeks
    obtain ⟨a, ha, haseeks⟩ := hseeking b hb hseeks
    exact h.seeking a ha haseeks
  · obtain ⟨new, hnew, hfurther⟩ := h.picks
    refine ⟨new, hnew, ?_⟩
    show FurtherPicks (s.sweeper.attend _).isStopped new
    rw [Sweeper.isStopped_attend]
    exact hfurther

/-- What has happened since the signal, through everything that can happen. -/
theorem Since.step {b : Beat H} (hg : Goes ours s b s') (h : Since s₀ s) (hk : Kept s) :
    Since s₀ s' := by
  obtain ⟨new, hnew, hfurther⟩ := h.picks
  cases hg with
  | moment y => exact h.moment hk y
  | @sweeps due tick reading waits comes taken =>
      have hmoment : Since s₀ (s.moment ours
          (.shop (.arrive (.sweep reading s.config.processingLimit)))) := h.moment hk _
      rw [waits] at hfurther
      refine ⟨hmoment.told, hmoment.attempts, hmoment.place, hmoment.seeking, ?_, hmoment.queue⟩
      refine ⟨.swept due s.now s.watch.shop.parties.length :: new, congrArg _ hnew, .going ?_⟩
      exact List.forall_mem_cons.2 ⟨comes, hfurther.late⟩
  | ends waits told =>
      rw [waits] at hfurther
      exact ⟨h.told, h.attempts, h.place, h.seeking,
        ⟨.ended :: new, congrArg _ hnew, .ended rfl hfurther.late⟩, h.queue⟩
  | rests waits early untold =>
      rw [h.told] at untold
      cases untold
  | concludes swept =>
      rw [swept] at hfurther
      exact ⟨h.told, h.attempts, h.place, h.seeking, ⟨new, hnew, hfurther⟩, h.queue⟩
  | passes _ | returns _ _ _ =>
      exact ⟨h.told, h.attempts, h.place, h.seeking, h.picks, h.queue⟩
  | same => exact h

/-- How often a sweep loop has swept that was told to stop, in time: once at most, and after a sweep
it has the next tick ahead. -/
inductive Winding (before : Nat) (s : Shift H) : Prop where
  | none (same : s.sweeps = before)
  | swept {tick : Nat} (once : s.sweeps = before + 1)
      (ahead : s.sweeper.tickAhead? s.awake = some tick) (early : s.now < tick)
  | stopped (most : s.sweeps ≤ before + 1) (ended : s.sweeper.isStopped = true)

theorem Winding.most {before : Nat} (h : Winding before s) : s.sweeps ≤ before + 1 := by
  cases h with
  | none same => exact same ▸ Nat.le_succ before
  | swept once _ _ => exact Nat.le_of_eq once
  | stopped most _ => exact most

/-- What leaves the sweeps, the tick ahead and the time as they are leaves this as it is. -/
theorem Winding.of_same {before : Nat} (h : Winding before s) (hsweeps : s'.sweeps = s.sweeps)
    (hahead : s'.sweeper.tickAhead? s'.awake = s.sweeper.tickAhead? s.awake)
    (hnow : s'.now = s.now) (hstopped : s'.sweeper.isStopped = s.sweeper.isStopped) :
    Winding before s' := by
  cases h with
  | none same => exact .none (hsweeps.trans same)
  | swept once ahead early =>
      exact .swept (hsweeps.trans once) (hahead.trans ahead) (hnow ▸ early)
  | stopped most ended => exact .stopped (hsweeps ▸ most) (hstopped.trans ended)

/-- How often the loop has swept, through everything that can happen in time. -/
theorem Winding.step {before : Nat} {b : Beat H} (hg : Goes ours s b s') (hb : s.IsPrompt before b)
    (hk : Kept s) (htold : s.watch.stopping = true) (h : Winding before s) : Winding before s' := by
  cases hg with
  | moment y =>
      exact h.of_same rfl (Sweeper.tickAhead?_attend s.awake s.sweeper _) rfl
        (Sweeper.isStopped_attend s.sweeper _)
  | @sweeps due tick reading waits comes taken =>
      cases h with
      | none same =>
          refine .swept ?_ rfl (Sweeper.lt_nextDue hk.interval)
          show (Pick.swept _ _ _ :: s.picks).countP Pick.isSweep = before + 1
          rw [List.countP_cons_of_pos rfl]
          exact congrArg (· + 1) same
      | @swept tick once ahead early =>
          -- the tick that is ahead of the loop is the one for which it waits
          rw [waits] at ahead
          have hdue : tick = due := Sweeper.eq_of_tickAhead? ahead
          omega
      | stopped most ended =>
          rw [waits] at ended
          cases ended
  | ends waits told =>
      refine .stopped ?_ rfl
      show (Pick.ended :: s.picks).countP Pick.isSweep ≤ before + 1
      rw [List.countP_cons_of_neg Bool.false_ne_true]
      exact h.most
  | rests waits early untold =>
      rw [htold] at untold
      cases untold
  | @concludes r next swept =>
      have hahead : s.sweeper.tickAhead? s.awake = some next := by
        rw [swept]
        rfl
      have hruns : s.sweeper.isStopped = false := by
        rw [swept]
        rfl
      exact h.of_same rfl hahead.symm rfl hruns.symm
  | passes nanos =>
      cases h with
      | none same => exact .none same
      | @swept tick once ahead early =>
          exact .swept once ahead (hb (once ▸ Nat.lt_succ_self before) tick ahead)
      | stopped most ended => exact .stopped most ended
  | returns _ _ _ => exact h.of_same rfl rfl rfl rfl
  | same => exact h

/-! ## The way to the end -/

/-- A shift in order whose engine was told to stop. -/
structure Told (s : Shift H) : Prop where
  kept : Kept s
  told : s.watch.stopping = true

theorem Told.step {b : Beat H} (hg : Goes ours s b s') (h : Told s) : Told s' := by
  refine ⟨h.kept.step hg, ?_⟩
  cases hg with
  | moment y => exact (s.watch.over_step ours y).2 h.told
  | sweeps _ _ _ => exact (s.watch.over_step ours _).2 h.told
  | ends _ _ | rests _ _ _ | concludes _ | passes _ | returns _ _ _ | same => exact h.told

/-- How often a loop in time has swept, through a run. -/
theorem Told.winding {before : Nat} {bs : List (Beat H)} (h : Told s) (hw : Winding before s)
    (hrun : Prompt ours before s bs) : Winding before (s.after ours bs) := by
  induction bs generalizing s with
  | nil => exact hw
  | cons b bs ih =>
      have hgoes := s.goes_step ours b
      exact ih (h.step hgoes) (hw.step hgoes hrun.1 h.kept h.told) hrun.2

/-- A worker loop that was told to stop comes nearer to its end. -/
theorem Told.worker_step (ours : Nat → Bool) (h : Told s) (hruns : 0 < s.watch.worker.stepsLeft) :
    ∃ y, (s.watch.step ours y).worker.stepsLeft < s.watch.worker.stepsLeft := by
  cases hp : s.watch.worker.point with
  | stopped =>
      rw [Worker.stepsLeft, hp] at hruns
      exact absurd hruns (Nat.lt_irrefl 0)
  | ready =>
      refine ⟨.begin, ?_⟩
      simp only [Watch.step, hp, h.told, if_true]
      rw [Worker.stepsLeft, Worker.stepsLeft, hp]
      exact Nat.one_pos
  | tired _ | resting _ =>
      refine ⟨.halt, ?_⟩
      simp only [Watch.step, hp, h.told, if_true]
      rw [Worker.stepsLeft, Worker.stepsLeft, hp]
      exact Nat.one_pos
  | attempting a =>
      have hin : s.watch.worker.attempt? = some a := by rw [Worker.attempt?, hp]
      have hleft : s.watch.worker.stepsLeft = 2 + a.stepsLeft := by rw [Worker.stepsLeft, hp]
      rw [hleft]
      by_cases hdone : a.stepsLeft = 0
      · obtain ⟨result, rfl⟩ : ∃ result, a = .done result := by
          cases a <;> first | exact ⟨_, rfl⟩ | cases hdone
        refine ⟨.conclude, ?_⟩
        simp only [Watch.step, hp]
        rcases result with _ | _ | _ <;> exact Nat.one_lt_two
      · obtain ⟨x, b, hb, hlt⟩ :=
          Workshop.stepsLeft_turn (h.kept.manned.here a hin).2 (Nat.pos_of_ne_zero hdone)
        refine ⟨.shop x, ?_⟩
        have hattends : (s.watch.worker.attend (some (.attempt s.watch.registry b))).stepsLeft =
            2 + b.stepsLeft := by
          simp only [Worker.attend, hp, Worker.stepsLeft]
        simp only [Watch.step, hb, hattends]
        omega

/-- A worker loop that was told to stop can come to its end. -/
theorem Told.worker_ends (ours : Nat → Bool) (h : Told s) :
    ∃ bs, Told (s.after ours bs) ∧ (s.after ours bs).watch.worker.isStopped = true := by
  induction hn : s.watch.worker.stepsLeft using Nat.strongRecOn generalizing s with
  | _ n ih =>
      by_cases hruns : 0 < s.watch.worker.stepsLeft
      · obtain ⟨y, hlt⟩ := h.worker_step ours hruns
        obtain ⟨bs, htold, hstopped⟩ :=
          ih _ (hn ▸ hlt) (h.step (s.goes_step ours (.moment y))) rfl
        exact ⟨.moment y :: bs, htold, hstopped⟩
      · refine ⟨[], h, ?_⟩
        show s.watch.worker.isStopped = true
        rw [Worker.stepsLeft] at hruns
        rw [Worker.isStopped]
        cases hp : s.watch.worker.point with
        | stopped => rfl
        | attempting a =>
            simp only [hp] at hruns
            omega
        | ready | tired _ | resting _ =>
            simp only [hp] at hruns
            omega

/-- A sweep loop that was told to stop comes nearer to its end, and does nothing to the worker. -/
theorem Told.sweeper_step (ours : Nat → Bool) (h : Told s) (hruns : 0 < s.sweeper.stepsLeft) :
    ∃ b, (s.step ours b).sweeper.stepsLeft < s.sweeper.stepsLeft ∧
      (s.watch.worker.isStopped = true → (s.step ours b).watch.worker.isStopped = true) := by
  cases hp : s.sweeper with
  | stopped =>
      rw [hp] at hruns
      exact absurd hruns (Nat.lt_irrefl 0)
  | waiting due =>
      have hends : s.step ours (.look false .epoch) =
          { s with sweeper := .stopped, picks := .ended :: s.picks } := by
        simp [Shift.step, hp, h.told, Sweeper.stop]
      refine ⟨.look false .epoch, ?_, ?_⟩
      · rw [hends]
        exact Nat.one_pos
      · rw [hends]
        exact id
  | sweeping x due =>
      cases x with
      | done r =>
          refine ⟨.conclude, ?_, ?_⟩
          · simp only [Shift.step, hp]
            cases r <;> exact Nat.one_lt_two
          · simp only [Shift.step, hp]
            exact id
      | write cutoff =>
          obtain ⟨r, hmade⟩ := h.kept.sweep_made ours hp .epoch ⟨0, by decide⟩
          refine ⟨.moment (.shop (.turn s.sweepPlace .epoch ⟨0, by decide⟩ none)), ?_, ?_⟩
          · show (s.moment ours _).sweeper.stepsLeft < _
            rw [hmade]
            exact Nat.lt_succ_self 2
          · exact (s.watch.over_step ours _).1

/-- A sweep loop that was told to stop can come to its end. -/
theorem Told.sweeper_ends (ours : Nat → Bool) (h : Told s)
    (hover : s.watch.worker.isStopped = true) :
    ∃ bs, Told (s.after ours bs) ∧ (s.after ours bs).watch.worker.isStopped = true ∧
      (s.after ours bs).sweeper.isStopped = true := by
  induction hn : s.sweeper.stepsLeft using Nat.strongRecOn generalizing s with
  | _ n ih =>
      by_cases hruns : 0 < s.sweeper.stepsLeft
      · obtain ⟨b, hlt, hkeeps⟩ := h.sweeper_step ours hruns
        obtain ⟨bs, htold, hstopped⟩ :=
          ih _ (hn ▸ hlt) (h.step (s.goes_step ours b)) (hkeeps hover) rfl
        exact ⟨b :: bs, htold, hstopped⟩
      · refine ⟨[], h, hover, ?_⟩
        show s.sweeper.isStopped = true
        cases hp : s.sweeper with
        | stopped => rfl
        | waiting _ =>
            rw [hp] at hruns
            exact absurd Nat.one_pos hruns
        | sweeping x _ =>
            rw [hp] at hruns
            cases x <;> exact absurd (Nat.succ_pos _) hruns

/-- A shutdown can always be completed. -/
theorem Told.finishes (h : Told s) : ∃ bs, (s.after ours bs).returned = true := by
  obtain ⟨bs, htold, hworker⟩ := h.worker_ends ours
  obtain ⟨cs, htold', hworker', hsweeper⟩ := htold.sweeper_ends ours hworker
  refine ⟨bs ++ cs ++ [.join], ?_⟩
  rw [after_append, after_append]
  show (Shift.step ours _ .join).returned = true
  simp only [Shift.step, htold'.told, hworker', hsweeper, Bool.and_self, if_true]

/-! ## What a shutdown does and leaves -/

/-- What holds of an engine that was told to stop in the state `s₀` and has come to `s` since. -/
structure Graceful (ours : Nat → Bool) (s₀ s : Shift H) : Prop where
  /-- Neither loop has ended before it was told to. -/
  working : s₀.watch.stopping = false →
    s₀.watch.worker.isStopped = false ∧ s₀.sweeper.isStopped = false ∧ s₀.returned = false
  /-- The worker has begun no further attempt. -/
  begun : s.attempts = s₀.attempts
  /-- Every attempt of the worker was carried to its end, with the write of the outcome if a handler
  began, unless the worker is in it still; and then the worker has not ended. -/
  carried : ∀ i ∈ s.attempts,
    (∃ result, s.watch.shop.parties[i]? = some (.attempt s.watch.registry (.done result)) ∧
      Workshop.Concluded (s.watch.shop.own i) i) ∨
    (i = s.watch.place ∧ s.watch.worker.isStopped = false ∧
      ∃ a, s.watch.worker.attempt? = some a ∧
        s.watch.shop.parties[i]? = some (.attempt s.watch.registry a))
  /-- The sweep loop has swept only when it was due, and looks no more when it has ended. -/
  picks : ∃ new, s.picks = new ++ s₀.picks ∧ FurtherPicks s.sweeper.isStopped new
  /-- When the caller has returned, both loops have ended, and a task that an attempt of the worker
  claimed is not in processing, unless the attempt ended with a store error. -/
  settled : s.returned = true →
    s.watch.worker.isStopped = true ∧ s.sweeper.isStopped = true ∧
      ∀ id u d, d ∈ s.watch.shop.history → d.isClaimOf id = true → d.party ∈ s.attempts →
        s.watch.shop.memory.find? id = some u → u.status = .processing →
          ∃ e, s.watch.shop.parties[d.party]? =
            some (.attempt s.watch.registry (.done (.error e)))
  /-- A task that was queued at the signal is as it was, unless it was touched since: by somebody
  else, or by the attempt that was under way at the signal and had yet to claim a task. -/
  queue : ∃ recent, s.watch.shop.history = recent ++ s₀.watch.shop.history ∧
    ∀ id t, s₀.watch.shop.memory.find? id = some t → t.status = .queued →
      s.watch.shop.memory.find? id = some t ∨
        ∃ d ∈ recent, d.touches id = true ∧
          (d.party ∉ s.attempts ∨ (d.party = s₀.watch.place ∧
            ∃ a, s₀.watch.worker.attempt? = some a ∧ a.isSeeking = true))
  /-- Whatever has happened, the shutdown can be completed. -/
  finishes : ∃ bs, (s.after ours bs).returned = true

/-- As long as no signal was given neither loop has ended. -/
theorem Kept.working (h : Kept s) (huntold : s.watch.stopping = false) :
    s.watch.worker.isStopped = false ∧ s.sweeper.isStopped = false ∧ s.returned = false := by
  have hworker : s.watch.worker.isStopped = false := by
    by_contra hstopped
    rw [h.manned.told (Bool.not_eq_false _ ▸ hstopped)] at huntold
    cases huntold
  refine ⟨hworker, ?_, ?_⟩
  · by_contra hstopped
    rw [h.told (Bool.not_eq_false _ ▸ hstopped)] at huntold
    cases huntold
  · by_contra hreturned
    rw [(h.returned (Bool.not_eq_false _ ▸ hreturned)).1] at hworker
    cases hworker

/-- An attempt of the worker was carried to its end, unless the worker is in it. -/
theorem Kept.carried (h : Kept s) {i : Nat} (hi : i ∈ s.attempts) :
    (∃ result, s.watch.shop.parties[i]? = some (.attempt s.watch.registry (.done result)) ∧
      Workshop.Concluded (s.watch.shop.own i) i) ∨
    (i = s.watch.place ∧ s.watch.worker.isStopped = false ∧
      ∃ a, s.watch.worker.attempt? = some a ∧
        s.watch.shop.parties[i]? = some (.attempt s.watch.registry a)) := by
  rcases h.manned.done i hi with ⟨result, hresult⟩ | ⟨rfl, a, ha⟩
  · exact Or.inl ⟨result, hresult, h.manned.carriedOut i _ result hresult⟩
  · refine Or.inr ⟨rfl, ?_, a, ha, (h.manned.here a ha).2⟩
    by_contra hstopped
    rw [Worker.attempt?_of_isStopped (Bool.not_eq_false _ ▸ hstopped)] at ha
    cases ha

/-- Once the worker has ended, a task that one of its attempts claimed is in processing only if the
attempt ended with a store error. -/
theorem Kept.settled (h : Kept s) (hstopped : s.watch.worker.isStopped = true) {id : TaskId}
    {u : Task} {d : Deed H} (hd : d ∈ s.watch.shop.history) (hclaim : d.isClaimOf id = true)
    (hours : d.party ∈ s.attempts) (hu : s.watch.shop.memory.find? id = some u)
    (hprocessing : u.status = .processing) :
    ∃ e, s.watch.shop.parties[d.party]? =
      some (.attempt s.watch.registry (.done (.error e))) := by
  obtain ⟨_, r, a, hstands, hpoint⟩ := h.manned.answered id u d hu hprocessing hd hclaim
  rcases h.carried hours with ⟨result, hresult, _⟩ | ⟨_, hruns, _⟩
  · rw [hresult] at hstands
    cases hstands
    rcases hpoint with ⟨t, ht, _⟩ | ⟨e, he⟩
    · cases ht
    · cases he
      exact ⟨e, hresult⟩
  · rw [hstopped] at hruns
    cases hruns

open Workshop (idOf invoiceForm invoiceRegistry threeTurns)

/-- An engine just spawned at an empty store. -/
def newEngine : Shift Unit := start .default invoiceRegistry (Memory.empty.after [])

/-- A task comes in. -/
def taskComes : List (Beat Unit) :=
  [.moment (.shop (.arrive (.submit invoiceForm)))] ++
    (threeTurns 0 (idOf 1)).map fun x => .moment (.shop x)

/-- A task comes in and its handler begins; half a minute later a sweep is due. -/
def tickInHandler : List (Beat Unit) :=
  taskComes ++ [.moment .begin] ++
    (threeTurns 1 (idOf 0)).map (fun x => .moment (.shop x)) ++
    [.look true .epoch, .pass 30000000000]

/-- The sweep is made, the handler ends, and both loops end. -/
def windingUp : List (Beat Unit) :=
  [.look true .epoch, .pass 29999999999, .moment (.shop (.turn 2 .epoch (idOf 0) none)), .conclude,
    .moment (.shop (.finish 1 (.returned .null))),
    .moment (.shop (.turn 1 .epoch (idOf 0) none)), .moment .conclude, .moment .begin,
    .look true .epoch, .join]

/-- A task comes in, and the worker looks for one but has not claimed it yet. -/
def signalBeforeClaim : List (Beat Unit) :=
  taskComes ++ [.moment .begin, .moment (.shop (.turn 1 .epoch (idOf 0) none))]

/-- The attempt goes on to claim the task, and both loops end. -/
def claimingStill : List (Beat Unit) :=
  [.moment (.shop (.turn 1 .epoch (idOf 0) none)), .moment (.shop (.turn 1 .epoch (idOf 0) none)),
    .moment (.shop (.finish 1 (.returned .null))),
    .moment (.shop (.turn 1 .epoch (idOf 0) none)), .moment .conclude, .moment .begin,
    .look false .epoch, .join]

/-- The sweeps take as long as the interval between them, so that another is due after each. -/
def slowSweeps : List (Beat Unit) :=
  [.look true .epoch, .pass 30000000000, .moment (.shop (.turn 0 .epoch (idOf 0) none)), .conclude,
    .look true .epoch, .moment (.shop (.turn 1 .epoch (idOf 0) none)), .conclude,
    .look true .epoch, .moment .begin, .join]

end Shift

end Backlog
