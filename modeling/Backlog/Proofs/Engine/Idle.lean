import Backlog.Engine.Worker
import Backlog.Proofs.Engine.Backoff
import Mathlib.Data.List.Induction
/-!
# The idle schedule of the worker loop

Once round the loop is an attempt and, unless it found work, a rest.  What the loop does next
depends on the rounds before it only through the idle sleep, which is written in three places and
passed by in a fourth: a poll that found nothing doubles it, found work, a store error and a wake
set it back, and after a store error the worker rests for the least sleep and not for the next one.
What carries through all of it is one number, the length of the last unbroken run of polls that
found nothing and rests that were slept out (`Round.streak`).

Time passes in attempts and rests as it likes: an attempt takes any time, a worker whose rest is
over may rise late, and a wake may come at any moment of a rest.

## Main results

* `Pace.Counts.round` — what a round does to the idle sleep.
* `Pace.idle_schedule` — how long the worker asks to rest after any rounds, and that it never polls
  twice at one moment without a reason.
-/

namespace Backlog

variable {H : Type}

/-- How a rest ends. -/
inductive Rising where
  /-- Its time is over, and the worker rises so many nanoseconds late. -/
  | atTime (late : Nat)
  /-- A wake signal comes so many nanoseconds after it has begun. -/
  | woken (after : Nat)
  deriving DecidableEq, Repr

/-- Once round the loop. -/
structure Round where
  /-- What the attempt came to. -/
  result : Except StoreError (Option Processed)
  /-- How long the attempt took, in nanoseconds. -/
  took : Nat
  /-- How the rest after the attempt ended, if there was one. -/
  rising : Rising

namespace Round

/-- The attempt found work. -/
def foundWork (r : Round) : Bool :=
  match r.result with
  | .ok (some _) => true
  | _ => false

/-- A wake signal ended the rest. -/
def wasWoken (r : Round) : Bool :=
  match r.rising with
  | .woken _ => true
  | .atTime _ => false

/-- The attempt found nothing, and the rest after it was slept out. -/
def isIdle (r : Round) : Bool :=
  match r.result, r.rising with
  | .ok none, .atTime _ => true
  | _, _ => false

/-- How many of the last rounds were idle one after the other. -/
def streak (rs : List Round) : Nat := (rs.reverse.takeWhile isIdle).length

theorem streak_concat (rs : List Round) (r : Round) :
    streak (rs ++ [r]) = if r.isIdle then streak rs + 1 else 0 := by
  by_cases h : r.isIdle = true <;> simp [streak, h]

end Round

/-- The worker loop between two rounds. -/
structure Pace (H : Type) where
  worker : Worker H
  /-- The engine's own time, in nanoseconds. -/
  now : Nat

namespace Pace

/-! ## Rounds -/

/-- The loop of an engine before its first round. -/
def start (config : EngineConfig) : Pace H := ⟨Worker.start config.normalized, 0⟩

/-- The worker after the attempt of a round. -/
def attempt (p : Pace H) (r : Round) : Worker H := ((p.worker.begin false).1.conclude r.result).1

/-- The rest that the worker asks for after the attempt of a round. -/
def asked? (p : Pace H) (r : Round) : Option Duration :=
  match (p.attempt r).point with
  | .tired sleep => some sleep
  | _ => none

/-- A worker that lies down now if it is tired, and rises again. -/
def rest (w : Worker H) (now : Nat) (rising : Rising) : Pace H :=
  match (w.lieDown now).point, rising with
  | .resting deadline, .atTime late => ⟨(w.lieDown now).riseAtTime, deadline + late⟩
  | .resting _, .woken after => ⟨(w.lieDown now).wake, now + after⟩
  | _, _ => ⟨w.lieDown now, now⟩

/-- The loop after a round. -/
def round (p : Pace H) (r : Round) : Pace H := rest (p.attempt r) (p.now + r.took) r.rising

/-- The loop after some rounds. -/
def after (p : Pace H) (rs : List Round) : Pace H := rs.foldl round p

variable {p : Pace H} {r : Round} {config : EngineConfig} {k : Nat}

theorem after_concat (p : Pace H) (rs : List Round) (r : Round) :
    p.after (rs ++ [r]) = (p.after rs).round r := by
  rw [after, List.foldl_append]
  rfl

theorem after_append (p : Pace H) (rs more : List Round) :
    p.after (rs ++ more) = (p.after rs).after more := List.foldl_append

/-- A worker asks for no rest after work, for the next idle sleep after a poll that found nothing,
and for the least one after a store error. -/
theorem asked?_eq (p : Pace H) (r : Round) : p.asked? r =
    match r.result with
    | .ok (some _) => none
    | .ok none => some p.worker.backoff.next
    | .error _ => some p.worker.backoff.least := by
  obtain ⟨result, took, rising⟩ := r
  cases result with
  | error e => rfl
  | ok found => cases found <;> rfl

/-- What a round takes beyond its attempt: nothing, the rest that was asked for, or what there was
of it before the wake. -/
theorem now_round (p : Pace H) (r : Round) : (p.round r).now = p.now + r.took +
    match p.asked? r, r.rising with
    | none, _ => 0
    | some d, .atTime late => d.nanos + late
    | some _, .woken after => after := by
  rw [asked?_eq]
  obtain ⟨result, took, rising⟩ := r
  cases result with
  | error e =>
      cases rising with
      | atTime late => exact Nat.add_assoc _ _ _
      | woken after => rfl
  | ok found =>
      cases found with
      | some x => rfl
      | none =>
          cases rising with
          | atTime late => exact Nat.add_assoc _ _ _
          | woken after => rfl

/-- The worker is ready after every round, and the round has set its idle sleep back unless it was
idle. -/
theorem worker_round (p : Pace H) (r : Round) : (p.round r).worker =
    ⟨.ready, if r.isIdle then p.worker.backoff.idle.2 else p.worker.backoff.reset⟩ := by
  obtain ⟨result, took, rising⟩ := r
  cases result with
  | error e => cases rising <;> rfl
  | ok found =>
      cases found with
      | some x => rfl
      | none => cases rising <;> rfl

theorem least_round (p : Pace H) (r : Round) :
    (p.round r).worker.backoff.least = p.worker.backoff.least := by
  rw [worker_round]
  split <;> rfl

theorem limit_round (p : Pace H) (r : Round) :
    (p.round r).worker.backoff.limit = p.worker.backoff.limit := by
  rw [worker_round]
  split <;> rfl

/-! ## The idle sleep -/

/-- The worker is ready, and the idle sleep of its configuration has been doubled `k` times. -/
structure Counts (config : EngineConfig) (p : Pace H) (k : Nat) : Prop where
  ready : p.worker.point = .ready
  least : p.worker.backoff.least = config.normalized.idleMin
  limit : p.worker.backoff.limit = config.normalized.idleMax
  doubled : p.worker.backoff.Doubled k

theorem counts_start (config : EngineConfig) : (start config : Pace H).Counts config 0 := by
  obtain ⟨-, hordered, -⟩ := config.normalized_bounds
  have hlimit : config.normalized.idleMax.longer config.normalized.idleMin =
      config.normalized.idleMax := by
    apply Duration.ext
    rw [Duration.le_def] at hordered
    rw [Duration.nanos_longer]
    omega
  exact ⟨rfl, rfl, hlimit, Backoff.doubled_start _ _⟩

/-- An idle round doubles the sleep once more, and any other sets it back. -/
theorem Counts.round (h : p.Counts config k) (r : Round) :
    (p.round r).Counts config (if r.isIdle then k + 1 else 0) := by
  constructor
  · rw [worker_round]
  · rw [least_round]
    exact h.least
  · rw [limit_round]
    exact h.limit
  · rw [worker_round]
    by_cases hr : r.isIdle = true
    · rw [if_pos hr, if_pos hr]
      exact h.doubled.idle
    · rw [if_neg hr, if_neg hr]
      exact h.doubled.reset

/-- After any rounds the sleep has been doubled as often as the last rounds were idle. -/
theorem counts_after (config : EngineConfig) (rs : List Round) :
    ((start config : Pace H).after rs).Counts config (Round.streak rs) := by
  induction rs using List.reverseRecOn with
  | nil => exact counts_start config
  | append_singleton rs r ih =>
      rw [after_concat, Round.streak_concat]
      exact ih.round r

/-- Every rest that is asked for is at least the least one and at most the longest. -/
theorem Counts.within (h : p.Counts config k) {d : Duration} (hd : p.asked? r = some d) :
    config.normalized.idleMin ≤ d ∧ d ≤ config.normalized.idleMax := by
  have hwithin := h.doubled.within
  have hordered := h.doubled.ordered
  rw [h.least, h.limit] at hwithin hordered
  rw [asked?_eq] at hd
  split at hd
  · cases hd
  · obtain rfl := Option.some.inj hd
    exact hwithin
  · obtain rfl := Option.some.inj hd
    rw [h.least]
    exact ⟨Nat.le_refl _, hordered⟩

/-! ## Time -/

theorem now_le_round (p : Pace H) (r : Round) : p.now ≤ (p.round r).now := by
  rw [now_round]
  omega

theorem now_le_after (p : Pace H) (rs : List Round) : p.now ≤ (p.after rs).now := by
  induction rs generalizing p with
  | nil => exact Nat.le_refl _
  | cons r rs ih => exact Nat.le_trans (p.now_le_round r) (ih (p.round r))

/-- A round without work or a wake takes time, since the rest in it is slept out. -/
theorem Counts.now_lt_round (h : p.Counts config k) (hwork : r.foundWork = false)
    (hwake : r.wasWoken = false) : p.now < (p.round r).now := by
  obtain ⟨hfloor, -⟩ := config.normalized_bounds
  have hpositive : 0 < config.normalized.idleMin.nanos := Nat.lt_of_lt_of_le (by decide) hfloor
  obtain ⟨late, hlate⟩ : ∃ late, r.rising = .atTime late := by
    cases hrising : r.rising with
    | atTime late => exact ⟨late, rfl⟩
    | woken after => simp [Round.wasWoken, hrising] at hwake
  obtain ⟨d, hd⟩ : ∃ d, p.asked? r = some d := by
    rw [asked?_eq]
    cases hresult : r.result with
    | error e => exact ⟨_, rfl⟩
    | ok found =>
        cases found with
        | none => exact ⟨_, rfl⟩
        | some x => simp [Round.foundWork, hresult] at hwork
  have hleast : config.normalized.idleMin.nanos ≤ d.nanos := (h.within hd).1
  rw [now_round, hd, hlate]
  simp only
  omega

/-- Rounds that took no time each found work or were ended by a wake. -/
theorem Counts.cause_of_now_eq (h : p.Counts config k) {more : List Round}
    (hnow : (p.after more).now = p.now) :
    ∀ r ∈ more, r.foundWork = true ∨ r.wasWoken = true := by
  induction more generalizing p k with
  | nil => simp
  | cons r more ih =>
      have hround : p.now ≤ (p.round r).now := p.now_le_round r
      have hmore : (p.round r).now ≤ ((p.round r).after more).now := now_le_after _ more
      have hafter : ((p.round r).after more).now = p.now := hnow
      have hcause : r.foundWork = true ∨ r.wasWoken = true := by
        by_contra hneither
        rw [not_or, Bool.not_eq_true, Bool.not_eq_true] at hneither
        have hlt := h.now_lt_round hneither.1 hneither.2
        omega
      have hrest := ih (h.round r) (by omega)
      exact List.forall_mem_cons.2 ⟨hcause, hrest⟩

/-! ## The schedule -/

/-- What the worker does in a round, before which the last `k` rounds were idle. -/
structure FollowsSchedule (config : EngineConfig) (p : Pace H) (k : Nat) (r : Round) : Prop where
  ready : p.worker.point = .ready
  /-- After a poll that found nothing it rests for the least sleep doubled `k` times, within the
  longest one. -/
  empty : r.result = .ok none → ∃ d, p.asked? r = some d ∧
    d.nanos = min (config.normalized.idleMin.nanos * 2 ^ k) config.normalized.idleMax.nanos
  /-- After a store error it rests for the least sleep, and so it does after the next poll if that
  finds nothing. -/
  failed : ∀ e, r.result = .error e → p.asked? r = some config.normalized.idleMin ∧
    ∀ s : Round, s.result = .ok none → (p.round r).asked? s = some config.normalized.idleMin
  /-- After work it does not rest but polls at once. -/
  found : ∀ x, r.result = .ok (some x) → p.asked? r = none ∧
    (p.round r).worker.point = .ready ∧ (p.round r).now = p.now + r.took
  /-- A rest lies between fifty milliseconds and a minute. -/
  within : ∀ d, p.asked? r = some d → Duration.ofMillis 50 ≤ d ∧ d ≤ Duration.ofSeconds 60
  /-- A rest that no wake ends is slept out. -/
  slept : ∀ d late, p.asked? r = some d → r.rising = .atTime late →
    (p.round r).now = p.now + r.took + d.nanos + late

theorem Counts.followsSchedule (h : p.Counts config k) (r : Round) :
    p.FollowsSchedule config k r where
  ready := h.ready
  empty := by
    intro hr
    refine ⟨p.worker.backoff.next, by rw [asked?_eq, hr], ?_⟩
    rw [h.doubled.next, h.least, h.limit]
  failed := by
    intro e hr
    refine ⟨by rw [asked?_eq, hr, h.least], fun s hs => ?_⟩
    have hidle : r.isIdle ≠ true := by simp [Round.isIdle, hr]
    rw [asked?_eq, hs, worker_round, if_neg hidle, ← h.least]
    rfl
  found := by
    intro x hr
    have hasked : p.asked? r = none := by rw [asked?_eq, hr]
    refine ⟨hasked, by rw [worker_round], ?_⟩
    rw [now_round, hasked, Nat.add_zero]
  within := by
    intro d hd
    obtain ⟨hfloor, -, hceiling, -⟩ := config.normalized_bounds
    obtain ⟨hleast, hlongest⟩ := h.within hd
    exact ⟨Nat.le_trans hfloor hleast, Nat.le_trans hlongest hceiling⟩
  slept := by
    intro d late hd hr
    rw [now_round, hd, hr]
    exact (Nat.add_assoc _ _ _).symm

/-- **The idle schedule**: after any rounds the worker follows the schedule with the length of the
last run of idle rounds, and it never polls twice at one moment unless it found work or was woken in
every round in between. -/
theorem idle_schedule (config : EngineConfig) (rs : List Round) :
    (∀ r, ((start config : Pace H).after rs).FollowsSchedule config (Round.streak rs) r) ∧
      ∀ more, ((start config : Pace H).after (rs ++ more)).now =
          ((start config : Pace H).after rs).now →
        ∀ r ∈ more, r.foundWork = true ∨ r.wasWoken = true := by
  have hcounts := counts_after (H := H) config rs
  constructor
  · exact fun r => hcounts.followsSchedule r
  · intro more hnow
    rw [after_append] at hnow
    exact hcounts.cause_of_now_eq hnow

/-- The sleep after no idle poll, one, two, and one with a wake after it. -/
example : ([[], [.atTime 0], [.atTime 0, .atTime 7], [.atTime 0, .woken 3]].map fun rs =>
    (((start .default : Pace Unit).after (rs.map fun rising => ⟨.ok none, 1, rising⟩)).asked?
      ⟨.ok none, 1, .atTime 0⟩).map Duration.millis) =
    [some 200, some 400, some 800, some 200] := by
  decide

end Pace

end Backlog
