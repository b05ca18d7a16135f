import Backlog.Proofs.Engine.Backoff
import Mathlib.Data.List.Induction
/-!
# The sleeps of a run of calls

The idle sleep is asked how long to sleep, and is set back when there was work, in any order.  What
it answers depends on the calls before only through their number since the last reset
(`doublings`).  `Doubled` carries this through a run, one call at a time, and as the least sleep and
the limit never change, each answer is known from the two durations and that number.

The numbers are exact.  A duration is kept in whole seconds of 64 bits and nanoseconds, so doubling
carries from the one into the other and may leave the word; then the longest duration is taken for
it.  The limit is taken at once after each doubling and is a duration itself, so what is taken for
an outcome that does not fit is never seen.

## Main results

* `Duration.nanos_double_of_fits` — doubling is exact in seconds and nanoseconds with a carry.
* `Backoff.doubled_after` — what a run of calls does to the next sleep.
* `Backoff.sleeps_in_closed_form` — what a run of calls is answered.
-/

namespace Backlog

namespace Duration

/-- Twice a time of whole seconds and nanoseconds.  The seconds among the nanoseconds are carried,
and there is no such time if its seconds do not fit a word of 64 bits. -/
def twice? (seconds nanos : Nat) : Option (Nat × Nat) :=
  let carried := 2 * seconds + 2 * nanos / 1000000000
  if carried < 18446744073709551616 then some (carried, 2 * nanos % 1000000000) else none

/-- Doubling is exact in seconds and nanoseconds where the outcome fits. -/
theorem nanos_double_of_fits {d : Duration} {s n : Nat}
    (h : twice? d.seconds d.subsecond = some (s, n)) : d.double.nanos = s * 1000000000 + n := by
  have hparts := d.seconds_subsecond
  have hmax : maxNanos = 18446744073709551615999999999 := rfl
  simp only [twice?, Option.ite_none_right_eq_some, Option.some.injEq, Prod.mk.injEq] at h
  rw [nanos_double]
  omega

/-- Where the outcome does not fit the longest duration is taken for it. -/
theorem double_of_not_fits {d : Duration} (h : twice? d.seconds d.subsecond = none) :
    d.double = longest := by
  have hparts := d.seconds_subsecond
  have hmax : maxNanos = 18446744073709551615999999999 := rfl
  have hlongest : longest.nanos = maxNanos := rfl
  simp only [twice?, ite_eq_right_iff, reduceCtorEq, imp_false] at h
  apply Duration.ext
  rw [nanos_double]
  omega

end Duration

namespace Backoff

/-! ## Calls -/

/-- A call of the worker on its idle sleep. -/
inductive Call where
  /-- A poll found nothing, and the worker asks how long to sleep. -/
  | idle
  /-- There was work, and the sleep is set back. -/
  | reset
  deriving DecidableEq, Repr

/-- The sleep that a call is answered with, if it asks for one, and the state after it. -/
def call (b : Backoff) : Call → Option Duration × Backoff
  | .idle => (some b.idle.1, b.idle.2)
  | .reset => (none, b.reset)

/-- The answers to some calls. -/
def answers (b : Backoff) : List Call → List (Option Duration)
  | [] => []
  | c :: calls => (b.call c).1 :: answers (b.call c).2 calls

/-- The state after some calls. -/
def after (b : Backoff) (calls : List Call) : Backoff := calls.foldl (fun b c => (b.call c).2) b

/-- How many polls have found nothing since the last reset, or since the start. -/
def doublings (calls : List Call) : Nat :=
  (calls.reverse.takeWhile (· ≠ .reset)).count .idle

variable {b : Backoff} {least limit : Duration} {calls : List Call} {i j : Nat}

theorem after_concat (b : Backoff) (calls : List Call) (c : Call) :
    b.after (calls ++ [c]) = ((b.after calls).call c).2 := by
  rw [after, List.foldl_append]
  rfl

theorem doublings_concat (calls : List Call) (c : Call) :
    doublings (calls ++ [c]) = if c = .idle then doublings calls + 1 else 0 := by
  cases c <;> simp [doublings]

/-- A call is answered by the state that the calls before it have left. -/
theorem getElem?_answers (b : Backoff) (calls : List Call) (i : Nat) :
    (b.answers calls)[i]? = calls[i]?.map fun c => ((b.after (calls.take i)).call c).1 := by
  induction calls generalizing b i with
  | nil => simp [answers]
  | cons c calls ih =>
      cases i with
      | zero => rfl
      | succ i =>
          rw [answers, List.getElem?_cons_succ, List.getElem?_cons_succ, ih]
          rfl

/-- Only a call that asks for a sleep is answered with one, the next sleep of its state. -/
theorem getElem?_answers_eq_some_iff {sleep : Duration} :
    (b.answers calls)[i]? = some (some sleep) ↔
      calls[i]? = some .idle ∧ (b.after (calls.take i)).next = sleep := by
  rw [getElem?_answers]
  cases calls[i]? with
  | none => simp
  | some c => cases c <;> simp [call, idle]

/-! ## What is doubled -/

/-- The next sleep is the doubled one within the limit, exactly where the doubled one fits. -/
theorem next_idle_of_fits {s n : Nat}
    (h : Duration.twice? b.next.seconds b.next.subsecond = some (s, n)) :
    b.idle.2.next.nanos = min (s * 1000000000 + n) b.limit.nanos := by
  have hdouble := Duration.nanos_double_of_fits h
  simp only [idle, Duration.nanos_shorter, hdouble]

/-- What is taken for a doubled sleep that does not fit is never seen: the limit is the shorter. -/
theorem next_idle_of_not_fits (h : Duration.twice? b.next.seconds b.next.subsecond = none) :
    b.idle.2.next = b.limit := by
  have hle : b.limit.nanos ≤ Duration.longest.nanos := b.limit.nanos_le
  apply Duration.ext
  simp only [idle, Duration.nanos_shorter, Duration.double_of_not_fits h]
  omega

/-- No call changes the least sleep or the limit. -/
theorem ends_after (b : Backoff) (calls : List Call) :
    (b.after calls).least = b.least ∧ (b.after calls).limit = b.limit := by
  induction calls using List.reverseRecOn with
  | nil => exact ⟨rfl, rfl⟩
  | append_singleton calls c ih =>
      rw [after_concat]
      cases c <;> exact ih

theorem after_take_succ (h : calls[i]? = some .idle) :
    b.after (calls.take (i + 1)) = (b.after (calls.take i)).idle.2 := by
  rw [List.take_add_one, h, Option.toList_some, after_concat]
  rfl

/-- After some calls the least sleep has been doubled as often as there were polls that found
nothing since the last reset. -/
theorem doubled_after (least limit : Duration) (calls : List Call) :
    ((start least limit).after calls).Doubled (doublings calls) := by
  induction calls using List.reverseRecOn with
  | nil => exact doubled_start least limit
  | append_singleton calls c ih =>
      rw [after_concat, doublings_concat]
      cases c with
      | idle => exact ih.idle
      | reset => exact ih.reset

/-- The next sleep after some calls, from the two durations and the number of doublings alone. -/
theorem next_after (least limit : Duration) (calls : List Call) :
    ((start least limit).after calls).next.nanos =
      min (least.nanos * 2 ^ doublings calls) (max least.nanos limit.nanos) := by
  have hnext := (doubled_after least limit calls).next
  obtain ⟨hleast, hlimit⟩ := ends_after (start least limit) calls
  have hbound : (start least limit).limit.nanos = max limit.nanos least.nanos :=
    Duration.nanos_longer limit least
  rw [hleast, hlimit, hbound, Nat.max_comm] at hnext
  exact hnext

/-- Without a reset the number of doublings does not fall. -/
theorem doublings_take_le (hij : i ≤ j)
    (hreset : ∀ m, i ≤ m → m < j → calls[m]? ≠ some .reset) :
    doublings (calls.take i) ≤ doublings (calls.take j) := by
  induction hij with
  | refl => exact Nat.le_refl _
  | @step j hij ih =>
      have hbefore := ih fun m him hmj => hreset m him (by omega)
      have hlast := hreset j hij (by omega)
      rw [List.take_add_one]
      cases hcall : calls[j]? with
      | none => simpa using hbefore
      | some c =>
          cases c with
          | reset => exact absurd hcall hlast
          | idle =>
              rw [Option.toList_some, doublings_concat, if_pos rfl]
              omega

/-! ## The closed form -/

/-- What a run of calls is answered by an idle sleep between two durations. -/
structure ClosedForm (least limit : Duration) (calls : List Call) : Prop where
  /-- Each call has its answer, and those that ask for a sleep are the ones that get one. -/
  answered : ((start least limit).answers calls).map Option.isSome = calls.map (· == .idle)
  /-- A sleep is the least one doubled for each poll that found nothing since the last reset, exactly
  and within the limit, or within the least sleep if that is above the limit. -/
  exact : ∀ i sleep, ((start least limit).answers calls)[i]? = some (some sleep) →
    sleep.nanos = min (least.nanos * 2 ^ doublings (calls.take i)) (max least.nanos limit.nanos)
  /-- From one sleep to the next, seconds and nanoseconds are doubled with their carry, and it is the
  limit that is taken where the outcome does not fit. -/
  carried : ∀ i sleep next, ((start least limit).answers calls)[i]? = some (some sleep) →
    ((start least limit).answers calls)[i + 1]? = some (some next) →
    match Duration.twice? sleep.seconds sleep.subsecond with
    | some (s, n) => next.nanos = min (s * 1000000000 + n) (max least.nanos limit.nanos)
    | none => next = limit.longer least
  /-- A sleep lies between the least one and the limit, or is the least one. -/
  within : ∀ sleep, some sleep ∈ (start least limit).answers calls →
    least ≤ sleep ∧ sleep ≤ limit.longer least
  /-- Sleeps do not get shorter between resets. -/
  grows : ∀ (i j : Nat) (sleep later : Duration), i ≤ j →
    (∀ m, i ≤ m → m < j → calls[m]? ≠ some .reset) →
    ((start least limit).answers calls)[i]? = some (some sleep) →
    ((start least limit).answers calls)[j]? = some (some later) → sleep ≤ later

/-- **The sleeps in closed form**: whatever two durations an idle sleep begins with, any run of calls
is answered in closed form. -/
theorem sleeps_in_closed_form (least limit : Duration) (calls : List Call) :
    ClosedForm least limit calls where
  answered := by
    apply List.ext_getElem?
    intro i
    rw [List.getElem?_map, List.getElem?_map, getElem?_answers, Option.map_map]
    refine congrArg (Option.map · calls[i]?) (funext fun c => ?_)
    cases c <;> rfl
  exact := by
    intro i sleep hsleep
    obtain ⟨-, rfl⟩ := getElem?_answers_eq_some_iff.1 hsleep
    exact next_after least limit (calls.take i)
  carried := by
    intro i sleep next hsleep hnext
    obtain ⟨hidle, rfl⟩ := getElem?_answers_eq_some_iff.1 hsleep
    obtain ⟨-, rfl⟩ := getElem?_answers_eq_some_iff.1 hnext
    have hlimit : ((start least limit).after (calls.take i)).limit = limit.longer least :=
      (ends_after _ _).2
    rw [after_take_succ hidle]
    split
    · next s n hfits =>
      rw [next_idle_of_fits hfits, hlimit, Duration.nanos_longer, Nat.max_comm]
    · next hnot => rw [next_idle_of_not_fits hnot, hlimit]
  within := by
    intro sleep hsleep
    obtain ⟨i, hi⟩ := List.getElem?_of_mem hsleep
    obtain ⟨-, rfl⟩ := getElem?_answers_eq_some_iff.1 hi
    have hwithin := (doubled_after least limit (calls.take i)).within
    obtain ⟨hleast, hlimit⟩ := ends_after (start least limit) (calls.take i)
    rw [hleast, hlimit] at hwithin
    exact hwithin
  grows := by
    intro i j sleep later hij hreset hsleep hlater
    obtain ⟨-, rfl⟩ := getElem?_answers_eq_some_iff.1 hsleep
    obtain ⟨-, rfl⟩ := getElem?_answers_eq_some_iff.1 hlater
    have hpow : least.nanos * 2 ^ doublings (calls.take i) ≤
        least.nanos * 2 ^ doublings (calls.take j) :=
      Nat.mul_le_mul_left _ (Nat.pow_le_pow_right (by decide) (doublings_take_le hij hreset))
    rw [Duration.le_def, next_after, next_after]
    omega

/-- A doubling that carries into the seconds, and one that does not fit a word. -/
example : ((start ⟨9223372036854775807600000000, by decide⟩ .longest).answers
    [.idle, .idle, .idle, .reset, .idle]).map (Option.map fun d => (d.seconds, d.subsecond)) =
    [some (9223372036854775807, 600000000), some (18446744073709551615, 200000000),
      some (18446744073709551615, 999999999), none, some (9223372036854775807, 600000000)] := by
  decide

end Backoff

end Backlog
