import Backlog.Engine.Sweeper
import Backlog.Proofs.Watch.Attempts
import Backlog.Proofs.Workshop.Clock
/-!
# An engine at work

A spawned engine runs two loops.  A watch has the worker loop and the signal that ends it; a shift
adds the loop that sweeps, the time by which that loop goes, and the caller who stops the engine
and waits until both loops have ended.

The worker loop is that of the watch.  It may lie down, hear a ring or get up in any order the watch
allows, so a rest may also end before its time, and what holds of a shift holds whichever branch a
loop takes when several are ready.  The sweep loop looks at its timer and at the signal together,
and when both are there the beat says which it takes.

The sweeps of the loop are parties of the workshop, as its attempts are.  Any time may pass at any
point, so a sweep may take longer than the interval between two of them, and the loop may be late
for its look.  What is true only of loops that are in time is said of the runs in which they are.

Beside its state a shift keeps what happened in it: the places of the attempts that the worker
began, what came of the looks of the sweep loop, and every deed with the moment it was done.

## Main results

* `goes_step` — what can happen on a shift, in eight cases.
* `Kept.step`, `kept_after` — the order that the loops keep.
-/

namespace Backlog

variable {H : Type}

/-- The loop is where its sweep is. -/
def Sweeper.attend (k : Sweeper) : Option (Party H) → Sweeper
  | some (.sweep x) =>
    match k with
    | .sweeping _ next => .sweeping x next
    | k => k
  | _ => k

theorem Sweeper.attend_eq_waiting {k : Sweeper} {p : Option (Party H)} {due : Nat}
    (h : k.attend p = .waiting due) : k = .waiting due := by
  unfold attend at h
  split at h
  · split at h
    · cases h
    · exact h
  · exact h

theorem Sweeper.attend_eq_sweeping {k : Sweeper} {p : Option (Party H)} {x : Sweep} {next : Nat}
    (h : k.attend p = .sweeping x next) : ∃ x', k = .sweeping x' next := by
  unfold attend at h
  split at h
  · split at h
    · cases h
      exact ⟨_, rfl⟩
    · exact ⟨x, h⟩
  · exact ⟨x, h⟩

theorem Sweeper.isStopped_attend (k : Sweeper) (p : Option (Party H)) :
    (k.attend p).isStopped = k.isStopped := by
  unfold attend
  split
  · split <;> rfl
  · rfl

/-- The moment after the one that is due is still to come. -/
theorem Sweeper.lt_nextDue {interval due now : Nat} (h : tolerance < interval) :
    now < nextDue interval due now := by
  unfold nextDue
  split
  · omega
  · have hmod := Nat.mod_lt (now - due) (Nat.lt_of_le_of_lt (Nat.zero_le _) h)
    omega

/-- A sweep stays where it is or is done. -/
theorem Workshop.Step.sweeps {w w' : Workshop H} (hs : w.Step w') {i : Nat} {x : Sweep}
    (hi : w.parties[i]? = some (.sweep x)) :
    ∃ x', w'.parties[i]? = some (.sweep x') ∧
      (x' = x ∨ ∃ cutoff r, x = .write cutoff ∧ x' = .done r) := by
  obtain ⟨q, hq, hproceeds⟩ := hs.proceeds hi
  cases hproceeds with
  | stay => exact ⟨x, hq, Or.inl rfl⟩
  | ask fault asks here =>
      cases asks with
      | @sweep cutoff =>
          refine ⟨_, hq, Or.inr ⟨cutoff, ?_⟩⟩
          generalize (w.memory.answer _ fault _).2 = reply
          cases reply <;> exact ⟨_, rfl, rfl⟩
  | signal stood => cases stood
  | handled outcome stood => cases stood

/-- What came of a look of the sweep loop, if it did not rest again. -/
inductive Pick where
  /-- A sweep began that was due at a moment; it has this place among the parties. -/
  | swept (due begun place : Nat)
  /-- The loop ended. -/
  | ended
  deriving DecidableEq, Repr

/-- A spawned engine in its workshop. -/
structure Shift (H : Type) where
  config : EngineConfig
  watch : Watch H
  sweeper : Sweeper
  /-- The place of the latest sweep of the loop among the parties. -/
  sweepPlace : Nat
  /-- Whether the sweep loop has not rested since its start or its last sweep. -/
  awake : Bool
  /-- The time since the engine was spawned, in nanoseconds. -/
  now : Nat
  /-- Whether the caller who stopped the engine has returned. -/
  returned : Bool
  /-- The places of the attempts that the worker loop has begun, the last one first. -/
  attempts : List Nat
  /-- What came of the looks of the sweep loop, the last one first. -/
  picks : List Pick
  /-- What was done in the workshop and when, the last deed first. -/
  diary : List (Nat × Deed H)

/-- Something that happens on a shift. -/
inductive Beat (H : Type) where
  /-- Something happens on the watch. -/
  | moment (y : Moment H)
  /-- The sweep loop looks at its timer and at the signal, and at the clock if it sweeps; when both
  are there it sweeps if it takes the tick. -/
  | look (tick : Bool) (reading : Instant)
  /-- The sweep loop takes the result of its sweep. -/
  | conclude
  | pass (nanos : Nat)
  /-- Who stopped the engine looks whether both loops have ended. -/
  | join

namespace Shift

/-- An engine just spawned at a store. -/
def start (config : EngineConfig) (registry : Registry H) (m : Memory) : Shift H where
  config := config.normalized
  watch := .start config.normalized registry m
  sweeper := Sweeper.start config.normalized 0
  sweepPlace := 0
  awake := true
  now := 0
  returned := false
  attempts := []
  picks := []
  diary := []

/-- A shift after a moment of its watch. -/
def moment (ours : Nat → Bool) (s : Shift H) (y : Moment H) : Shift H :=
  let v := s.watch.step ours y
  { s with
    watch := v
    sweeper := s.sweeper.attend (v.shop.parties[s.sweepPlace]?)
    attempts :=
      if s.watch.begins y then s.watch.shop.parties.length :: s.attempts else s.attempts
    diary := (s.watch.shop.recent v.shop).map (fun d => (s.now, d)) ++ s.diary }

/-- A shift after something happened; what cannot happen changes nothing. -/
def step (ours : Nat → Bool) (s : Shift H) : Beat H → Shift H
  | .moment y => s.moment ours y
  | .look tick reading =>
    match s.sweeper with
    | .waiting due =>
      if due ≤ s.now ∧ (tick = true ∨ s.watch.stopping = false) then
        { s.moment ours (.shop (.arrive (.sweep reading s.config.processingLimit))) with
          sweeper := Sweeper.begin s.config reading due s.now
          sweepPlace := s.watch.shop.parties.length
          picks := .swept due s.now s.watch.shop.parties.length :: s.picks }
      else if s.watch.stopping then
        { s with sweeper := Sweeper.stop.1, picks := .ended :: s.picks }
      else { s with awake := false }
    | _ => s
  | .conclude =>
    match s.sweeper with
    | .sweeping (.done r) next => { s with sweeper := (Sweeper.conclude next r).1, awake := true }
    | _ => s
  | .pass nanos => { s with now := s.now + nanos }
  | .join =>
    if s.watch.stopping && s.watch.worker.isStopped && s.sweeper.isStopped then
      { s with returned := true }
    else s

/-- A shift after a run. -/
def after (ours : Nat → Bool) (s : Shift H) (bs : List (Beat H)) : Shift H :=
  bs.foldl (step ours) s

variable {ours : Nat → Bool} {s : Shift H}

theorem after_append (s : Shift H) (bs cs : List (Beat H)) :
    s.after ours (bs ++ cs) = (s.after ours bs).after ours cs := List.foldl_append

/-- What every beat keeps, every run keeps. -/
theorem keeps_of_step {P : Shift H → Prop} (keep : ∀ s b, P s → P (s.step ours b)) (h : P s)
    (bs : List (Beat H)) : P (s.after ours bs) := by
  induction bs generalizing s with
  | nil => exact h
  | cons b bs ih => exact ih (keep s b h)

/-- What can happen on a shift. -/
inductive Goes (ours : Nat → Bool) (s : Shift H) : Beat H → Shift H → Prop where
  | moment (y : Moment H) : Goes ours s (.moment y) (s.moment ours y)
  | sweeps {due : Nat} {tick : Bool} {reading : Instant} (waits : s.sweeper = .waiting due)
      (comes : due ≤ s.now) (taken : tick = true ∨ s.watch.stopping = false) :
      Goes ours s (.look tick reading)
        { s.moment ours (.shop (.arrive (.sweep reading s.config.processingLimit))) with
          sweeper := Sweeper.begin s.config reading due s.now
          sweepPlace := s.watch.shop.parties.length
          picks := .swept due s.now s.watch.shop.parties.length :: s.picks }
  | ends {due : Nat} {tick : Bool} {reading : Instant} (waits : s.sweeper = .waiting due)
      (told : s.watch.stopping = true) :
      Goes ours s (.look tick reading)
        { s with sweeper := Sweeper.stop.1, picks := .ended :: s.picks }
  | rests {due : Nat} {tick : Bool} {reading : Instant} (waits : s.sweeper = .waiting due)
      (early : s.now < due) (untold : s.watch.stopping = false) :
      Goes ours s (.look tick reading) { s with awake := false }
  | concludes {r : Except StoreError Nat} {next : Nat}
      (swept : s.sweeper = .sweeping (.done r) next) :
      Goes ours s .conclude { s with sweeper := .waiting next, awake := true }
  | passes (nanos : Nat) : Goes ours s (.pass nanos) { s with now := s.now + nanos }
  | returns (told : s.watch.stopping = true) (worker : s.watch.worker.isStopped = true)
      (sweeper : s.sweeper.isStopped = true) : Goes ours s .join { s with returned := true }
  | same {b : Beat H} : Goes ours s b s

/-- Whatever happens on a shift is one of the eight cases. -/
theorem goes_step (ours : Nat → Bool) (s : Shift H) (b : Beat H) :
    Goes ours s b (s.step ours b) := by
  cases b with
  | moment y => exact .moment y
  | look tick reading =>
      simp only [step]
      split
      · next due hwaits =>
          split
          · next hcomes => exact .sweeps hwaits hcomes.1 hcomes.2
          · next hnot =>
              cases htold : s.watch.stopping with
              | true =>
                  rw [if_pos rfl]
                  exact .ends hwaits htold
              | false =>
                  have hearly : s.now < due := by
                    by_contra hlate
                    exact hnot ⟨Nat.le_of_not_lt hlate, Or.inr htold⟩
                  rw [if_neg Bool.false_ne_true]
                  exact .rests hwaits hearly htold
      · exact .same
  | conclude =>
      simp only [step]
      split
      · next r next hswept =>
          have hconcludes : Goes ours s .conclude _ := .concludes hswept
          cases r <;> exact hconcludes
      · exact .same
  | pass nanos => exact .passes nanos
  | join =>
      simp only [step]
      split
      · next hover =>
          simp only [Bool.and_eq_true] at hover
          exact .returns hover.1.1 hover.1.2 hover.2
      · exact .same

/-! ## The order of a shift -/

/-- The order that the loops of a shift keep. -/
structure Kept (s : Shift H) : Prop where
  manned : s.watch.Manned s.attempts
  /-- A sweep of the loop is where its party is. -/
  sweeping : ∀ x next, s.sweeper = .sweeping x next →
    s.watch.shop.parties[s.sweepPlace]? = some (.sweep x)
  told : s.sweeper.isStopped = true → s.watch.stopping = true
  returned : s.returned = true → s.watch.worker.isStopped = true ∧ s.sweeper.isStopped = true
  interval : Sweeper.tolerance < s.config.sweepInterval.nanos

/-- The least interval between sweeps is far longer than the tolerance. -/
theorem tolerance_lt (config : EngineConfig) :
    Sweeper.tolerance < config.normalized.sweepInterval.nanos := by
  have hfloor : EngineConfig.sweepFloor ≤ config.normalized.sweepInterval :=
    config.normalized_bounds.2.2.2.1
  have hnanos : EngineConfig.sweepFloor.nanos = 5000000000 := by decide
  rw [Duration.le_def, hnanos] at hfloor
  unfold Sweeper.tolerance
  omega

theorem kept_start (config : EngineConfig) (registry : Registry H) (es : List StoreEvent) :
    Kept (start config registry (Memory.empty.after es)) where
  manned := Watch.manned_start config.normalized registry es
  sweeping := by intro x next h; cases h
  told := by intro h; cases h
  returned := by intro h; cases h
  interval := tolerance_lt config

/-- The order of a shift, through a moment of its watch. -/
theorem Kept.moment (h : Kept s) (y : Moment H) : Kept (s.moment ours y) where
  manned := h.manned.step (s.watch.turns_step ours y)
  sweeping := by
    intro x next hx
    obtain ⟨x₀, hx₀⟩ := Sweeper.attend_eq_sweeping hx
    have hstood := h.sweeping x₀ next hx₀
    obtain ⟨x', hx', _⟩ := (s.watch.shop_step ours y).sweeps hstood
    have hattend : s.sweeper.attend ((s.watch.step ours y).shop.parties[s.sweepPlace]?) =
        .sweeping x' next := by
      rw [hx₀, hx']
      rfl
    have hsame : x' = x := by
      have heq := hattend.symm.trans hx
      cases heq
      rfl
    exact hsame ▸ hx'
  told := by
    intro hstopped
    have hbefore : s.sweeper.isStopped = true := by
      rw [← Sweeper.isStopped_attend s.sweeper]
      exact hstopped
    exact (s.watch.over_step ours y).2 (h.told hbefore)
  returned := by
    intro hreturned
    obtain ⟨hworker, hsweeper⟩ := h.returned hreturned
    refine ⟨(s.watch.over_step ours y).1 hworker, ?_⟩
    show (s.sweeper.attend _).isStopped = true
    rw [Sweeper.isStopped_attend]
    exact hsweeper
  interval := h.interval

/-- The order of a shift, through everything that can happen. -/
theorem Kept.step {s' : Shift H} {b : Beat H} (hg : Goes ours s b s') (h : Kept s) : Kept s' := by
  cases hg with
  | moment y => exact h.moment y
  | @sweeps due tick reading waits comes taken =>
      have hmoment : Kept (s.moment ours
          (.shop (.arrive (.sweep reading s.config.processingLimit)))) := h.moment _
      refine ⟨hmoment.manned, ?_, ?_, ?_, h.interval⟩
      · intro x next hx
        cases hx
        exact List.getElem?_concat_length
      · intro hx
        cases hx
      · intro hreturned
        have hstopped := (h.returned hreturned).2
        rw [waits] at hstopped
        cases hstopped
  | ends waits told =>
      refine ⟨h.manned, ?_, fun _ => told, ?_, h.interval⟩
      · intro x next hx
        cases hx
      · intro hreturned
        exact ⟨(h.returned hreturned).1, rfl⟩
  | rests _ _ _ | passes _ => exact ⟨h.manned, h.sweeping, h.told, h.returned, h.interval⟩
  | concludes swept =>
      refine ⟨h.manned, ?_, ?_, ?_, h.interval⟩
      · intro x next hx
        cases hx
      · intro hx
        cases hx
      · intro hreturned
        have hstopped := (h.returned hreturned).2
        rw [swept] at hstopped
        cases hstopped
  | returns told worker sweeper =>
      exact ⟨h.manned, h.sweeping, h.told, fun _ => ⟨worker, sweeper⟩, h.interval⟩
  | same => exact h

/-- The turn of its party makes the sweep that the loop is about to make. -/
theorem Kept.sweep_made (ours : Nat → Bool) (h : Kept s) {cutoff : Instant} {next : Nat}
    (hp : s.sweeper = .sweeping (.write cutoff) next) (reading : Instant) (fresh : TaskId) :
    ∃ r, (s.moment ours (.shop (.turn s.sweepPlace reading fresh none))).sweeper =
      .sweeping (.done r) next := by
  have hstands := h.sweeping _ next hp
  obtain ⟨q, hq, hle⟩ := Workshop.movesLeft_turn hstands reading fresh none
  obtain ⟨x, hx, _⟩ := (s.watch.shop.step_of_happening
    (.turn s.sweepPlace reading fresh none)).sweeps hstands
  rw [hx] at hq
  cases hq
  cases x with
  | write _ => exact absurd hle (Nat.not_succ_le_zero 0)
  | done r =>
      refine ⟨r, ?_⟩
      show s.sweeper.attend ((s.watch.shop.step _).parties[s.sweepPlace]?) = _
      rw [hp, hx]
      rfl

/-- The order of a shift on every run. -/
theorem kept_after (ours : Nat → Bool) (config : EngineConfig) (registry : Registry H)
    (es : List StoreEvent) (bs : List (Beat H)) :
    Kept ((start config registry (Memory.empty.after es)).after ours bs) :=
  keeps_of_step (fun s b h => h.step (s.goes_step ours b)) (kept_start config registry es) bs

end Shift

end Backlog
