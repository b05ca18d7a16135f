import Backlog.Proofs.Watch.Basic
import Backlog.Proofs.Workshop.Turns
/-!
# No lost wake-up

A loop that polls, finds nothing and lies down could miss a task that comes in between.  It does
not, since the submitter rings after the task is stored: either the poll still finds the task, or
the ring comes after the poll, and a ring that comes after the poll is kept for the rest or
delivered in it.  So a loop that rests after such a poll, with no ring to be heard, has nothing to
do for any submitter who has been answered (`Attentive`).

The invariant speaks of the whole time from the poll to the end of the rest, `Idle`.  While the loop
is idle, a task that waits and was announced has left a ring at the bell.  A poll that finds nothing
starts it, for then nothing waits; an insert keeps it, since a submitter is answered only after its
ring; and the bell is emptied only by the loop getting up.

The poll must have found nothing.  A loop also rests after it has lost a claim, and then a task may
wait that nobody rings for again.

## Main results

* `Entered.step` — who has inserted a task is about to ring, or has rung and answered.
* `Attentive.step` — the invariant, through everything that can happen on a watch.
* `no_lost_wake_up` — the invariant on every run.
-/

namespace Backlog

variable {H : Type}

/-- A poll that finds nothing met a store in which nothing is queued, and left it so. -/
theorem Memory.not_queued_of_poll {m : Memory} {now : Instant} {fault : Option StoreError}
    (h : (m.answer now fault .oldestQueued).2 = .ok none) {id : TaskId} {u : Task}
    (hu : (m.answer now fault .oldestQueued).1.find? id = some u) : u.status ≠ .queued := by
  rw [answer_lookup rfl] at hu
  obtain ⟨_, hreply⟩ := answer_ok h
  simp only [perform, Except.ok.injEq] at hreply
  intro hq
  have hmem : u ∈ m.tasks.filter fun t => t.status == .queued :=
    List.mem_filter.2 ⟨(find?_some hu).1, beq_iff_eq.2 hq⟩
  generalize m.tasks.filter (fun t => t.status == .queued) = ts at hreply hmem
  cases ts with
  | nil => cases hmem
  | cons t rest =>
      simp only [earliest?] at hreply
      split at hreply <;> cases hreply

namespace Workshop

variable {w w' : Workshop H}

/-- Who has inserted a task is about to announce it, or has answered with it. -/
def Entered (w : Workshop H) : Prop :=
  ∀ j m t, .call j m (.insert t) (.ok ()) ∈ w.history →
    w.parties[j]? = some (.submit (.signal t)) ∨ w.parties[j]? = some (.submit (.done (.ok t)))

theorem entered_opened (m : Memory) : (opened m : Workshop H).Entered := by
  intro j n t hd
  cases hd

/-- An insert that is new in the history was taken just now, and is about to be announced. -/
theorem Step.inserted (hs : w.Step w') {j : Nat} {m : Memory} {t : Task}
    (hd : .call j m (.insert t) (.ok ()) ∈ w'.history) :
    .call j m (.insert t) (.ok ()) ∈ w.history ∨
      w'.parties[j]? = some (.submit (.signal t)) := by
  rcases hs.called hd with hold | ⟨p, next, now, fresh, fault, stands, asks, hreply, rfl⟩
  · exact Or.inl hold
  · refine Or.inr ?_
    have hgoes := getElem?_ask stands now fault (.insert t) next
    rw [← hreply] at hgoes
    cases asks with
    | insert => exact hgoes

/-- Who has inserted a task announces it before the answer, through everything that can happen. -/
theorem Entered.step (hs : w.Step w') (h : w.Entered) : w'.Entered := by
  intro j m t hd
  rcases hs.inserted hd with hold | hnew
  · rcases h j m t hold with hsignal | hdone
    · obtain ⟨q, hq, hproceeds⟩ := hs.proceeds hsignal
      cases hproceeds with
      | stay => exact Or.inl hq
      | ask fault asks here => cases asks
      | signal stood =>
          cases stood
          exact Or.inr hq
      | handled outcome stood => cases stood
    · exact Or.inr (hs.answered hdone rfl)
  · exact Or.inl hnew

/-- A task waits that was inserted by one of our submissions, which has been answered. -/
def Waiting (ours : Nat → Bool) (w : Workshop H) : Prop :=
  ∃ j m t u a, ours j = true ∧ .call j m (.insert t) (.ok ()) ∈ w.history ∧
    w.submitting j = some a ∧ w.memory.find? t.id = some u ∧ u.status = .queued

/-- A task that is queued after a step and was stored before it was queued before it. -/
theorem Step.queued_before (hs : w.Step w') {id : TaskId} {t u : Task}
    (ht : w.memory.find? id = some t) (hu : w'.memory.find? id = some u)
    (hq : u.status = .queued) : t = u := by
  rcases hs.rewrites ht with hsame | ⟨i, v, hv, hrewrites⟩
  · exact Option.some.inj (hsame.symm.trans hu)
  · rw [hv] at hu
    cases hu
    cases hrewrites with
    | claim _ _ _ _ | cancel _ _ _ | sweep _ _ _ => cases hq
    | @outcome _ _ v _ _ _ _ _ _ => cases v <;> cases hq

/-- What waits after a step did so before it, unless its submitter has just given the signal. -/
theorem waiting_step {ours : Nat → Bool} (ht : w.Traced) (he : w.Entered) {x : Happening H}
    (h : (w.step x).Waiting ours) : w.Waiting ours ∨
      ∃ j t, ours j = true ∧ x.isTurnOf j = true ∧ w.parties[j]? = some (.submit (.signal t)) := by
  obtain ⟨j, m, t, u, a, hours, hd, ha, hu, hq⟩ := h
  have hs := w.step_of_happening x
  rw [submitting_eq_some_iff] at ha
  rcases hs.inserted hd with hold | hnew
  · obtain ⟨v, hv, _⟩ := ht t.id ⟨j, m, t, hold, rfl⟩
    have hvu := hs.queued_before hv hu hq
    rcases he j m t hold with hsignal | hdone
    · refine Or.inr ⟨j, t, hours, ?_, hsignal⟩
      by_contra hturn
      rw [submit_stays (Bool.not_eq_true _ ▸ hturn) hsignal] at ha
      cases ha
    · exact Or.inl ⟨j, m, t, v, .ok t, hours, hold, submitting_eq_some_iff.2 hdone, hv, hvu ▸ hq⟩
  · rw [hnew] at ha
    cases ha

end Workshop

namespace Watch

variable {ours : Nat → Bool} {w w' : Watch H}

/-- The last poll of the loop found nothing, and the loop has not got up since. -/
def Idle (w : Watch H) : Prop :=
  w.worker.isEngaged = true ∧ ∃ m, .call w.place m .oldestQueued (.ok none) ∈ w.shop.history

/-- While the loop is idle and something waits, there is a ring to be heard. -/
structure Attentive (ours : Nat → Bool) (w : Watch H) : Prop where
  sound : w.shop.Sound
  traced : w.shop.Traced
  entered : w.shop.Entered
  heard : w.Idle → w.shop.Waiting ours → w.bell.isSilent = false

theorem attentive_start (config : EngineConfig) (registry : Registry H) (es : List StoreEvent) :
    Attentive ours (start config registry (Memory.empty.after es)) where
  sound := Workshop.sound_opened (Memory.apart_after es)
  traced := Workshop.traced_opened _
  entered := Workshop.entered_opened _
  heard := by
    rintro ⟨hengaged, _⟩
    cases hengaged

/-- The ring of a submitter who gives the signal. -/
theorem rings_of_signal {x : Happening H} {j : Nat} {t : Task} (hours : ours j = true)
    (hx : x.isTurnOf j = true) (hj : w.shop.parties[j]? = some (.submit (.signal t))) :
    w.rings ours x = true := by
  cases x with
  | turn i now fresh fault =>
      have hi : i = j := eq_of_beq hx
      subst hi
      simp only [rings, hj]
      exact hours
  | arrive _ | finish _ _ | switch _ => cases hx

/-- The invariant, through something that happens in the workshop. -/
theorem Attentive.shop (h : Attentive ours w) (x : Happening H)
    (hidle : w.worker.isEngaged = true)
    (hpoll : ∃ m, .call w.place m .oldestQueued (.ok none) ∈ (w.shop.step x).history)
    (hwaiting : (w.shop.step x).Waiting ours) :
    (if w.rings ours x then w.bell.ring w.worker.isResting else w.bell).isSilent = false := by
  have hs := w.shop.step_of_happening x
  rcases Workshop.waiting_step h.traced h.entered hwaiting with hbefore | ⟨j, t, hours, hx, hj⟩
  · split
    · exact Bell.isSilent_ring _ _
    · obtain ⟨m, hd⟩ := hpoll
      rcases hs.called hd with hold | ⟨p, next, now, fresh, fault, _, _, hreply, hask⟩
      · exact h.heard ⟨hidle, m, hold⟩ hbefore
      · -- the poll was made just now, so nothing is queued
        obtain ⟨_, _, t, u, _, _, _, _, hu, hq⟩ := hwaiting
        rw [hask] at hu
        exact absurd hq (Memory.not_queued_of_poll hreply.symm hu)
  · rw [if_pos (rings_of_signal hours hx hj)]
    exact Bell.isSilent_ring _ _

/-- The invariant, through everything that can happen on a watch. -/
theorem Attentive.step (hs : Passes ours w w') (h : Attentive ours w) : Attentive ours w' := by
  cases hs with
  | shop x =>
      have hstep := w.shop.step_of_happening x
      refine ⟨h.sound.step hstep, h.traced.step hstep h.sound, h.entered.step hstep, ?_⟩
      rintro ⟨hengaged, hpoll⟩ hwaiting
      rw [Worker.isEngaged_attend] at hengaged
      exact h.shop x hengaged hpoll hwaiting
  | begin k =>
      have hstep := w.shop.step_of_happening (.arrive (.attempt w.registry))
      refine ⟨h.sound.step hstep, h.traced.step hstep h.sound, h.entered.step hstep, ?_⟩
      -- the new attempt has not polled yet
      rintro ⟨_, m, hd⟩ _
      exact absurd (h.sound.orderly.parties _ hd) (Nat.lt_irrefl _)
  | goOn engaged =>
      refine ⟨h.sound, h.traced, h.entered, ?_⟩
      rintro ⟨hengaged, hpoll⟩ hwaiting
      exact h.heard ⟨engaged hengaged, hpoll⟩ hwaiting
  | getUp up =>
      refine ⟨h.sound, h.traced, h.entered, ?_⟩
      rintro ⟨hengaged, _⟩ _
      rw [up] at hengaged
      cases hengaged

/-- A loop that rests after a poll that found nothing, with no ring to be heard, rests while nothing
waits. -/
def NoneMissed (ours : Nat → Bool) (w : Watch H) : Prop :=
  w.worker.isResting = true → (∃ m, .call w.place m .oldestQueued (.ok none) ∈ w.shop.history) →
    w.bell.isSilent = true → ¬ w.shop.Waiting ours

/-- **No lost wake-up.**  On every run of a loop in a workshop, from a store with any history of its
own: nobody who submitted through the engine, and was answered, waits for a loop that rests. -/
theorem no_lost_wake_up (config : EngineConfig) (registry : Registry H) (ours : Nat → Bool)
    (es : List StoreEvent) (ys : List (Moment H)) :
    ((start config registry (Memory.empty.after es)).after ours ys).NoneMissed ours := by
  have hattentive :
      Attentive ours ((start config registry (Memory.empty.after es)).after ours ys) :=
    keeps_of_step (fun v y hv => hv.step (v.passes_step ours y))
      (attentive_start config registry es) ys
  intro hresting hpoll hsilent hwaiting
  have hrung := hattentive.heard ⟨Worker.isEngaged_of_isResting hresting, hpoll⟩ hwaiting
  rw [hsilent] at hrung
  cases hrung

/-! ## Two runs of a loop -/

open Workshop (idOf invoiceForm invoiceRegistry threeTurns)

/-- An engine at an empty store. -/
def newEngine : Watch Unit := start .default invoiceRegistry (Memory.empty.after [])

/-- A task comes in between a poll that found nothing and the rest; the loop hears of it, does the
work and rests. -/
def heardInTime : List (Moment Unit) :=
  [.begin, .shop (.turn 0 .epoch (idOf 0) none), .conclude,
    .shop (.arrive (.submit invoiceForm))] ++
    (threeTurns 1 (idOf 1)).map .shop ++ [.lieDown 0, .begin] ++
    (threeTurns 2 (idOf 0)).map .shop ++
    [.shop (.finish 2 (.returned .null)), .shop (.turn 2 .epoch (idOf 0) none), .conclude,
      .begin, .shop (.turn 3 .epoch (idOf 0) none), .conclude, .lieDown 0]

example : let w := newEngine.after (fun _ => true) heardInTime
    w.worker.isResting = true ∧ w.bell.isSilent = true ∧ (w.shop.submitting 1).isSome = true ∧
      (w.shop.memory.find? (idOf 1)).map Task.status = some .succeeded := by
  decide +kernel

/-- Two tasks come in and ring once; the loop loses the claim of the first to another engine. -/
def claimLost : List (Moment Unit) :=
  [.begin, .shop (.turn 0 .epoch (idOf 0) none), .conclude,
    .shop (.arrive (.submit invoiceForm)),
    .shop (.arrive (.submit { invoiceForm with target := "inv2" }))] ++
    (threeTurns 1 (idOf 1)).map .shop ++
    (threeTurns 2 (idOf 2)).map .shop ++
    [.lieDown 0, .begin, .shop (.turn 3 .epoch (idOf 0) none),
      .shop (.arrive (.attempt invoiceRegistry)),
      .shop (.turn 4 .epoch (idOf 0) none), .shop (.turn 4 .epoch (idOf 0) none),
      .shop (.turn 3 .epoch (idOf 0) none), .conclude, .lieDown 0]

/-- After a lost claim a loop can rest, with no ring to be heard, while a task waits whose submitter
has been answered. -/
example : let w := newEngine.after (fun _ => true) claimLost
    w.worker.isResting = true ∧ w.bell.isSilent = true ∧ (w.shop.submitting 2).isSome = true ∧
      (w.shop.memory.find? (idOf 2)).map Task.status = some .queued := by
  decide +kernel

end Watch

end Backlog
