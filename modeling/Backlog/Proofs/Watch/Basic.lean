import Backlog.Engine.Worker
import Backlog.Proofs.Workshop.Provenance
/-!
# A worker loop among others

A workshop has attempts at its queue but no loops, since it does not matter to the store who begins
an attempt and why.  It matters to a loop, which rests when it has found nothing and relies on being
woken.  A watch is a workshop together with one worker loop and its wake signal.  The attempts of
the loop are parties of the workshop like all others, so a turn of the loop inside an attempt is a
turn of that party.

The wake signal is a bell with one place for a ring that nobody waited for.  A ring while the worker
rests is delivered to it, and one that was delivered cannot be lost: a worker that gets up for
another reason puts it back.  Looking at the bell and lying down are one step, as they are for the
signal itself, but the poll, the decision to rest and the rest are three.

## Main results

* `passes_step` — what can happen on a watch, in four cases.
-/

namespace Backlog

variable {H : Type}

/-- The wake signal of an engine. -/
structure Bell where
  /-- A ring is kept for the next rest. -/
  stored : Bool
  /-- A ring was delivered to the worker, which has not got up yet. -/
  delivered : Bool
  deriving DecidableEq, Repr

namespace Bell

/-- A bell that was not rung. -/
def still : Bell := ⟨false, false⟩

/-- A ring is delivered to a worker that waits for one, and kept otherwise; rings do not add up. -/
def ring (b : Bell) (awaited : Bool) : Bell :=
  if awaited && !b.delivered then { b with delivered := true } else { b with stored := true }

/-- A worker that gets up without having heard the ring puts it back. -/
def putBack (b : Bell) : Bell := ⟨b.stored || b.delivered, false⟩

/-- Whether there is no ring to be heard. -/
def isSilent (b : Bell) : Bool := !b.stored && !b.delivered

theorem isSilent_ring (b : Bell) (awaited : Bool) : (b.ring awaited).isSilent = false := by
  unfold ring isSilent
  split <;> simp

end Bell

namespace Worker

/-- Whether the loop rests. -/
def isResting (k : Worker H) : Bool :=
  match k.point with
  | .resting _ => true
  | _ => false

/-- Whether the loop is between the beginning of an attempt and the end of the rest after it. -/
def isEngaged (k : Worker H) : Bool :=
  match k.point with
  | .attempting _ | .tired _ | .resting _ => true
  | .ready | .stopped => false

/-- A loop in an attempt is where the party of the attempt is. -/
def attend (k : Worker H) : Option (Party H) → Worker H
  | some (.attempt _ a) =>
    match k.point with
    | .attempting _ => { k with point := .attempting a }
    | _ => k
  | _ => k

@[simp] theorem isEngaged_attend (k : Worker H) (p : Option (Party H)) :
    (k.attend p).isEngaged = k.isEngaged := by
  unfold attend
  split
  · split
    · next hk => simp [isEngaged, hk]
    · rfl
  · rfl

theorem isEngaged_of_isResting {k : Worker H} (h : k.isResting = true) : k.isEngaged = true := by
  unfold isResting at h
  unfold isEngaged
  split at h
  · next hk => rw [hk]
  · cases h

end Worker

/-- A workshop and a worker loop with its wake signal. -/
structure Watch (H : Type) where
  shop : Workshop H
  /-- The handlers of the engine. -/
  registry : Registry H
  worker : Worker H
  /-- The place of the latest attempt of the loop among the parties. -/
  place : Nat
  bell : Bell
  /-- Whether the loop was told to stop. -/
  stopping : Bool

/-- Something that happens on a watch. -/
inductive Moment (H : Type) where
  /-- Something happens in the workshop; it may be a turn of the loop inside an attempt. -/
  | shop (x : Happening H)
  /-- The loop begins an attempt, or ends. -/
  | begin
  /-- The loop takes the result of its attempt. -/
  | conclude
  /-- The loop lies down, or hears a ring that was kept. -/
  | lieDown (now : Nat)
  /-- The ring that was delivered is heard. -/
  | wake
  /-- The time of the rest is over. -/
  | rise
  /-- The loop is told to stop. -/
  | stop
  /-- A resting loop ends because it was told so. -/
  | halt

namespace Watch

/-- An engine before its loop begins, at a store. -/
def start (config : EngineConfig) (registry : Registry H) (m : Memory) : Watch H where
  shop := .opened m
  registry := registry
  worker := Worker.start config
  place := 0
  bell := .still
  stopping := false

/-- Whether something that happens in the workshop is a signal to this engine; `ours` are the
submissions that go through its services. -/
def rings (ours : Nat → Bool) (w : Watch H) : Happening H → Bool
  | .turn j _ _ _ =>
    match w.shop.parties[j]? with
    | some (.submit (.signal _)) => ours j
    | _ => false
  | _ => false

/-- A watch after something happened; what cannot happen changes nothing. -/
def step (ours : Nat → Bool) (w : Watch H) : Moment H → Watch H
  | .shop x =>
    { w with
      shop := w.shop.step x
      worker := w.worker.attend ((w.shop.step x).parties[w.place]?)
      bell := if w.rings ours x then w.bell.ring w.worker.isResting else w.bell }
  | .begin =>
    match w.worker.point with
    | .ready =>
      if w.stopping then { w with worker := (w.worker.begin true).1 }
      else
        { w with
          shop := w.shop.step (.arrive (.attempt w.registry))
          worker := (w.worker.begin false).1
          place := w.shop.parties.length }
    | _ => w
  | .conclude =>
    match w.worker.point with
    | .attempting (.done r) => { w with worker := (w.worker.conclude r).1 }
    | _ => w
  | .lieDown now =>
    match w.worker.point with
    | .tired _ =>
      if w.bell.stored then
        { w with worker := w.worker.wake, bell := { w.bell with stored := false } }
      else { w with worker := w.worker.lieDown now }
    | _ => w
  | .wake =>
    match w.worker.point with
    | .resting _ =>
      if w.bell.delivered then
        { w with worker := w.worker.wake, bell := { w.bell with delivered := false } }
      else w
    | _ => w
  | .rise =>
    match w.worker.point with
    | .tired _ | .resting _ => { w with worker := w.worker.riseAtTime, bell := w.bell.putBack }
    | _ => w
  | .stop => { w with stopping := true }
  | .halt =>
    match w.worker.point with
    | .tired _ | .resting _ =>
      if w.stopping then { w with worker := w.worker.stop.1, bell := w.bell.putBack } else w
    | _ => w

/-- A watch after a run. -/
def after (ours : Nat → Bool) (w : Watch H) (ys : List (Moment H)) : Watch H :=
  ys.foldl (step ours) w

variable {ours : Nat → Bool} {w : Watch H}

/-- What every moment keeps, every run keeps. -/
theorem keeps_of_step {P : Watch H → Prop} (keep : ∀ w y, P w → P (w.step ours y)) (h : P w)
    (ys : List (Moment H)) : P (w.after ours ys) := by
  induction ys generalizing w with
  | nil => exact h
  | cons y ys ih => exact ih (keep w y h)

/-- What can happen on a watch. -/
inductive Passes (ours : Nat → Bool) (w : Watch H) : Watch H → Prop where
  | shop (x : Happening H) : Passes ours w
      { w with
        shop := w.shop.step x
        worker := w.worker.attend ((w.shop.step x).parties[w.place]?)
        bell := if w.rings ours x then w.bell.ring w.worker.isResting else w.bell }
  | begin (k : Worker H) : Passes ours w
      { w with
        shop := w.shop.step (.arrive (.attempt w.registry))
        worker := k
        place := w.shop.parties.length }
  /-- The loop goes on, by what it was engaged in. -/
  | goOn {k : Worker H} {stopping : Bool}
      (engaged : k.isEngaged = true → w.worker.isEngaged = true) :
      Passes ours w { w with worker := k, stopping := stopping }
  /-- The loop gets up, or ends. -/
  | getUp {k : Worker H} {b : Bell} (up : k.isEngaged = false) :
      Passes ours w { w with worker := k, bell := b }

theorem passes_self (ours : Nat → Bool) (w : Watch H) : Passes ours w w :=
  .goOn id

/-- Whatever happens on a watch is one of the four cases. -/
theorem passes_step (ours : Nat → Bool) (w : Watch H) (y : Moment H) :
    Passes ours w (w.step ours y) := by
  cases y with
  | shop x => exact .shop x
  | stop => exact .goOn id
  | begin =>
      simp only [step]
      split
      · split
        · exact .getUp rfl
        · exact .begin _
      · exact passes_self ours w
  | conclude =>
      simp only [step]
      split
      · next r hr =>
          refine .goOn fun _ => ?_
          rw [Worker.isEngaged, hr]
      · exact passes_self ours w
  | lieDown now =>
      simp only [step]
      split
      · next sleep hsleep =>
          split
          · exact .getUp rfl
          · refine .goOn fun _ => ?_
            rw [Worker.isEngaged, hsleep]
      · exact passes_self ours w
  | wake =>
      simp only [step]
      split
      · split
        · exact .getUp rfl
        · exact passes_self ours w
      · exact passes_self ours w
  | rise =>
      simp only [step]
      split
      · exact .getUp rfl
      · exact .getUp rfl
      · exact passes_self ours w
  | halt =>
      simp only [step]
      split
      · split
        · exact .getUp rfl
        · exact passes_self ours w
      · split
        · exact .getUp rfl
        · exact passes_self ours w
      · exact passes_self ours w

end Watch

end Backlog
