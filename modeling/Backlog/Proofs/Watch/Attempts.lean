import Backlog.Proofs.Watch.Basic
import Backlog.Proofs.Workshop.Carried
/-!
# The attempts of a worker loop

A loop begins its attempts one at a time.  It begins one only where it stands before the next, and
it goes on from an attempt only with the result of it; so of all the attempts it ever began, the one
it is in is the only one that may not have ended (`Manned`).  It ends only between two attempts, and
only when it was told to.

What happens on a watch is divided here by what it is to the attempts: something happens in the
workshop, and the loop is where its attempt is; the loop begins an attempt; or it does something
else, and then it stays in its attempt, leaves it with the result, or is in none.

## Main results

* `Watch.turns_step` — what a moment is to the attempts of the loop, in three cases.
* `Watch.Manned.step` — where the attempts of the loop stand.
-/

namespace Backlog

variable {H : Type}

/-- The attempt that the loop is in. -/
def Worker.attempt? (k : Worker H) : Option (Attempt H) :=
  match k.point with
  | .attempting a => some a
  | _ => none

theorem Worker.attempt?_attend (k : Worker H) (r : Registry H) (b : Attempt H) :
    (k.attend (some (.attempt r b))).attempt? = k.attempt?.map fun _ => b := by
  unfold attend attempt?
  cases hp : k.point <;> simp [hp]

/-- A loop that is in no attempt is not concerned. -/
theorem Worker.attend_of_none {k : Worker H} (h : k.attempt? = none) (p : Option (Party H)) :
    k.attend p = k := by
  unfold attend
  split
  · split
    · next hp =>
        rw [attempt?, hp] at h
        cases h
    · rfl
  · rfl

theorem Worker.isStopped_attend (k : Worker H) (p : Option (Party H)) :
    (k.attend p).isStopped = k.isStopped := by
  unfold attend
  split
  · split
    · next hp => simp [isStopped, hp]
    · rfl
  · rfl

theorem Worker.attempt?_of_isStopped {k : Worker H} (h : k.isStopped = true) :
    k.attempt? = none := by
  unfold isStopped at h
  split at h
  · next hp => rw [attempt?, hp]
  · cases h

/-- Whether the loop is between two attempts and has not ended. -/
def Worker.isBetween (k : Worker H) : Bool :=
  match k.point with
  | .ready | .tired _ | .resting _ => true
  | .attempting _ | .stopped => false

theorem Worker.attempt?_of_isBetween {k : Worker H} (h : k.isBetween = true) :
    k.attempt? = none := by
  cases hp : k.point with
  | attempting a =>
      rw [isBetween, hp] at h
      cases h
  | ready | tired _ | resting _ | stopped => rw [attempt?, hp]

theorem Worker.isStopped_of_isBetween {k : Worker H} (h : k.isBetween = true) :
    k.isStopped = false := by
  cases hp : k.point with
  | stopped =>
      rw [isBetween, hp] at h
      cases h
  | ready | tired _ | resting _ | attempting _ => rw [isStopped, hp]

/-- A loop that takes the result of an attempt is between two attempts. -/
theorem Worker.isBetween_conclude (k : Worker H) (result : Except StoreError (Option Processed)) :
    (k.conclude result).1.isBetween = true := by
  rcases result with _ | _ | _ <;> rfl

namespace Watch

/-- Whether a moment is the beginning of an attempt. -/
def begins (w : Watch H) : Moment H → Bool
  | .begin =>
    match w.worker.point with
    | .ready => !w.stopping
    | _ => false
  | _ => false

/-- What a moment is to the attempts of the loop, and whether it begins one. -/
inductive Turns (ours : Nat → Bool) (w : Watch H) : Watch H → Bool → Prop where
  | shop (x : Happening H) : Turns ours w
      { w with
        shop := w.shop.step x
        worker := w.worker.attend ((w.shop.step x).parties[w.place]?)
        bell := if w.rings ours x then w.bell.ring w.worker.isResting else w.bell } false
  | begins (ready : w.worker.point = .ready) (untold : w.stopping = false) : Turns ours w
      { w with
        shop := w.shop.step (.arrive (.attempt w.registry))
        worker := (w.worker.begin false).1
        place := w.shop.parties.length } true
  /-- The loop stays in the attempt it is in, or has none; it leaves one only when that is done, and
  ends only when it was told to. -/
  | apart {k : Worker H} {b : Bell} {told : Bool}
      (stays : ∀ a, k.attempt? = some a → w.worker.attempt? = some a)
      (leaves : ∀ a, w.worker.attempt? = some a →
        k.attempt? = some a ∨ ∃ result, a = .done result)
      (ends : k.isStopped = true → w.worker.isStopped = true ∨ w.stopping = true)
      (stopped : w.worker.isStopped = true → k.isStopped = true)
      (kept : w.stopping = true → told = true) :
      Turns ours w { w with worker := k, bell := b, stopping := told } false

variable {ours : Nat → Bool} {w : Watch H}

theorem turns_self (ours : Nat → Bool) (w : Watch H) : Turns ours w w false :=
  .apart (fun _ h => h) (fun _ h => Or.inl h) Or.inl id id

/-- A loop that is between two attempts goes on, or ends if it was told to. -/
theorem turns_between {k : Worker H} {b : Bell} (hw : w.worker.isBetween = true)
    (hk : k.attempt? = none) (ends : k.isStopped = true → w.stopping = true) :
    Turns ours w { w with worker := k, bell := b } false := by
  refine .apart ?_ ?_ (fun h => Or.inr (ends h)) ?_ id
  · intro a ha
    rw [hk] at ha
    cases ha
  · intro a ha
    rw [Worker.attempt?_of_isBetween hw] at ha
    cases ha
  · intro h
    rw [Worker.isStopped_of_isBetween hw] at h
    cases h

/-- A loop leaves the attempt that is done. -/
theorem turns_left {result : Except StoreError (Option Processed)}
    (hdone : w.worker.point = .attempting (.done result)) :
    Turns ours w { w with worker := (w.worker.conclude result).1 } false := by
  have hleft := w.worker.isBetween_conclude result
  refine .apart ?_ ?_ ?_ ?_ id
  · intro a ha
    rw [Worker.attempt?_of_isBetween hleft] at ha
    cases ha
  · intro a ha
    rw [Worker.attempt?, hdone] at ha
    cases ha
    exact Or.inr ⟨result, rfl⟩
  · intro h
    rw [Worker.isStopped_of_isBetween hleft] at h
    cases h
  · intro h
    rw [Worker.isStopped, hdone] at h
    cases h

/-- Whatever happens on a watch is one of the three cases. -/
theorem turns_step (ours : Nat → Bool) (w : Watch H) (y : Moment H) :
    Turns ours w (w.step ours y) (w.begins y) := by
  have hself := turns_self ours w
  cases y with
  | shop x => exact .shop x
  | stop => exact .apart (fun _ h => h) (fun _ h => Or.inl h) Or.inl id fun _ => rfl
  | begin =>
      simp only [step, begins]
      cases hp : w.worker.point with
      | ready =>
          have hw : w.worker.isBetween = true := by rw [Worker.isBetween, hp]
          cases htold : w.stopping with
          | false =>
              have hbegins : Turns ours w _ true := .begins hp htold
              rw [htold] at hbegins
              exact hbegins
          | true =>
              have hends : Turns ours w { w with worker := (w.worker.begin true).1 } false :=
                turns_between hw rfl fun _ => htold
              rw [htold] at hends
              exact hends
      | attempting _ | tired _ | resting _ | stopped => exact hself
  | conclude =>
      simp only [step, begins]
      split
      · next result hdone => exact turns_left hdone
      · exact hself
  | lieDown now =>
      simp only [step, begins]
      split
      · next sleep hp =>
          have hw : w.worker.isBetween = true := by rw [Worker.isBetween, hp]
          split
          · exact turns_between hw rfl fun h => by cases h
          · have hlies : w.worker.lieDown now =
                ⟨.resting (now + sleep.nanos), w.worker.backoff⟩ := by
              simp only [Worker.lieDown, hp]
            rw [hlies]
            exact turns_between hw rfl fun h => by cases h
      · exact hself
  | wake =>
      simp only [step, begins]
      split
      · next deadline hp =>
          have hw : w.worker.isBetween = true := by rw [Worker.isBetween, hp]
          split
          · exact turns_between hw rfl fun h => by cases h
          · exact hself
      · exact hself
  | rise =>
      simp only [step, begins]
      cases hp : w.worker.point with
      | tired _ | resting _ =>
          have hw : w.worker.isBetween = true := by rw [Worker.isBetween, hp]
          exact turns_between hw rfl fun h => by cases h
      | ready | attempting _ | stopped => exact hself
  | halt =>
      simp only [step, begins]
      cases hp : w.worker.point with
      | tired _ | resting _ =>
          have hw : w.worker.isBetween = true := by rw [Worker.isBetween, hp]
          cases htold : w.stopping with
          | true =>
              have hends : Turns ours w
                  { w with worker := w.worker.stop.1, bell := w.bell.putBack } false :=
                turns_between hw rfl fun _ => htold
              rw [htold] at hends
              exact hends
          | false => exact hself
      | ready | attempting _ | stopped => exact hself

/-- A moment is a step of the workshop. -/
theorem shop_step (ours : Nat → Bool) (w : Watch H) (y : Moment H) :
    w.shop.Step (w.step ours y).shop := by
  have ht := w.turns_step ours y
  generalize w.step ours y = w', w.begins y = began at ht ⊢
  cases ht with
  | shop x => exact w.shop.step_of_happening x
  | begins _ _ => exact w.shop.step_of_happening (.arrive (.attempt w.registry))
  | apart _ _ _ _ _ => exact .idle

/-- A loop that has ended does not begin again, and a signal is not taken back. -/
theorem over_step (ours : Nat → Bool) (w : Watch H) (y : Moment H) :
    (w.worker.isStopped = true → (w.step ours y).worker.isStopped = true) ∧
      (w.stopping = true → (w.step ours y).stopping = true) := by
  have ht := w.turns_step ours y
  generalize w.step ours y = w', w.begins y = began at ht ⊢
  cases ht with
  | shop x =>
      refine ⟨fun h => ?_, id⟩
      rw [Worker.isStopped_attend]
      exact h
  | begins ready untold =>
      refine ⟨fun h => ?_, id⟩
      rw [Worker.isStopped, ready] at h
      cases h
  | apart _ _ _ stopped kept => exact ⟨stopped, kept⟩

/-- A watch whose loop has begun the attempts at these places: all of them have ended, but for the
one that the loop is in. -/
structure Manned (w : Watch H) (places : List Nat) : Prop where
  sound : w.shop.Sound
  carriedOut : w.shop.CarriedOut
  answered : w.shop.Answered
  here : ∀ a, w.worker.attempt? = some a →
    w.place ∈ places ∧ w.shop.parties[w.place]? = some (.attempt w.registry a)
  done : ∀ i ∈ places,
    (∃ result, w.shop.parties[i]? = some (.attempt w.registry (.done result))) ∨
      (i = w.place ∧ ∃ a, w.worker.attempt? = some a)
  told : w.worker.isStopped = true → w.stopping = true

theorem manned_start (config : EngineConfig) (registry : Registry H) (es : List StoreEvent) :
    (start config registry (Memory.empty.after es)).Manned [] where
  sound := Workshop.sound_opened (Memory.apart_after es)
  carriedOut := Workshop.carriedOut_opened _
  answered := Workshop.answered_opened _
  here := by intro a ha; cases ha
  done := by intro i hi; cases hi
  told := by intro h; cases h

/-- Where the loop's attempts stand after something happened in the workshop. -/
theorem Manned.shop {places : List Nat} (h : w.Manned places) (x : Happening H) :
    Manned { w with
      shop := w.shop.step x
      worker := w.worker.attend ((w.shop.step x).parties[w.place]?)
      bell := if w.rings ours x then w.bell.ring w.worker.isResting else w.bell } places := by
  have hs := w.shop.step_of_happening x
  have hhere : ∀ a, w.worker.attempt? = some a →
      ∃ b, (w.worker.attend ((w.shop.step x).parties[w.place]?)).attempt? = some b ∧
        (w.shop.step x).parties[w.place]? = some (.attempt w.registry b) := by
    intro a ha
    obtain ⟨b, hb⟩ := hs.grows.attempts (h.here a ha).2
    refine ⟨b, ?_, hb⟩
    rw [hb, Worker.attempt?_attend, ha]
    rfl
  refine ⟨h.sound.step hs, h.carriedOut.step hs h.sound.orderly, h.answered.step hs h.sound,
    ?_, ?_, ?_⟩
  · intro b hb
    cases ha : w.worker.attempt? with
    | none =>
        have hsame := Worker.attend_of_none ha ((w.shop.step x).parties[w.place]?)
        rw [hsame, ha] at hb
        cases hb
    | some a =>
        obtain ⟨b', hb', hstands⟩ := hhere a ha
        rw [hb'] at hb
        cases hb
        exact ⟨(h.here a ha).1, hstands⟩
  · intro i hi
    rcases h.done i hi with ⟨result, hresult⟩ | ⟨rfl, a, ha⟩
    · exact Or.inl ⟨result, (hs.done hresult).1⟩
    · obtain ⟨b, hb, _⟩ := hhere a ha
      exact Or.inr ⟨rfl, b, hb⟩
  · intro hstopped
    rw [Worker.isStopped_attend] at hstopped
    exact h.told hstopped

/-- Where the loop's attempts stand, through everything that can happen on a watch. -/
theorem Manned.step {w' : Watch H} {began : Bool} (ht : Turns ours w w' began)
    {places : List Nat} (h : w.Manned places) :
    w'.Manned (if began then w.shop.parties.length :: places else places) := by
  cases ht with
  | shop x => exact h.shop x
  | begins ready untold =>
      have hs := w.shop.step_of_happening (.arrive (.attempt w.registry))
      have hout : w.worker.attempt? = none := by rw [Worker.attempt?, ready]
      refine ⟨h.sound.step hs, h.carriedOut.step hs h.sound.orderly, h.answered.step hs h.sound,
        ?_, ?_, nofun⟩
      · intro a ha
        cases ha
        exact ⟨List.mem_cons_self, List.getElem?_concat_length⟩
      · intro i hi
        rw [if_pos rfl, List.mem_cons] at hi
        rcases hi with rfl | hi
        · exact Or.inr ⟨rfl, .poll, rfl⟩
        · rcases h.done i hi with ⟨result, hresult⟩ | ⟨_, a, ha⟩
          · exact Or.inl ⟨result, (hs.done hresult).1⟩
          · rw [hout] at ha
            cases ha
  | apart stays leaves ends stopped kept =>
      refine ⟨h.sound, h.carriedOut, h.answered, fun a ha => h.here a (stays a ha), ?_, ?_⟩
      · intro i hi
        rcases h.done i hi with hdone | ⟨rfl, a, ha⟩
        · exact Or.inl hdone
        · rcases leaves a ha with hin | ⟨result, rfl⟩
          · exact Or.inr ⟨rfl, a, hin⟩
          · exact Or.inl ⟨result, (h.here _ ha).2⟩
      · intro hstopped
        rcases ends hstopped with hbefore | htold
        · exact kept (h.told hbefore)
        · exact kept htold

end Watch

end Backlog
