import Backlog.Proofs.Workshop.Claims
/-!
# The invariant of a workshop

An attempt that holds a claimed task remembers the record it polled.  What the store has under
that identifier may be something else by now, and this module says what: the same work, and either
still in processing or taken from the attempt (`Interrupted`) by a cancellation or by a sweep.
Nothing else can have happened.  A second claim needs a queued task, and nothing becomes queued
again; an outcome is written only by the party that holds the claim, and that is this attempt,
which has not written yet.

`Sound` collects this with the invariants of the store and of the claims.  It holds in every
workshop that is reached from a store with a history of its own (`sound_after`).

## Main results

* `Sound.step`, `sound_after` — the invariant of one step and of a run.
* `Sound.held` — what has become of a task whose claim is held.
-/

namespace Backlog

variable {H : Type}

namespace Workshop

variable {w w' : Workshop H}

/-- A sweep met a task as stale and failed it. -/
def TimedOut (w : Workshop H) (id : TaskId) : Prop :=
  ∃ (i : Nat) (m : Memory) (cutoff : Instant) (rows : Nat) (t : Task),
    .call i m (.failStale cutoff Sweep.timeoutMessage) (.ok rows) ∈ w.history ∧
      m.find? id = some t ∧ Memory.isStale cutoff t = true

/-- A stored task was taken from whoever had claimed it: it is canceled, or a sweep failed it. -/
def Interrupted (w : Workshop H) (u : Task) : Prop :=
  u.status = .canceled ∨ (u.status = .failed ∧ w.TimedOut u.id)

theorem TimedOut.mono {id : TaskId} (h : w.TimedOut id) (hg : w.Grows w') : w'.TimedOut id := by
  obtain ⟨i, m, cutoff, rows, t, hdeed, ht, hstale⟩ := h
  exact ⟨i, m, cutoff, rows, t, hg.history hdeed, ht, hstale⟩

theorem Interrupted.mono {u : Task} (h : w.Interrupted u) (hg : w.Grows w') :
    w'.Interrupted u := by
  rcases h with hcanceled | ⟨hfailed, htimeout⟩
  · exact Or.inl hcanceled
  · exact Or.inr ⟨hfailed, htimeout.mono hg⟩

theorem Interrupted.isTerminal {u : Task} (h : w.Interrupted u) : u.status.isTerminal = true := by
  rcases h with hstatus | ⟨hstatus, _⟩ <;> rw [hstatus] <;> rfl

/-- Everything that holds of a workshop on a run. -/
structure Sound (w : Workshop H) : Prop where
  apart : Memory.Apart w.memory.tasks
  orderly : w.Orderly
  claims : w.Claims
  /-- What an attempt works on is stored. -/
  known : ∀ {i : Nat} {r : Registry H} {a : Attempt H} {t : Task},
    w.parties[i]? = some (.attempt r a) → a.task? = some t →
      ∃ u, w.memory.find? t.id = some u ∧ t.SameWork u
  /-- What an attempt has claimed is in processing or was taken from it. -/
  held : ∀ {i : Nat} {r : Registry H} {a : Attempt H} {t u : Task},
    w.parties[i]? = some (.attempt r a) → a.claimed? = some t → w.memory.find? t.id = some u →
      u.status = .processing ∨ w.Interrupted u

theorem sound_opened {m : Memory} (h : Memory.Apart m.tasks) : (opened m : Workshop H).Sound where
  apart := h
  orderly := orderly_opened m
  claims := claims_opened m
  known := by intro i r a t hi; cases hi
  held := by intro i r a t u hi; cases hi

/-- The task of an attempt is the one it had, or was just polled. -/
theorem Moved.task? {r : Registry H} {a b : Attempt H} {t : Task} (h : Moved w w' r a b)
    (hb : b.task? = some t) : a.task? = some t ∨ t ∈ w.memory.tasks := by
  cases h with
  | polled stored =>
      cases hb
      exact Or.inr stored
  | ended => cases hb
  | stay | claimed _ _ | dispatched _ | unknown _ | handled _ => exact Or.inl hb

/-- The claimed task of an attempt is the one it had, or its claim was just won. -/
theorem Moved.claimed? {r : Registry H} {a b : Attempt H} {t : Task} (h : Moved w w' r a b)
    (hb : b.claimed? = some t) :
    a.claimed? = some t ∨ ∃ u, w'.memory.find? t.id = some u ∧ u.status = .processing := by
  cases h with
  | claimed stored processing =>
      cases hb
      exact Or.inr ⟨_, stored, processing⟩
  | polled _ | ended => cases hb
  | stay | dispatched _ | unknown _ | handled _ => exact Or.inl hb

/-- What an attempt works on is stored, through everything that can happen. -/
theorem Sound.known_step (hs : w.Step w') (h : w.Sound) {i : Nat} {r : Registry H}
    {b : Attempt H} {t : Task} (hi : w'.parties[i]? = some (.attempt r b))
    (hb : b.task? = some t) : ∃ u, w'.memory.find? t.id = some u ∧ t.SameWork u := by
  have hstored : ∃ u, w.memory.find? t.id = some u ∧ t.SameWork u := by
    rcases hs.moved hi with rfl | ⟨a, ha, hmoved⟩
    · cases hb
    · rcases hmoved.task? hb with hat | hmem
      · exact h.known ha hat
      · exact ⟨t, h.apart.find?_of_mem hmem, .refl t⟩
  obtain ⟨u, hu, hwork⟩ := hstored
  obtain ⟨v, hv, hwork', _⟩ := hs.grows.stored hu
  exact ⟨v, hv, hwork.trans hwork'⟩

/-- What an attempt has claimed is in processing or was taken from it, through everything that can
happen. -/
theorem Sound.held_step (hs : w.Step w') (h : w.Sound) {i : Nat} {r : Registry H}
    {b : Attempt H} {t u : Task} (hi : w'.parties[i]? = some (.attempt r b))
    (hb : b.claimed? = some t) (hu : w'.memory.find? t.id = some u) :
    u.status = .processing ∨ w'.Interrupted u := by
  rcases hs.moved hi with rfl | ⟨a, ha, hmoved⟩
  · cases hb
  · rcases hmoved.claimed? hb with hat | ⟨v, hv, hprocessing⟩
    · obtain ⟨u₀, hu₀, _⟩ := h.known ha (Attempt.task?_of_claimed? hat)
      have hid : u₀.id = t.id := (Memory.find?_some hu₀).2
      rcases h.held ha hat hu₀ with hprocessing | hint
      · rcases hs.rewrites hu₀ with hsame | ⟨j, v, hv, hrewrites⟩
        · rw [hu] at hsame
          cases hsame
          exact Or.inl hprocessing
        · rw [hu] at hv
          cases hv
          cases hrewrites with
          | claim _ _ queued _ =>
              rw [hprocessing] at queued
              cases queued
          | outcome stood target _ stands =>
              have hij : i = j :=
                h.claims.holder_unique h.orderly ha stood hat rfl (hid.symm.trans target)
              subst hij
              rw [hi] at stands
              cases stands
              cases hb
          | cancel _ _ _ => exact Or.inr (Or.inl rfl)
          | sweep _ deed stale =>
              refine Or.inr (Or.inr ⟨rfl, j, _, _, _, u₀, deed, ?_, stale⟩)
              exact hid ▸ hu₀
      · obtain ⟨v, hv, _, hend⟩ := hs.grows.stored hu₀
        rw [hu] at hv
        cases hv
        rw [hend hint.isTerminal]
        exact Or.inr (hint.mono hs.grows)
    · rw [hu] at hv
      cases hv
      exact Or.inl hprocessing

/-- The invariant, through everything that can happen. -/
theorem Sound.step (hs : w.Step w') (h : w.Sound) : w'.Sound where
  apart := h.apart.effect hs.effect
  orderly := h.orderly.step hs
  claims := h.claims.step hs h.orderly
  known := h.known_step hs
  held := h.held_step hs

/-- The invariant after a run, from a store with any history of its own. -/
theorem sound_after (es : List StoreEvent) (xs : List (Happening H)) :
    ((opened (Memory.empty.after es)).after xs).Sound :=
  keeps_of_step (fun _ _ hs h => h.step hs) (sound_opened (Memory.apart_after es)) xs

end Workshop

end Backlog
