import Backlog.Proofs.Workshop.Sound
/-!
# Handlers of one key that run at once

The store keeps one task in flight for each key, and a handler begins only on a claim, which needs
a task in flight.  It does not follow that the handlers of a key run one after the other.  A
cancellation or a sweep ends the task and frees its key at once, but nothing stops the handler; the
same work can then be submitted, claimed and begun a second time while the first run goes on
(`handlers_can_overlap`).

What does hold is `OverlapLost`.  Handlers of one key that run at once are for different tasks, and
of any two such tasks one at least was taken from its handler by a cancellation or a sweep, so that
nothing the handler may still return is ever stored.  The invariant of the store, which speaks of
tasks, carries over to the handlers whose tasks are still in processing, and to no others.

## Main results

* `handlers_can_overlap` — two handlers of one key can run at once.
* `overlapLost_after` — then one of them runs in vain.
-/

namespace Backlog

variable {H : Type}

namespace Workshop

variable {w : Workshop H}

/-- The task whose handler a party runs. -/
def running (w : Workshop H) (i : Nat) : Option Task :=
  match w.parties[i]? with
  | some (.attempt _ (.handle t _)) => some t
  | _ => none

/-- The stored task was taken from its handler, and its record is as it will ever be. -/
def Lost (w : Workshop H) (id : TaskId) : Prop :=
  ∃ u, w.memory.find? id = some u ∧ w.Interrupted u ∧
    ∀ xs, (w.after xs).memory.find? id = some u

/-- Handlers of one key that run at once are for different tasks, one of which is lost. -/
def OverlapLost (w : Workshop H) : Prop :=
  ∀ i j t u, w.running i = some t → w.running j = some u → i ≠ j → t.key = u.key →
    t.id ≠ u.id ∧ (w.Lost t.id ∨ w.Lost u.id)

theorem attempt_of_running {i : Nat} {t : Task} (h : w.running i = some t) :
    ∃ r k, w.parties[i]? = some (.attempt r (.handle t k)) := by
  unfold running at h
  split at h
  · next r u k hp =>
      cases h
      exact ⟨r, k, hp⟩
  · cases h

theorem Interrupted.lost {id : TaskId} {u : Task} (h : w.Interrupted u)
    (hu : w.memory.find? id = some u) : w.Lost id := by
  refine ⟨u, hu, h, ?_⟩
  intro xs
  obtain ⟨v, hv, _, hend⟩ := (w.grows_after xs).stored hu
  rw [hv, hend h.isTerminal]

/-- A task whose handler runs is stored as the same work, in processing unless it is lost. -/
theorem Sound.processing_of_running (h : w.Sound) {i : Nat} {t : Task}
    (hi : w.running i = some t) :
    w.Lost t.id ∨ ∃ u, w.memory.find? t.id = some u ∧ u.status = .processing ∧ t.SameWork u := by
  obtain ⟨r, k, hp⟩ := attempt_of_running hi
  obtain ⟨u, hu, hwork⟩ := h.known hp rfl
  rcases h.held hp rfl hu with hprocessing | hint
  · exact Or.inr ⟨u, hu, hprocessing, hwork⟩
  · exact Or.inl (hint.lost hu)

/-- The invariant of the store, carried over to handlers. -/
theorem Sound.overlapLost (h : w.Sound) : w.OverlapLost := by
  intro i j t u hi hj hij hkey
  have hne : t.id ≠ u.id := by
    intro hid
    obtain ⟨r, k, hp⟩ := attempt_of_running hi
    obtain ⟨s, l, hq⟩ := attempt_of_running hj
    exact hij (h.claims.holder_unique h.orderly hp hq rfl rfl hid)
  refine ⟨hne, ?_⟩
  rcases h.processing_of_running hi with hlost | ⟨t', ht', htp, htw⟩
  · exact Or.inl hlost
  · rcases h.processing_of_running hj with hlost | ⟨u', hu', hup, huw⟩
    · exact Or.inr hlost
    · obtain ⟨htm, htid⟩ := Memory.find?_some ht'
      obtain ⟨hum, huid⟩ := Memory.find?_some hu'
      have hsame : t' = u' := by
        refine h.apart.eq_of_key htm hum ?_ ?_ ?_
        · rw [htp]
          rfl
        · rw [hup]
          rfl
        · rw [htw.key_eq, huw.key_eq, hkey]
      rw [hsame] at htid
      exact absurd (htid.symm.trans huid) hne

/-- **Handlers of one key.**  After every run, from a store with any history of its own: of two
that run at once for one key, one at least runs in vain. -/
theorem overlapLost_after (es : List StoreEvent) (xs : List (Happening H)) :
    ((opened (Memory.empty.after es)).after xs).OverlapLost :=
  (sound_after es xs).overlapLost

/-! ## A run with two handlers of one key -/

/-- Work is submitted and begun, called off while its handler runs, submitted again and begun
again. -/
def calledOffAndBegunAgain : List (Happening Unit) :=
  .arrive (.submit invoiceForm) :: threeTurns 0 ⟨1, by decide⟩ ++
    .arrive (.attempt invoiceRegistry) :: threeTurns 1 ⟨0, by decide⟩ ++
    [.arrive (.cancel "00000000-0000-0000-0000-000000000001" "u1"),
      .turn 2 .epoch ⟨0, by decide⟩ none] ++
    .arrive (.submit invoiceForm) :: threeTurns 3 ⟨2, by decide⟩ ++
    .arrive (.attempt invoiceRegistry) :: threeTurns 4 ⟨0, by decide⟩

/-- Two handlers of one key can run at once. -/
theorem handlers_can_overlap : ¬ ∀ (xs : List (Happening Unit)) (i j : Nat) (t u : Task),
    ((opened Memory.empty).after xs).running i = some t →
    ((opened Memory.empty).after xs).running j = some u → t.key = u.key → i = j := by
  intro h
  have hkeys : ((((opened Memory.empty).after calledOffAndBegunAgain).running 1).map Task.key =
      some ⟨.invoiceOcr, "u1", "inv1", none⟩) ∧
      ((((opened Memory.empty).after calledOffAndBegunAgain).running 4).map Task.key =
        some ⟨.invoiceOcr, "u1", "inv1", none⟩) := by
    decide +kernel
  obtain ⟨t, ht, hkt⟩ := Option.map_eq_some_iff.1 hkeys.1
  obtain ⟨u, hu, hku⟩ := Option.map_eq_some_iff.1 hkeys.2
  have heq : (1 : Nat) = 4 := h calledOffAndBegunAgain 1 4 t u ht hu (hkt.trans hku.symm)
  exact absurd heq (by decide)

end Workshop

end Backlog
