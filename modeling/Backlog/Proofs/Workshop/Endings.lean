import Backlog.Proofs.Workshop.Claims
import Backlog.Proofs.Workshop.Turns
/-!
# The write that ends a task

Outcomes, cancellations and sweeps all write to tasks, and several of them may be aimed at one task
at once.  A task ends by the first of them that finds it in flight; the others find it ended and
change nothing.  `Endings` counts them in the history of a workshop: of all such writes aimed at
one task, one at most took effect (`Endings.once`).

An attempt learns from the reply to its write whether it was the one that ended the task.  What a
finished attempt says is therefore what is stored, and stays so (`Reported`).

## Main results

* `Step.origin` — where a stored task was before a step.
* `Endings.step` — one write at most ends a task.
* `Reported.step` — what finished attempts say of tasks is stored.
-/

namespace Backlog

variable {H : Type}

namespace Deed

/-- Whether a deed ended a task: an update to a terminal status that changed it, or a sweep that
met it as stale. -/
def ends (id : TaskId) : Deed H → Bool
  | call _ _ (.updateIf i _ u) (.ok rows) => i == id && u.status.isTerminal && decide (0 < rows)
  | call _ m (.failStale cutoff _) (.ok _) => (m.find? id).any (Memory.isStale cutoff)
  | _ => false

end Deed

/-- A call that ends a task found it in flight and left it ended. -/
theorem ended_of_answer {m : Memory} {now : Instant} {fault : Option StoreError} {c : StoreCall}
    {i : Nat} {id : TaskId}
    (h : (Deed.call i m c (m.answer now fault c).2 : Deed H).ends id = true) :
    ∃ t u, m.find? id = some t ∧ t.status.isActive = true ∧
      (m.answer now fault c).1.find? id = some u ∧ u.status.isTerminal = true := by
  cases c with
  | updateIf j g u =>
      cases hr : (m.answer now fault (.updateIf j g u)).2 with
      | error e =>
          rw [hr] at h
          cases h
      | ok rows =>
          rw [hr] at h
          simp only [Deed.ends, Bool.and_eq_true, beq_iff_eq, decide_eq_true_eq] at h
          obtain ⟨⟨rfl, hterminal⟩, hrows⟩ := h
          obtain ⟨t, ht, hmay, ht'⟩ := Memory.updateIf_ok hr hrows
          exact ⟨t, _, ht, Update.isActive_of_mayChange hmay, ht', hterminal⟩
  | failStale cutoff error =>
      cases hr : (m.answer now fault (.failStale cutoff error)).2 with
      | error e =>
          rw [hr] at h
          cases h
      | ok rows =>
          rw [hr] at h
          simp only [Deed.ends, Option.any_eq_true] at h
          obtain ⟨t, ht, hstale⟩ := h
          refine ⟨t, (Update.fail error).apply t now, ht, ?_, ?_, rfl⟩
          · rw [Memory.status_of_isStale hstale]
            rfl
          · rw [(Memory.answer_ok hr).1]
            refine (Memory.find?_swept m cutoff error now id).trans ?_
            rw [ht, Option.map_some, if_pos hstale]
  | _ => cases h

/-- Whether the store holds what is reported of a task. -/
def Processed.HeldBy (m : Memory) : Processed → Prop
  | succeeded id => ∃ u, m.find? id = some u ∧ u.status = .succeeded
  | failed id => ∃ u, m.find? id = some u ∧ u.status = .failed
  | skipped _ | superseded _ => True

/-- An attempt ends with what the store holds from then on. -/
theorem Party.heldBy_of_asks {now : Instant} {fresh : TaskId} {p : Party H} {c : StoreCall}
    {next : c.Reply → Party H} (asks : p.Asks now fresh c next) {m : Memory}
    {fault : Option StoreError} {r : Registry H} {x : Processed}
    (h : next (m.answer now fault c).2 = .attempt r (.done (.ok (some x)))) :
    x.HeldBy (m.answer now fault c).1 := by
  cases asks with
  | poll =>
      rcases hr : (m.answer now fault .oldestQueued).2 with _ | _ | _ <;> rw [hr] at h <;> cases h
  | claim =>
      rcases hr : (m.answer now fault (.updateIf _ (Guard.status .queued) Update.claim)).2
        with _ | rows <;> rw [hr] at h
      · cases h
      · simp only [Attempt.claimed] at h
        split at h <;> cases h
  | @recheck s t =>
      rcases hr : (m.answer now fault (.get t.id)).2 with _ | _ | u <;> rw [hr] at h
      · simp only [Attempt.rechecked, Attempt.dispatch] at h
        split at h <;> cases h
      · cases h
        trivial
      · simp only [Attempt.rechecked] at h
        split at h
        · simp only [Attempt.dispatch] at h
          split at h <;> cases h
        · cases h
          trivial
  | @complete s t v =>
      rcases hr : (m.answer now fault (.updateIf t.id (Guard.status .processing)
        (Attempt.verdictUpdate v))).2 with _ | rows <;> rw [hr] at h
      · cases h
      · simp only [Attempt.completed] at h
        split at h
        · cases h
          trivial
        · next hrows =>
            obtain ⟨u, _, _, hu⟩ := Memory.updateIf_ok hr (Nat.pos_of_ne_zero hrows)
            cases v with
            | ok value =>
                cases h
                exact ⟨_, hu, rfl⟩
            | error e =>
                cases h
                exact ⟨_, hu, rfl⟩
  | _ => cases h

namespace Workshop

variable {w w' : Workshop H}

/-- Where a stored task comes from: it was stored before, as it is or before one of the four
writes, or a submission has just inserted it, queued. -/
theorem Step.origin (hs : w.Step w') (ho : w.Orderly) {id : TaskId} {u : Task}
    (hu : w'.memory.find? id = some u) :
    (∃ t, w.memory.find? id = some t ∧ (u = t ∨ ∃ i, Rewrites w w' i t u)) ∨
      (w.memory.find? id = none ∧ u.status = .queued ∧
        ∃ (i : Nat) (s : Submission), w.parties[i]? = some (.submit (.insert s u))) := by
  cases ht : w.memory.find? id with
  | some t =>
      refine Or.inl ⟨t, rfl, ?_⟩
      rcases hs.rewrites ht with hsame | ⟨i, v, hv, hrewrites⟩
      · exact Or.inl (Option.some.inj (hu.symm.trans hsame))
      · rw [Option.some.inj (hu.symm.trans hv)]
        exact Or.inr ⟨i, hrewrites⟩
  | none =>
      refine Or.inr ⟨rfl, ?_⟩
      cases hs with
      | idle | switch _ | arrive _ | signal _ | handled _ _ =>
          exact absurd (hu.symm.trans ht) (Option.some_ne_none u)
      | ask fault stands asks =>
          have hc := Memory.insert_of_find?_none ht hu
          subst hc
          cases asks with
          | @insert s => exact ⟨ho.queued _ s u stands, _, s, stands⟩

/-! ## One ending at most -/

/-- One write at most ended a task, and then the task has ended. -/
structure Endings (w : Workshop H) : Prop where
  once : ∀ id, w.history.countP (Deed.ends id) ≤ 1
  ended : ∀ id, ∀ d ∈ w.history, d.ends id = true →
    ∃ u, w.memory.find? id = some u ∧ u.status.isTerminal = true

theorem endings_opened (m : Memory) : (opened m : Workshop H).Endings where
  once := by intro id; exact Nat.zero_le 1
  ended := by intro id d hd; cases hd

theorem ends_of_mem_opening {i : Nat} {q : Party H} {d : Deed H} {id : TaskId}
    (h : d ∈ q.opening i) : d.ends id = false := by
  unfold Party.opening at h
  split at h
  · rw [List.mem_singleton] at h
    rw [h]
    rfl
  · cases h

/-- A task in flight has not been ended. -/
theorem Endings.unended (h : w.Endings) {id : TaskId} {t : Task}
    (ht : w.memory.find? id = some t) (hactive : t.status.isActive = true) :
    w.history.countP (Deed.ends id) = 0 := by
  rw [List.countP_eq_zero]
  intro d hd hends
  obtain ⟨u, hu, hterminal⟩ := h.ended id d hd hends
  rw [ht] at hu
  cases hu
  rw [Status.isTerminal, hactive] at hterminal
  cases hterminal

/-- One ending at most, through one call of the store. -/
theorem Endings.once_ask (h : w.Endings) (i : Nat) (now : Instant) (fault : Option StoreError)
    (c : StoreCall) (next : c.Reply → Party H) (id : TaskId) :
    (w.ask i now fault c next).history.countP (Deed.ends id) ≤ 1 := by
  have hopening : ((next (w.memory.answer now fault c).2).opening i).countP (Deed.ends id) = 0 := by
    rw [List.countP_eq_zero]
    intro d hd
    rw [ends_of_mem_opening hd]
    exact Bool.false_ne_true
  simp only [ask]
  rw [List.countP_append, hopening, Nat.zero_add, List.countP_cons]
  split
  · next hends =>
      obtain ⟨t, _, ht, hactive, _⟩ := ended_of_answer hends
      rw [h.unended ht hactive]
  · exact h.once id

/-- One ending at most, through everything that can happen. -/
theorem Endings.step (hs : w.Step w') (h : w.Endings) : w'.Endings := by
  have hover : ∀ id, ∀ d ∈ w.history, d.ends id = true →
      ∃ u, w'.memory.find? id = some u ∧ u.status.isTerminal = true := by
    intro id d hd hends
    obtain ⟨u, hu, hterminal⟩ := h.ended id d hd hends
    obtain ⟨v, hv, _, hend⟩ := hs.grows.stored hu
    rw [hend hterminal] at hv
    exact ⟨u, hv, hterminal⟩
  cases hs with
  | idle | switch _ | arrive _ | signal _ => exact ⟨h.once, hover⟩
  | handled outcome stands =>
      refine ⟨?_, ?_⟩
      · intro id
        simp only [Workshop.handled, List.countP_cons]
        exact h.once id
      · intro id d hd hends
        rcases List.mem_cons.1 hd with rfl | hd
        · cases hends
        · exact hover id d hd hends
  | @ask i p c next now fresh fault stands asks =>
      refine ⟨h.once_ask i now fault c next, ?_⟩
      intro id d hd hends
      simp only [Workshop.ask, List.mem_append, List.mem_cons] at hd
      rcases hd with hd | rfl | hd
      · rw [ends_of_mem_opening hd] at hends
        cases hends
      · obtain ⟨_, u, _, _, hu, hterminal⟩ := ended_of_answer hends
        exact ⟨u, hu, hterminal⟩
      · exact hover id d hd hends

/-! ## What finished attempts report -/

/-- What finished attempts say of tasks is stored. -/
def Reported (w : Workshop H) : Prop :=
  ∀ (i : Nat) (r : Registry H) (x : Processed),
    w.parties[i]? = some (.attempt r (.done (.ok (some x)))) → x.HeldBy w.memory

theorem reported_opened (m : Memory) : (opened m : Workshop H).Reported := by
  intro i r x hi
  cases hi

/-- What is reported stays true. -/
theorem Grows.heldBy (hg : w.Grows w') {x : Processed} (h : x.HeldBy w.memory) :
    x.HeldBy w'.memory := by
  have hstays : ∀ {id : TaskId} {s : Status}, s.isTerminal = true →
      (∃ u, w.memory.find? id = some u ∧ u.status = s) →
      ∃ u, w'.memory.find? id = some u ∧ u.status = s := by
    rintro id s hterminal ⟨u, hu, rfl⟩
    obtain ⟨v, hv, _, hend⟩ := hg.stored hu
    rw [hend hterminal] at hv
    exact ⟨u, hv, rfl⟩
  cases x with
  | succeeded id => exact hstays rfl h
  | failed id => exact hstays rfl h
  | skipped id | superseded id => trivial

/-- What finished attempts say is stored, through everything that can happen. -/
theorem Reported.step (hs : w.Step w') (h : w.Reported) : w'.Reported := by
  intro i r x hi
  rcases hs.proceeded hi with ⟨a, ha⟩ | ⟨p, hp, hproceeds⟩
  · cases attempt_arrives ha
  · generalize hq : (Party.attempt r (.done (.ok (some x))) : Party H) = q at hproceeds
    cases hproceeds with
    | stay =>
        subst hq
        exact hs.grows.heldBy (h i r x hp)
    | ask fault asks here =>
        subst here
        exact Party.heldBy_of_asks asks hq.symm
    | signal _ => cases hq
    | handled _ _ => cases hq

end Workshop

end Backlog
