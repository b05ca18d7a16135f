import Backlog.Proofs.Workshop.Basic
/-!
# What happens to stored tasks in a workshop

Four writes can alter a stored task: the claim of an attempt, the outcome of an attempt, a
cancellation and a sweep.  `Rewrites` lists them with the party that made the write, the point it
stood at and the status the task had; everything else that happens leaves the task as it was
(`Step.rewrites`).  The four writes are all there is to know of a step when one follows a task.
When one follows an attempt it is the ways it can take from its point, `Moved`, each with what the
store said to it (`Step.moved`).

The last view of a step is what it never undoes, `Grows`: stored tasks stay stored as the same
work, terminal ones as they are, deeds stay in the history, and an attempt stays an attempt of its
engine.

## Main results

* `Step.rewrites` — a stored task after a step: as it was, or after one of the four writes.
* `Step.moved` — an attempt after a step: just arrived, or one of the ways further.
* `Step.grows`, `grows_after` — what no step and no run undoes.
-/

namespace Backlog

variable {H : Type}

/-- The write of an outcome ends the attempt, whatever the reply. -/
theorem Attempt.completed_ends (t : Task) (v : Except String Json)
    (reply : Except StoreError Nat) :
    ∃ result, (Attempt.completed (H := H) t v reply).1 = .done result := by
  cases reply with
  | error e => exact ⟨_, rfl⟩
  | ok rows =>
      simp only [Attempt.completed]
      split
      · exact ⟨_, rfl⟩
      · cases v <;> exact ⟨_, rfl⟩

/-- Where a reply of the store leads an attempt. -/
inductive Attempt.Follows (r : Registry H) :
    Attempt H → (c : StoreCall) → c.Reply → Attempt H → Prop where
  | polled {t : Task} : Follows r .poll .oldestQueued (.ok (some t)) (.claim t)
  | claimed {t : Task} {rows : Nat} (changed : 0 < rows) : Follows r (.claim t)
      (.updateIf t.id (Guard.status .queued) Update.claim) (.ok rows) (.recheck t)
  | dispatched {t : Task} {k : H} {reply : Except StoreError (Option Task)}
      (registered : r.find? t.kind = some k) :
      Follows r (.recheck t) (.get t.id) reply (.handle t k)
  | unknown {t : Task} {reply : Except StoreError (Option Task)}
      (missing : r.find? t.kind = none) : Follows r (.recheck t) (.get t.id) reply
        (.complete t (.error (TaskError.unknownKind t.kind.name).message))
  | ended {a : Attempt H} {c : StoreCall} {reply : c.Reply}
      {result : Except StoreError (Option Processed)} : Follows r a c reply (.done result)

theorem Attempt.follows_dispatch (r : Registry H) (t : Task)
    (reply : Except StoreError (Option Task)) :
    Attempt.Follows r (.recheck t) (.get t.id) reply (Attempt.dispatch r t) := by
  unfold Attempt.dispatch
  cases hf : r.find? t.kind with
  | some k => exact .dispatched hf
  | none => exact .unknown hf

namespace Party

/-- An attempt goes on as an attempt, with the same registry. -/
theorem attempt_next {now : Instant} {fresh : TaskId} {r : Registry H} {a : Attempt H}
    {c : StoreCall} {next : c.Reply → Party H} (asks : (attempt r a).Asks now fresh c next)
    (reply : c.Reply) : ∃ b, next reply = attempt r b := by
  cases asks <;> exact ⟨_, rfl⟩

/-- Only an attempt goes on as an attempt, with the same registry. -/
theorem attempt_of_asks {now : Instant} {fresh : TaskId} {p : Party H} {c : StoreCall}
    {next : c.Reply → Party H} (asks : p.Asks now fresh c next) {reply : c.Reply} {r : Registry H}
    {b : Attempt H} (h : next reply = .attempt r b) : ∃ a, p = .attempt r a := by
  cases asks <;> cases h <;> exact ⟨_, rfl⟩

/-- An attempt that asks the store goes on by one of five ways. -/
theorem follows_of_asks {now : Instant} {fresh : TaskId} {r : Registry H} {a b : Attempt H}
    {c : StoreCall} {next : c.Reply → Party H} (asks : (attempt r a).Asks now fresh c next)
    {reply : c.Reply} (hb : next reply = attempt r b) : Attempt.Follows r a c reply b := by
  cases asks with
  | poll =>
      cases hb
      cases reply with
      | error e => exact .ended
      | ok found =>
          cases found with
          | none => exact .ended
          | some t => exact .polled
  | claim =>
      cases hb
      cases reply with
      | error e => exact .ended
      | ok rows =>
          simp only [Attempt.claimed]
          split
          · exact .ended
          · next hrows => exact .claimed (Nat.pos_of_ne_zero hrows)
  | @recheck _ t =>
      cases hb
      cases reply with
      | error e => exact Attempt.follows_dispatch r t _
      | ok found =>
          cases found with
          | none => exact .ended
          | some current =>
              simp only [Attempt.rechecked]
              split
              · exact Attempt.follows_dispatch r t _
              · exact .ended
  | @complete _ t v =>
      obtain ⟨result, hdone⟩ := Attempt.completed_ends (H := H) t v reply
      simp only [hdone] at hb
      cases hb
      exact .ended

end Party

namespace Workshop

/-- A place of a list in which one entry was exchanged. -/
theorem getElem?_set_cases {α : Type} {l : List α} {i j : Nat} {a b : α}
    (h : (l.set i a)[j]? = some b) : (j = i ∧ b = a) ∨ (j ≠ i ∧ l[j]? = some b) := by
  rw [List.getElem?_set] at h
  split at h
  · next heq =>
      split at h
      · cases h
        exact Or.inl ⟨heq.symm, rfl⟩
      · cases h
  · next hne => exact Or.inr ⟨Ne.symm hne, h⟩

/-- A place of a list to which one entry was appended. -/
theorem getElem?_append_cases {α : Type} {l : List α} {j : Nat} {a b : α}
    (h : (l ++ [a])[j]? = some b) : (j = l.length ∧ b = a) ∨ l[j]? = some b := by
  rcases Nat.lt_trichotomy j l.length with hlt | heq | hgt
  · rw [List.getElem?_append_left hlt] at h
    exact Or.inr h
  · subst heq
    rw [List.getElem?_append_right (Nat.le_refl _), Nat.sub_self] at h
    cases h
    exact Or.inl ⟨rfl, rfl⟩
  · rw [List.getElem?_eq_none (by simp; omega)] at h
    cases h

variable {w w' w'' : Workshop H}

/-- The party that asked stands where the reply led it. -/
theorem getElem?_ask {i : Nat} {p : Party H} (stands : w.parties[i]? = some p) (now : Instant)
    (fault : Option StoreError) (c : StoreCall) (next : c.Reply → Party H) :
    (w.ask i now fault c next).parties[i]? = some (next (w.memory.answer now fault c).2) := by
  have hi : i < w.parties.length := (List.getElem?_eq_some_iff.1 stands).1
  simp only [ask]
  rw [List.getElem?_set_self hi]

/-- The writes that alter a stored task `t`, each with the party that makes it. -/
inductive Rewrites (w w' : Workshop H) (i : Nat) (t : Task) : Task → Prop where
  | claim {r : Registry H} {s : Task} {now : Instant}
      (stood : w.parties[i]? = some (.attempt r (.claim s))) (target : t.id = s.id)
      (queued : t.status = .queued) (stands : w'.parties[i]? = some (.attempt r (.recheck s))) :
      Rewrites w w' i t (Update.claim.apply t now)
  | outcome {r : Registry H} {s : Task} {v : Except String Json} {now : Instant}
      (stood : w.parties[i]? = some (.attempt r (.complete s v))) (target : t.id = s.id)
      (processing : t.status = .processing) {result : Except StoreError (Option Processed)}
      (stands : w'.parties[i]? = some (.attempt r (.done result))) :
      Rewrites w w' i t ((Attempt.verdictUpdate v).apply t now)
  | cancel {owner : String} {now : Instant}
      (stood : w.parties[i]? = some (.cancel (.write t.id owner)))
      (active : t.status.isActive = true) (own : t.owner = owner) :
      Rewrites w w' i t (Update.cancel.apply t now)
  | sweep {cutoff : Instant} {rows : Nat} {now : Instant}
      (stood : w.parties[i]? = some (.sweep (.write cutoff)))
      (deed : .call i w.memory (.failStale cutoff Sweep.timeoutMessage) (.ok rows) ∈ w'.history)
      (stale : Memory.isStale cutoff t = true) :
      Rewrites w w' i t ((Update.fail Sweep.timeoutMessage).apply t now)

theorem status_of_mayChange {s : Status} {u : Update} {t : Task}
    (h : u.mayChange (Guard.status s) t = true) : t.status = s := by
  simp only [Update.mayChange, Guard.status, Guard.allows, Bool.and_eq_true,
    List.contains_eq_mem, List.mem_singleton, decide_eq_true_eq] at h
  exact h.1.1

/-- What a step may do to the stored tasks, it does by one call at most. -/
theorem Step.effect (hs : w.Step w') : Memory.Effect w.memory.tasks w'.memory.tasks := by
  cases hs with
  | idle | switch _ | arrive _ | signal _ | handled _ _ => exact .keep
  | @ask i p c next now fresh fault stands asks => exact Memory.effect_answer w.memory now fault c

/-- A stored task after a step: as it was, or after one of the four writes. -/
theorem Step.rewrites (hs : w.Step w') {id : TaskId} {t : Task}
    (ht : w.memory.find? id = some t) :
    w'.memory.find? id = some t ∨
      ∃ i u, w'.memory.find? id = some u ∧ Rewrites w w' i t u := by
  cases hs with
  | idle | switch _ | arrive _ | signal _ | handled _ _ => exact Or.inl ht
  | @ask i p c next now fresh fault stands asks =>
      rcases Memory.find?_answer ht now fault c with hsame | ⟨u, hu, halters⟩
      · exact Or.inl hsame
      · refine Or.inr ⟨i, u, hu, ?_⟩
        have hdeed : .call i w.memory c (w.memory.answer now fault c).2 ∈
            (w.ask i now fault c next).history :=
          List.mem_append_right _ List.mem_cons_self
        have hgoes := getElem?_ask stands now fault c next
        generalize hr : (w.memory.answer now fault c).2 = reply at halters hdeed hgoes
        cases asks with
        | claim =>
            cases halters with
            | update target changed may =>
                refine .claim stands target (status_of_mayChange may) ?_
                rw [hgoes]
                simp only [Attempt.claimed]
                rw [if_neg (Nat.ne_of_gt changed)]
        | @complete r s v =>
            cases halters with
            | @update _ _ _ rows target _ may =>
                obtain ⟨result, hdone⟩ := Attempt.completed_ends (H := H) s v (.ok rows)
                simp only [hdone] at hgoes
                exact .outcome stands target (status_of_mayChange may) hgoes
        | cancelWrite =>
            cases halters with
            | update target _ may =>
                rw [Update.mayChange, Bool.and_eq_true, Guard.allows_iff] at may
                obtain ⟨⟨hactive, hown⟩, _⟩ := may
                subst target
                refine .cancel stands (Status.mem_activeOnes.1 hactive) ?_
                rcases hown with hnone | hsome
                · cases hnone
                · exact (Option.some.inj hsome).symm
        | sweep =>
            cases halters with
            | sweep stale => exact .sweep stands hdeed stale
        | _ => cases halters

/-! ## Attempts on their way -/

/-- An attempt arrives before its poll. -/
theorem attempt_arrives {a : Arrival H} {r : Registry H} {b : Attempt H}
    (h : Party.attempt r b = a.party) : b = .poll := by
  cases a <;> simp only [Arrival.party, reduceCtorEq, Party.attempt.injEq] at h
  exact h.2

/-- The ways of an attempt from one point to the next. -/
inductive Moved (w w' : Workshop H) (r : Registry H) : Attempt H → Attempt H → Prop where
  | stay {a : Attempt H} : Moved w w' r a a
  | polled {t : Task} (stored : t ∈ w.memory.tasks) : Moved w w' r .poll (.claim t)
  | claimed {t u : Task} (stored : w'.memory.find? t.id = some u)
      (processing : u.status = .processing) : Moved w w' r (.claim t) (.recheck t)
  | dispatched {t : Task} {k : H} (registered : r.find? t.kind = some k) :
      Moved w w' r (.recheck t) (.handle t k)
  | unknown {t : Task} (missing : r.find? t.kind = none) : Moved w w' r (.recheck t)
      (.complete t (.error (TaskError.unknownKind t.kind.name).message))
  | handled {t : Task} {k : H} (outcome : HandlerOutcome) :
      Moved w w' r (.handle t k) (.complete t outcome.verdict)
  | ended {a : Attempt H} {result : Except StoreError (Option Processed)} :
      Moved w w' r a (.done result)

/-- The way of an attempt that asks the store. -/
theorem moved_of_asks {i : Nat} {r : Registry H} {a b : Attempt H} {c : StoreCall}
    {next : c.Reply → Party H} {now : Instant} {fresh : TaskId} {fault : Option StoreError}
    (asks : (Party.attempt r a).Asks now fresh c next)
    (hb : next (w.memory.answer now fault c).2 = .attempt r b) :
    Moved w (w.ask i now fault c next) r a b := by
  have hfollows := Party.follows_of_asks asks hb
  generalize hr : (w.memory.answer now fault c).2 = reply at hfollows
  cases hfollows with
  | polled => exact .polled (Memory.oldestQueued_ok hr).1
  | claimed changed =>
      obtain ⟨u, _, _, hu⟩ := Memory.updateIf_ok hr changed
      exact .claimed hu rfl
  | dispatched registered => exact .dispatched registered
  | unknown missing => exact .unknown missing
  | ended => exact .ended

/-- An attempt after a step has just arrived, or has come its way. -/
theorem Step.moved (hs : w.Step w') {i : Nat} {r : Registry H} {b : Attempt H}
    (hi : w'.parties[i]? = some (.attempt r b)) :
    b = .poll ∨ ∃ a, w.parties[i]? = some (.attempt r a) ∧ Moved w w' r a b := by
  cases hs with
  | idle => exact Or.inr ⟨b, hi, .stay⟩
  | switch online => exact Or.inr ⟨b, hi, .stay⟩
  | arrive a =>
      rcases getElem?_append_cases hi with ⟨_, hab⟩ | hold
      · exact Or.inl (attempt_arrives hab)
      · exact Or.inr ⟨b, hold, .stay⟩
  | signal stands =>
      rcases getElem?_set_cases hi with ⟨_, hab⟩ | ⟨_, hold⟩
      · cases hab
      · exact Or.inr ⟨b, hold, .stay⟩
  | ask fault stands asks =>
      rcases getElem?_set_cases hi with ⟨rfl, hab⟩ | ⟨_, hold⟩
      · obtain ⟨a, rfl⟩ := Party.attempt_of_asks asks hab.symm
        exact Or.inr ⟨a, stands, moved_of_asks asks hab.symm⟩
      · exact Or.inr ⟨b, hold, .stay⟩
  | handled outcome stands =>
      rcases getElem?_set_cases hi with ⟨rfl, hab⟩ | ⟨_, hold⟩
      · cases hab
        exact Or.inr ⟨_, stands, .handled outcome⟩
      · exact Or.inr ⟨b, hold, .stay⟩

/-! ## What nothing undoes -/

/-- What is kept on the way from one workshop to a later one. -/
structure Grows (w w' : Workshop H) : Prop where
  stored : ∀ {id : TaskId} {t : Task}, w.memory.find? id = some t →
    ∃ u, w'.memory.find? id = some u ∧ t.SameWork u ∧ (t.status.isTerminal = true → u = t)
  history : ∀ {d : Deed H}, d ∈ w.history → d ∈ w'.history
  attempts : ∀ {i : Nat} {r : Registry H} {a : Attempt H},
    w.parties[i]? = some (.attempt r a) → ∃ b, w'.parties[i]? = some (.attempt r b)

theorem Grows.refl (w : Workshop H) : w.Grows w where
  stored := fun ht => ⟨_, ht, .refl _, fun _ => rfl⟩
  history := id
  attempts := fun hi => ⟨_, hi⟩

theorem Grows.trans (h : w.Grows w') (h' : w'.Grows w'') : w.Grows w'' where
  stored := by
    intro id t ht
    obtain ⟨u, hu, hwork, hend⟩ := h.stored ht
    obtain ⟨v, hv, hwork', hend'⟩ := h'.stored hu
    refine ⟨v, hv, hwork.trans hwork', ?_⟩
    intro hterminal
    have hut := hend hterminal
    rw [hend' (hut ▸ hterminal), hut]
  history := fun hd => h'.history (h.history hd)
  attempts := by
    intro i r a hi
    obtain ⟨b, hb⟩ := h.attempts hi
    exact h'.attempts hb

/-- A step undoes nothing. -/
theorem Step.grows (hs : w.Step w') : w.Grows w' := by
  cases hs with
  | idle => exact .refl w
  | switch online => exact ⟨(Grows.refl w).stored, id, (Grows.refl w).attempts⟩
  | arrive a =>
      refine ⟨(Grows.refl w).stored, id, ?_⟩
      intro i r b hi
      have hlt : i < w.parties.length := (List.getElem?_eq_some_iff.1 hi).1
      exact ⟨b, (List.getElem?_append_left hlt).trans hi⟩
  | @signal i t stands =>
      refine ⟨(Grows.refl w).stored, id, ?_⟩
      intro j r b hj
      have hne : i ≠ j := by
        rintro rfl
        rw [stands] at hj
        cases hj
      exact ⟨b, (List.getElem?_set_ne hne).trans hj⟩
  | @ask i p c next now fresh fault stands asks =>
      refine ⟨?_, fun hd => List.mem_append_right _ (List.mem_cons_of_mem _ hd), ?_⟩
      · intro id t ht
        obtain ⟨u, hu, hadv⟩ := Memory.advances_answer ht now fault c
        exact ⟨u, hu, hadv.sameWork, hadv.eq_of_terminal⟩
      · intro j r b hj
        by_cases hij : i = j
        · subst hij
          rw [stands] at hj
          cases hj
          obtain ⟨b', hb'⟩ := Party.attempt_next asks (w.memory.answer now fault c).2
          exact ⟨b', hb' ▸ getElem?_ask stands now fault c next⟩
        · exact ⟨b, (List.getElem?_set_ne hij).trans hj⟩
  | @handled i r t h outcome stands =>
      refine ⟨(Grows.refl w).stored, List.mem_cons_of_mem _, ?_⟩
      intro j s b hj
      by_cases hij : i = j
      · subst hij
        rw [stands] at hj
        cases hj
        have hi : i < w.parties.length := (List.getElem?_eq_some_iff.1 stands).1
        exact ⟨_, List.getElem?_set_self hi⟩
      · exact ⟨b, (List.getElem?_set_ne hij).trans hj⟩

/-- A run undoes nothing. -/
theorem grows_after (w : Workshop H) (xs : List (Happening H)) : w.Grows (w.after xs) := by
  induction xs generalizing w with
  | nil => exact .refl w
  | cons x xs ih => exact (w.step_of_happening x).grows.trans (ih (w.step x))

end Workshop

end Backlog
