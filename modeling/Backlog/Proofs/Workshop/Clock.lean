import Backlog.Proofs.Time.Difference
import Backlog.Proofs.Workshop.Carried
/-!
# A workshop with one clock

A turn brings its own reading of the clock, and in a workshop at large the readings of two turns
need not agree.  Here they do: all that happens at a time `n`, in nanoseconds since the beginning,
reads the instant `n` nanoseconds after the beginning, and no call of the store fails.

Two writes matter to the age of a task.  A claim stamps its task with the time at which it is made,
and nothing else writes to a task that stays in processing; so the stamp of a task in processing is
the time of its claim.  A sweep fails what is stamped before its cutoff, and the cutoff is the
sweep's own reading less the limit.  Between the two stands the arithmetic of instants: the
subtraction is held inside the calendar, but a stamp is before the difference exactly if it is older
than the limit (`Instant.before_minus_iff`).

## Main results

* `Instant.before_minus_iff` — what is before a cutoff is older than the limit.
* `Clocked.claimed` — a claim stamps its task.
* `Step.still_claimed` — a task in processing is as its claim left it.
* `Clocked.swept` — what a sweep leaves in processing is not stale.
-/

namespace Backlog

variable {H : Type}

namespace Instant

/-- An instant is so many nanoseconds after another, and in no leap second. -/
def IsAt (t begun : Instant) (n : Nat) : Prop :=
  t.nano < 1000000000 ∧ t.nanos = begun.nanos + n

instance (t begun : Instant) (n : Nat) : Decidable (t.IsAt begun n) :=
  inferInstanceAs (Decidable (_ ∧ _))

/-- An instant is before a difference exactly if it is earlier by more than what was taken off, also
where the difference would leave the calendar. -/
theorem before_minus_iff {a b : Instant} (ha : a.nano < 1000000000) (hb : b.nano < 1000000000)
    (d : Duration) : a.before (b.minus d) = true ↔ a.nanos + d.nanos < b.nanos := by
  rw [before_minus_iff_mark (isRegular_iff.2 hb), mark_of_isRegular (isRegular_iff.2 ha)]
  omega

end Instant

/-- A call that alters a task stamps it. -/
theorem Memory.Alters.updatedAt {now : Instant} {t u : Task} {c : StoreCall} {r : c.Reply}
    (h : Memory.Alters now t c r u) : u.updatedAt = now := by
  cases h <;> rfl

/-- Something happens `n` nanoseconds after the beginning, without a failure of the store. -/
def Happening.IsTimely (begun : Instant) (n : Nat) : Happening H → Prop
  | turn _ now _ fault => now.IsAt begun n ∧ fault = none
  | switch online => online = true
  | arrive _ | finish _ _ => True

instance (begun : Instant) (n : Nat) (x : Happening H) : Decidable (x.IsTimely begun n) :=
  match x with
  | .turn _ now _ fault => inferInstanceAs (Decidable (now.IsAt begun n ∧ fault = none))
  | .switch online => inferInstanceAs (Decidable (online = true))
  | .arrive _ | .finish _ _ => isTrue trivial

namespace Workshop

variable {w w' : Workshop H} {begun : Instant} {n : Nat}

/-- What was done on the way from one workshop to a later one, the last deed first. -/
def recent (w w' : Workshop H) : List (Deed H) :=
  w'.history.take (w'.history.length - w.history.length)

theorem recent_of_append (new : List (Deed H)) (h : w'.history = new ++ w.history) :
    w.recent w' = new := by
  unfold recent
  rw [h, List.length_append, Nat.add_sub_cancel, List.take_left]

theorem recent_ask (w : Workshop H) (i : Nat) (now : Instant) (fault : Option StoreError)
    (c : StoreCall) (next : c.Reply → Party H) : w.recent (w.ask i now fault c next) =
      (next (w.memory.answer now fault c).2).opening i ++
        [.call i w.memory c (w.memory.answer now fault c).2] := by
  refine recent_of_append _ ?_
  simp [ask]

/-- The history after a step: what was done in it, and what was done before. -/
theorem Step.history_eq (hs : w.Step w') : w'.history = w.recent w' ++ w.history := by
  obtain ⟨new, hnew, _⟩ := hs.dequeued
  rw [recent_of_append new hnew]
  exact hnew

/-- What can happen in a workshop at a time: nothing to the store, or one call. -/
inductive Clocked (begun : Instant) (n : Nat) (w : Workshop H) : Workshop H → Prop where
  | quiet {w' : Workshop H} (step : w.Step w') (same : w'.memory = w.memory)
      (untouched : ∀ id, ∀ d ∈ w.recent w', d.touches id = false)
      (sweeps : ∀ (i : Nat) (x : Sweep), w.parties[i]? = some (.sweep x) →
        w'.parties[i]? = some (.sweep x)) : Clocked begun n w w'
  | call {i : Nat} {p : Party H} {c : StoreCall} {next : c.Reply → Party H} {now : Instant}
      {fresh : TaskId} (reads : now.IsAt begun n) (stands : w.parties[i]? = some p)
      (asks : p.Asks now fresh c next) : Clocked begun n w (w.ask i now none c next)

theorem Clocked.step (h : Clocked begun n w w') : w.Step w' := by
  cases h with
  | quiet step _ _ _ => exact step
  | call _ stands asks => exact .ask none stands asks

/-- A party that is replaced by another was no sweep, so all sweeps are where they were. -/
theorem sweeps_of_set {i j : Nat} {p q : Party H} {x : Sweep} (hi : w.parties[i]? = some p)
    (hp : ∀ x, p ≠ .sweep x) (hj : w.parties[j]? = some (.sweep x)) :
    (w.parties.set i q)[j]? = some (.sweep x) := by
  have hne : i ≠ j := by
    rintro rfl
    rw [hi] at hj
    exact hp x (Option.some.inj hj)
  exact (List.getElem?_set_ne hne).trans hj

/-- A step in which nothing was done and no sweep moved. -/
theorem clocked_of_same (hs : w.Step w') (hm : w'.memory = w.memory)
    (hh : w'.history = w.history)
    (hsweeps : ∀ (i : Nat) (x : Sweep), w.parties[i]? = some (.sweep x) →
      w'.parties[i]? = some (.sweep x)) : Clocked begun n w w' := by
  refine .quiet hs hm ?_ hsweeps
  intro id d hd
  rw [recent_of_append [] hh] at hd
  cases hd

/-- What happens at a time in a store that is online. -/
theorem clocked_of_happening {x : Happening H} (h : x.IsTimely begun n)
    (hon : w.memory.online = true) : Clocked begun n w (w.step x) := by
  have hidle : Clocked begun n w w := clocked_of_same .idle rfl rfl fun _ _ hj => hj
  cases x with
  | arrive a =>
      refine clocked_of_same (.arrive a) rfl rfl fun i x hi => ?_
      have hlt : i < w.parties.length := (List.getElem?_eq_some_iff.1 hi).1
      exact (List.getElem?_append_left hlt).trans hi
  | switch online =>
      have honline : online = true := h
      refine clocked_of_same (.switch online) ?_ rfl fun _ _ hj => hj
      show { w.memory with online := online } = w.memory
      rw [honline, ← hon]
  | finish i outcome =>
      simp only [Workshop.step]
      split
      · next r t k hi =>
          refine .quiet (.handled outcome hi) rfl ?_ ?_
          · intro id d hd
            rw [recent_of_append [.ended i outcome] rfl, List.mem_singleton] at hd
            rw [hd]
            rfl
          · intro j x hj
            exact sweeps_of_set hi (fun _ h => by cases h) hj
      · exact hidle
  | turn i now fresh fault =>
      obtain ⟨hreads, rfl⟩ := h
      simp only [Workshop.step]
      split
      · exact hidle
      · next p hp =>
          cases hm : p.move now fresh with
          | call c next => exact .call hreads hp (Party.asks_of_move hm)
          | signal q =>
              obtain ⟨t, rfl, rfl⟩ := Party.signal_of_move hm
              refine clocked_of_same (.signal hp) rfl rfl ?_
              intro j x hj
              exact sweeps_of_set hp (fun _ h => by cases h) hj
          | rest => exact hidle

/-- The store stays online. -/
theorem Clocked.online (h : Clocked begun n w w') : w'.memory.online = w.memory.online := by
  cases h with
  | quiet _ same _ _ => rw [same]
  | @call i p c next now fresh reads stands asks =>
      show (w.memory.answer now none c).1.online = w.memory.online
      simp only [Memory.answer, Memory.exec]
      split <;> rfl

/-- A call that counts as a claim found its task queued, and stamped it. -/
theorem Clocked.claimed (h : Clocked begun n w w') {d : Deed H} (hd : d ∈ w.recent w')
    {id : TaskId} (hclaim : d.isClaimOf id = true) :
    (∃ t, w.memory.find? id = some t ∧ t.status = .queued) ∧
      ∃ u, w'.memory.find? id = some u ∧ u.updatedAt.IsAt begun n := by
  cases h with
  | quiet _ _ untouched _ =>
      have htouches := untouched id d hd
      rw [Deed.touches, hclaim] at htouches
      cases htouches
  | @call i p c next now fresh reads stands asks =>
      rw [recent_ask, List.mem_append, List.mem_singleton] at hd
      rcases hd with hopening | rfl
      · rw [isClaimOf_of_mem_opening hopening] at hclaim
        cases hclaim
      · obtain ⟨t, u, ht, hqueued, hu, hprocessing⟩ := claim_of_answer hclaim
        refine ⟨⟨t, ht, hqueued⟩, u, hu, ?_⟩
        rcases Memory.find?_answer ht now none c with hsame | ⟨v, hv, halters⟩
        · rw [hu] at hsame
          cases hsame
          rw [hqueued] at hprocessing
          cases hprocessing
        · rw [hu] at hv
          cases hv
          rw [halters.updatedAt]
          exact reads

/-- A task in processing, whose claim was made before a step, is as it was before the step. -/
theorem Step.still_claimed (hs : w.Step w') (hsound : w.Sound) {id : TaskId} {u : Task} {d : Deed H}
    (hu : w'.memory.find? id = some u) (hprocessing : u.status = .processing)
    (hd : d ∈ w.history) (hclaim : d.isClaimOf id = true) : w.memory.find? id = some u := by
  obtain ⟨t, ht, hleft⟩ := hsound.claims.left id d hd hclaim
  rcases hs.rewrites ht with hsame | ⟨i, v, hv, hrewrites⟩
  · rw [hu] at hsame
    cases hsame
    exact ht
  · rw [hu] at hv
    cases hv
    cases hrewrites with
    | claim _ _ queued _ => exact absurd queued hleft
    | @outcome _ _ v _ _ _ _ _ _ => cases v <;> cases hprocessing
    | cancel _ _ _ => cases hprocessing
    | sweep _ _ _ => cases hprocessing

/-- Who ended a task in a step stood where it asks the store; and a sweep that did so met the task
as stale. -/
theorem Clocked.ended (h : Clocked begun n w w') {d : Deed H} (hd : d ∈ w.recent w')
    {id : TaskId} (hends : d.ends id = true) :
    ∃ p, w.parties[d.party]? = some p ∧ ∀ x, p = .sweep x →
      ∃ cutoff t, x = .write cutoff ∧ w.memory.find? id = some t ∧
        Memory.isStale cutoff t = true := by
  cases h with
  | quiet _ _ untouched _ =>
      have htouches := untouched id d hd
      rw [Deed.touches, hends, Bool.or_true] at htouches
      cases htouches
  | @call i p c next now fresh reads stands asks =>
      rw [recent_ask, List.mem_append, List.mem_singleton] at hd
      rcases hd with hopening | rfl
      · rw [ends_of_mem_opening hopening] at hends
        cases hends
      · refine ⟨p, stands, ?_⟩
        rintro x rfl
        cases asks with
        | @sweep cutoff =>
            generalize (w.memory.answer now none _).2 = reply at hends
            rcases reply with _ | rows
            · cases hends
            · simp only [Deed.ends, Option.any_eq_true] at hends
              obtain ⟨t, ht, hstale⟩ := hends
              exact ⟨cutoff, t, rfl, ht, hstale⟩

/-- What a sweep leaves in processing is not stale. -/
theorem Clocked.swept (h : Clocked begun n w w') (hon : w.memory.online = true) {i : Nat}
    {cutoff : Instant} {r : Except StoreError Nat}
    (hi : w.parties[i]? = some (.sweep (.write cutoff)))
    (hi' : w'.parties[i]? = some (.sweep (.done r))) {id : TaskId} {u : Task}
    (hu : w'.memory.find? id = some u) (hprocessing : u.status = .processing) :
    Memory.isStale cutoff u = false := by
  cases h with
  | quiet _ _ _ sweeps =>
      rw [sweeps i _ hi] at hi'
      cases hi'
  | @call j p c next now fresh reads stands asks =>
      by_cases hij : j = i
      · subst hij
        rw [hi] at stands
        cases stands
        cases asks with
        | sweep =>
            have hstored : ((w.memory.find? id).map fun t =>
                if Memory.isStale cutoff t then
                  (Update.fail Sweep.timeoutMessage).apply t now else t) = some u := by
              rw [← Memory.find?_swept w.memory cutoff Sweep.timeoutMessage now id, ← hu]
              show _ = (w.memory.answer now none _).1.find? id
              simp only [Memory.answer]
              rw [Memory.exec_of_online hon]
              rfl
            obtain ⟨t, _, heq⟩ := Option.map_eq_some_iff.1 hstored
            split at heq
            · rw [← heq] at hprocessing
              cases hprocessing
            · next hfresh =>
                rw [← heq]
                exact Bool.not_eq_true _ ▸ hfresh
      · have hsame : (w.parties.set j (next (w.memory.answer now none c).2))[i]? =
            some (.sweep (.write cutoff)) := (List.getElem?_set_ne hij).trans hi
        rw [show (w.ask j now none c next).parties[i]? = _ from hsame] at hi'
        cases hi'

end Workshop

end Backlog
