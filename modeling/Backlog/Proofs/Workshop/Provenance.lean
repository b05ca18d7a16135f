import Backlog.Proofs.Workshop.Sound
/-!
# Where outcomes come from

The store keeps of a finished task its result or its error, and nothing of who wrote it.  The
history of a workshop has the rest, and this module leads from the one to the other: behind every
outcome of a submitted task stands either the attempt that won the only claim of the task, with the
verdict on the one handler that ran for it, or a sweep.

The invariant is `Traced`.  It starts with the insert of a submission, which stores a queued task,
and of the writes that can follow only two leave an outcome.  The write of an attempt has the trail
of that attempt behind it, which ends in the verdict that is written (`Finished`); the write of a
sweep has the call of the sweep.  Both traces stay where they are, since the history only grows and
a terminal task is not touched again.

## Main results

* `Traced.step` — the invariant of one step.
* `Sound.runFor` — the trail of an attempt, as what its handler did.
* `accounted_after` — at most one claim and one handler for a task, and where its outcome is from.
-/

namespace Backlog

variable {H : Type}

namespace Workshop

variable {w w' : Workshop H}

/-- A task was stored under this identifier by an insert of a submission. -/
def Submitted (w : Workshop H) (id : TaskId) : Prop :=
  ∃ (i : Nat) (m : Memory) (t : Task), .call i m (.insert t) (.ok ()) ∈ w.history ∧ t.id = id

/-- An attempt on a stored task came to this verdict, and its trail is in the history. -/
def Finished (w : Workshop H) (u : Task) (v : Except String Json) : Prop :=
  ∃ (i : Nat) (r : Registry H) (t : Task) (own : List (Deed H)),
    (∃ a, w.parties[i]? = some (.attempt r a)) ∧ Trail r i (.complete t v) own ∧
      (∀ d ∈ own, d ∈ w.history) ∧ t.SameWork u

/-- Where the outcome of a stored task is from. -/
structure Explained (w : Workshop H) (u : Task) : Prop where
  succeeded : u.status = .succeeded → ∃ v, u.result = some v ∧ w.Finished u (.ok v)
  failed : u.status = .failed → ∃ e, u.error = some e ∧
    (w.Finished u (.error e) ∨ (e = Sweep.timeoutMessage ∧ w.TimedOut u.id))

/-- Submitted tasks are stored, and their outcomes explained. -/
def Traced (w : Workshop H) : Prop :=
  ∀ id, w.Submitted id → ∃ u, w.memory.find? id = some u ∧ w.Explained u

theorem Finished.mono {u : Task} {v : Except String Json} (h : w.Finished u v)
    (hg : w.Grows w') : w'.Finished u v := by
  obtain ⟨i, r, t, own, ⟨a, ha⟩, htrail, hown, hwork⟩ := h
  exact ⟨i, r, t, own, hg.attempts ha, htrail, fun d hd => hg.history (hown d hd), hwork⟩

theorem Explained.mono {u : Task} (h : w.Explained u) (hg : w.Grows w') : w'.Explained u where
  succeeded := by
    intro hs
    obtain ⟨v, hv, hfinished⟩ := h.succeeded hs
    exact ⟨v, hv, hfinished.mono hg⟩
  failed := by
    intro hf
    obtain ⟨e, he, hfinished | ⟨htext, htimeout⟩⟩ := h.failed hf
    · exact ⟨e, he, Or.inl (hfinished.mono hg)⟩
    · exact ⟨e, he, Or.inr ⟨htext, htimeout.mono hg⟩⟩

/-- A task with an outcome still to come has nothing to explain. -/
theorem explained_of_status {u : Task} (hs : u.status ≠ .succeeded) (hf : u.status ≠ .failed) :
    w.Explained u :=
  ⟨fun h => absurd h hs, fun h => absurd h hf⟩

/-- What counts as submitted after a step did so before it, or was just stored, queued. -/
theorem Step.submitted (hs : w.Step w') (ho : w.Orderly) {id : TaskId} (h : w'.Submitted id) :
    w.Submitted id ∨ ∃ t, w'.memory.find? id = some t ∧ t.status = .queued := by
  obtain ⟨j, m, t, hdeed, hid⟩ := h
  cases hs with
  | idle | switch _ | arrive _ | signal _ => exact Or.inl ⟨j, m, t, hdeed, hid⟩
  | handled outcome stands =>
      simp only [Workshop.handled, List.mem_cons, reduceCtorEq, false_or] at hdeed
      exact Or.inl ⟨j, m, t, hdeed, hid⟩
  | @ask i p c next now fresh fault stands asks =>
      simp only [Workshop.ask, List.mem_append, List.mem_cons] at hdeed
      rcases hdeed with hopen | hnew | hold
      · unfold Party.opening at hopen
        split at hopen <;> simp at hopen
      · have htaken : ∀ reply, (w.memory.answer now fault c).2 = reply →
            Deed.call j m (.insert t) (.ok ()) = (.call i w.memory c reply : Deed H) →
            c = .insert t ∧ (w.ask i now fault c next).memory.find? t.id = some t := by
          intro reply hr heq
          cases heq
          exact ⟨rfl, Memory.insert_ok hr⟩
        obtain ⟨hc, hstored⟩ := htaken _ rfl hnew
        refine Or.inr ⟨t, hid ▸ hstored, ?_⟩
        subst hc
        cases asks with
        | insert => exact ho.queued i _ t stands
      · exact Or.inl ⟨j, m, t, hold, hid⟩

/-- An outcome that an attempt writes is explained by its trail. -/
theorem Sound.finished (h : w.Sound) (hg : w.Grows w') {i : Nat} {r : Registry H} {s u : Task}
    {v : Except String Json} (stood : w.parties[i]? = some (.attempt r (.complete s v)))
    (hu : w.memory.find? s.id = some u) (now : Instant) :
    w'.Finished ((Attempt.verdictUpdate v).apply u now) v := by
  obtain ⟨u', hu', hwork⟩ := h.known stood rfl
  rw [hu] at hu'
  cases hu'
  refine ⟨i, r, s, w.own i, hg.attempts stood, h.orderly.trails i r _ stood, ?_, ?_⟩
  · intro d hd
    exact hg.history (mem_of_mem_own hd)
  · exact hwork.trans (Update.sameWork_apply _ u now)

/-- The invariant of one step. -/
theorem Traced.step (hs : w.Step w') (hw : w.Sound) (h : w.Traced) : w'.Traced := by
  intro id hsubmitted
  rcases hs.submitted hw.orderly hsubmitted with hold | ⟨t, ht, hq⟩
  · obtain ⟨u, hu, hexplained⟩ := h id hold
    have hid : u.id = id := (Memory.find?_some hu).2
    rcases hs.rewrites hu with hsame | ⟨i, v, hv, hrewrites⟩
    · exact ⟨u, hsame, hexplained.mono hs.grows⟩
    · refine ⟨v, hv, ?_⟩
      cases hrewrites with
      | claim _ _ _ _ => exact explained_of_status Status.noConfusion Status.noConfusion
      | cancel _ _ _ => exact explained_of_status Status.noConfusion Status.noConfusion
      | @outcome r s verdict now stood target _ _ _ =>
          have hfinished := hw.finished hs.grows stood (target ▸ hid ▸ hu) now
          cases verdict with
          | ok value => exact ⟨fun _ => ⟨value, rfl, hfinished⟩, Status.noConfusion⟩
          | error e => exact ⟨Status.noConfusion, fun _ => ⟨e, rfl, Or.inl hfinished⟩⟩
      | sweep _ deed stale =>
          refine ⟨Status.noConfusion, fun _ => ⟨_, rfl, Or.inr ?_⟩⟩
          refine ⟨rfl, i, _, _, _, u, deed, ?_, stale⟩
          rw [Update.id_apply, hid]
          exact hu
  · refine ⟨t, ht, explained_of_status ?_ ?_⟩ <;> rw [hq] <;> exact Status.noConfusion

theorem traced_opened (m : Memory) : (opened m : Workshop H).Traced := by
  intro id hsubmitted
  obtain ⟨_, _, _, hdeed, _⟩ := hsubmitted
  cases hdeed

/-- Both invariants after a run, from a store with any history of its own. -/
theorem traced_after (es : List StoreEvent) (xs : List (Happening H)) :
    ((opened (Memory.empty.after es)).after xs).Sound ∧
      ((opened (Memory.empty.after es)).after xs).Traced :=
  keeps_of_step (P := fun w => w.Sound ∧ w.Traced)
    (fun _ _ hs h => ⟨h.1.step hs, h.2.step hs h.1⟩)
    ⟨sound_opened (Memory.apart_after es), traced_opened _⟩ xs

/-! ## What the traces say -/

/-- Party `i` is an attempt of an engine with these handlers, and it won a claim of the task. -/
structure ClaimedBy (w : Workshop H) (id : TaskId) (i : Nat) (r : Registry H) : Prop where
  attempt : ∃ a, w.parties[i]? = some (.attempt r a)
  won : ∃ d ∈ w.history, d.party = i ∧ d.isClaimOf id = true

/-- The one handler that ever began for a task is the one registered for its kind; party `i` ran
it on the target of the task, and this is how it ended. -/
structure RunFor (w : Workshop H) (u : Task) (i : Nat) (r : Registry H)
    (outcome : HandlerOutcome) : Prop where
  began : ∃ t k, r.find? u.kind = some k ∧ .began i t k ∈ w.history ∧ t.id = u.id ∧
    t.target = u.target
  once : w.history.countP (Deed.isBeginOf u.id) = 1
  ended : .ended i outcome ∈ w.history
  only : ∀ o, .ended i o ∈ w.history → o = outcome

/-- A verdict that an attempt came to is that of the handler it ran, or says that there is none for
the kind of the task. -/
theorem Sound.runFor (h : w.Sound) {u : Task} {v : Except String Json} (hf : w.Finished u v) :
    ∃ i r, w.ClaimedBy u.id i r ∧
      ((∃ outcome, w.RunFor u i r outcome ∧ v = outcome.verdict) ∨
        (r.find? u.kind = none ∧ v = .error (TaskError.unknownKind u.kind.name).message)) := by
  obtain ⟨i, r, t, own, ⟨a, ha⟩, htrail, hown, hwork⟩ := hf
  obtain ⟨d, hd, hparty, hclaim⟩ := htrail.won rfl
  refine ⟨i, r, ⟨⟨a, ha⟩, d, hown d hd, hparty, hwork.id.symm ▸ hclaim⟩, ?_⟩
  rw [hwork.kind]
  rcases htrail.verdict with ⟨k, outcome, hk, hbegan, hended, hv⟩ | hmissing
  · refine Or.inl ⟨outcome, ⟨?_, ?_, hown _ hended, ?_⟩, hv⟩
    · exact ⟨t, k, hwork.kind.symm ▸ hk, hown _ hbegan, hwork.id.symm, hwork.target.symm⟩
    · have hpos : 0 < w.history.countP (Deed.isBeginOf u.id) := by
        rw [List.countP_pos_iff]
        exact ⟨_, hown _ hbegan, beq_iff_eq.2 hwork.id.symm⟩
      have hle := h.claims.beginsOnce u.id
      omega
    · intro o ho
      have hmine : ∀ o, .ended i o ∈ w.history → .ended i o ∈ w.own i := by
        intro o ho
        exact List.mem_filter.2 ⟨ho, beq_self_eq_true i⟩
      exact (h.orderly.trails i r a ha).ended_eq (hmine o ho) (hmine _ (hown _ hended))
  · exact Or.inr hmissing

/-- The write of an outcome concerns the task of the attempt alone. -/
theorem find?_of_outcome {i : Nat} {r : Registry H} {t : Task} {v : Except String Json}
    (stands : w.parties[i]? = some (.attempt r (.complete t v))) {id : TaskId} (hid : id ≠ t.id)
    (now : Instant) (fresh : TaskId) (fault : Option StoreError) :
    (w.step (.turn i now fresh fault)).memory.find? id = w.memory.find? id := by
  simp only [step, stands, Party.move, Attempt.move, Move.map, ask]
  exact Memory.find?_updateIf_of_ne hid w.memory now fault _ _

/-- Every claim, handler and outcome is accounted for. -/
structure Accounted (w : Workshop H) : Prop where
  claimedOnce : ∀ id, w.history.countP (Deed.isClaimOf id) ≤ 1
  begunOnce : ∀ id, w.history.countP (Deed.isBeginOf id) ≤ 1
  /-- A result was returned by the handler that the attempt with the claim ran. -/
  succeeded : ∀ id u, w.Submitted id → w.memory.find? id = some u → u.status = .succeeded →
    ∃ i r value, w.ClaimedBy id i r ∧ w.RunFor u i r (.returned value) ∧ u.result = some value
  /-- An error is from that handler, or from the lack of one, or from a sweep. -/
  failed : ∀ id u, w.Submitted id → w.memory.find? id = some u → u.status = .failed →
    ∃ e, u.error = some e ∧
      ((∃ i r, w.ClaimedBy id i r ∧
        ((∃ outcome, w.RunFor u i r outcome ∧ outcome.verdict = .error e) ∨
          (r.find? u.kind = none ∧ e = (TaskError.unknownKind u.kind.name).message))) ∨
        (w.TimedOut id ∧ e = "task processing timeout"))
  /-- An outcome is written to no task but the one whose handler ran. -/
  written : ∀ i r t v, w.parties[i]? = some (.attempt r (.complete t v)) →
    (∀ s k, .began i s k ∈ w.history → s = t) ∧
      ∀ now fresh fault id, id ≠ t.id →
        (w.step (.turn i now fresh fault)).memory.find? id = w.memory.find? id

/-- **At most one run of each task, and where its outcome is from.**  In every workshop, after
every run from a store with any history of its own. -/
theorem accounted_after (es : List StoreEvent) (xs : List (Happening H)) :
    ((opened (Memory.empty.after es)).after xs).Accounted := by
  obtain ⟨hsound, htraced⟩ := traced_after es xs
  refine ⟨hsound.claims.once, hsound.claims.beginsOnce, ?_, ?_, ?_⟩
  · intro id u hsubmitted hu hsucceeded
    obtain ⟨u', hu', hexplained⟩ := htraced id hsubmitted
    rw [hu] at hu'
    cases hu'
    obtain ⟨value, hvalue, hfinished⟩ := hexplained.succeeded hsucceeded
    obtain ⟨i, r, hclaimed, ⟨outcome, hrun, hv⟩ | ⟨_, hv⟩⟩ := hsound.runFor hfinished
    · rw [HandlerOutcome.verdict_eq_ok_iff.1 hv.symm] at hrun
      exact ⟨i, r, value, (Memory.find?_some hu).2 ▸ hclaimed, hrun, hvalue⟩
    · cases hv
  · intro id u hsubmitted hu hfailed
    obtain ⟨u', hu', hexplained⟩ := htraced id hsubmitted
    rw [hu] at hu'
    cases hu'
    have hid : u.id = id := (Memory.find?_some hu).2
    obtain ⟨e, he, hfinished | ⟨htext, htimeout⟩⟩ := hexplained.failed hfailed
    · refine ⟨e, he, Or.inl ?_⟩
      obtain ⟨i, r, hclaimed, hhandler⟩ := hsound.runFor hfinished
      refine ⟨i, r, hid ▸ hclaimed, ?_⟩
      rcases hhandler with ⟨outcome, hrun, hv⟩ | ⟨hmissing, hv⟩
      · exact Or.inl ⟨outcome, hrun, hv.symm⟩
      · exact Or.inr ⟨hmissing, Except.error.inj hv⟩
    · exact ⟨e, he, Or.inr ⟨hid ▸ htimeout, htext⟩⟩
  · intro i r t v stands
    refine ⟨?_, ?_⟩
    · intro s k hbegan
      have hmine : .began i s k ∈ ((opened (Memory.empty.after es)).after xs).own i :=
        List.mem_filter.2 ⟨hbegan, beq_self_eq_true i⟩
      exact (hsound.orderly.trails i r _ stands).began_eq rfl hmine
    · intro now fresh fault id hid
      exact find?_of_outcome stands hid now fresh fault

example : (((opened Memory.empty).after
    (.arrive (.submit invoiceForm) :: threeTurns 0 ⟨1, by decide⟩ ++
      .arrive (.attempt invoiceRegistry) :: threeTurns 1 ⟨0, by decide⟩ ++
      .finish 1 (.failed ["no text", "blank page"]) :: threeTurns 1 ⟨0, by decide⟩)).memory.find?
        ⟨1, by decide⟩).bind Task.error = some "no text: blank page" := by
  decide +kernel

end Workshop

end Backlog
