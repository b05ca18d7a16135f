import Backlog.Proofs.Drain.Basic
import Mathlib.Logic.Function.Basic
/-!
# What becomes of tasks in a drain

A task of the store at the start can be in one of three states of a drain (`Fate`).  Nobody has
touched it; or it was queued, was claimed once and is held by a loop; or it was queued, was claimed
once and has ended.  Only two calls lead from one to the next, a claim that is won and an outcome
that is stored, and each rewrites a single task (`Rewrote`).  That the second finds its task as the
first left it is what the loops owe to one another: no two of them hold the same task
(`Fates.holders`), since a claim is won on a queued task and what is held is in processing.

Nothing in this depends on the points at which loops stand, so the invariant speaks of the store,
of the number of claims of each task, and of the task that each loop holds.

## Main results

* `Fates.won`, `Fates.stored` — the two calls that change something.
* `Course.move` — the invariant, through everything that can happen.
-/

namespace Backlog

variable {H : Type}

/-! ## One task is rewritten -/

/-- One task of a store was rewritten, and nothing else has changed. -/
structure Rewrote (m n : Memory) (t u : Task) : Prop where
  before : m.find? t.id = some t
  after : n.find? t.id = some u
  work : t.SameWork u
  others : ∀ id, id ≠ t.id → n.find? id = m.find? id
  apart : Memory.Apart n.tasks
  ids : n.tasks.map Task.id = m.tasks.map Task.id
  online : n.online = true

/-- An update that counts a row rewrites its task. -/
theorem rewrote_of_updateIf {m : Memory} (hon : m.online = true) (h : Memory.Apart m.tasks)
    {now : Instant} {id : TaskId} {g : Guard} {u : Update}
    (hr : (m.exec now (.updateIf id g u)).2 = .ok 1) :
    ∃ t, t.id = id ∧ u.mayChange g t = true ∧
      Rewrote m (m.exec now (.updateIf id g u)).1 t (u.apply t now) := by
  have hanswer : (m.answer now none (.updateIf id g u)).2 = .ok 1 := hr
  obtain ⟨t, ht, hmay, hafter⟩ := Memory.updateIf_ok hanswer Nat.one_pos
  have hid := (Memory.find?_some ht).2
  subst hid
  refine ⟨t, rfl, hmay, ht, hafter, Update.sameWork_apply u t now, ?_, ?_, ?_, ?_⟩
  · intro id hne
    exact Memory.find?_updateIf_of_ne hne m now none g u
  · exact h.effect (Memory.effect_exec m now _)
  · rw [Memory.exec_of_online hon]
    exact Memory.ids_updated _ _ _ _ _
  · rw [Memory.exec_of_online hon]
    exact hon

/-! ## The three fates -/

/-- What has become of a task that was stored at the start: `n` is the store by now, `claims` says
how often each task was claimed and `held` which task each loop holds. -/
inductive Fate (n : Memory) (claims : TaskId → Nat) (held : Nat → Option Task) (t : Task) : Prop where
  | untouched (same : n.find? t.id = some t) (unclaimed : claims t.id = 0)
  | held {j : Nat} {s u : Task} (was : t.status = .queued) (holds : held j = some s)
      (target : s.id = t.id) (stored : n.find? t.id = some u) (work : t.SameWork u)
      (once : claims t.id = 1)
  | ended {u : Task} (was : t.status = .queued) (stored : n.find? t.id = some u)
      (work : t.SameWork u) (outcome : u.status = .succeeded ∨ u.status = .failed)
      (once : claims t.id = 1)

/-- A task that is left alone keeps its fate. -/
theorem Fate.keep {n n' : Memory} {claims claims' : TaskId → Nat} {held held' : Nat → Option Task}
    {t : Task} (h : Fate n claims held t) (hsame : n'.find? t.id = n.find? t.id)
    (hclaims : claims' t.id = claims t.id)
    (hheld : ∀ k s, held k = some s → s.id = t.id → held' k = some s) :
    Fate n' claims' held' t := by
  cases h with
  | untouched same unclaimed => exact .untouched (hsame.trans same) (hclaims.trans unclaimed)
  | held was holds target stored work once =>
      exact .held was (hheld _ _ holds target) target (hsame.trans stored) work
        (hclaims.trans once)
  | ended was stored work outcome once =>
      exact .ended was (hsame.trans stored) work outcome (hclaims.trans once)

/-- What has become of all tasks that were stored at the start. -/
structure Fates (m n : Memory) (claims : TaskId → Nat) (held : Nat → Option Task) : Prop where
  online : n.online = true
  apart : Memory.Apart n.tasks
  ids : n.tasks.map Task.id = m.tasks.map Task.id
  /-- What is held was queued at the start, and is in processing. -/
  holds : ∀ j s, held j = some s → (∃ t ∈ m.tasks, t.id = s.id ∧ t.status = .queued) ∧
    ∃ u, n.find? s.id = some u ∧ u.status = .processing
  /-- No two loops hold one task. -/
  holders : ∀ j k s t, held j = some s → held k = some t → s.id = t.id → j = k
  fates : ∀ t ∈ m.tasks, Fate n claims held t

namespace Fates

variable {m n n' : Memory} {claims : TaskId → Nat} {held : Nat → Option Task} {j : Nat}
  {s t u u' : Task}

/-- Tasks at the start are told apart by their identifiers. -/
theorem eq_of_id (h : Fates m n claims held) (ht : t ∈ m.tasks) (hu : u ∈ m.tasks)
    (hid : t.id = u.id) : t = u :=
  List.inj_on_of_nodup_map (h.ids ▸ h.apart.ids) ht hu hid

/-- Nothing new is stored. -/
theorem of_stored (h : Fates m n claims held) {id : TaskId} (hu : n.find? id = some u) :
    ∃ t ∈ m.tasks, t.id = id := by
  obtain ⟨hmem, hid⟩ := Memory.find?_some hu
  have hids : u.id ∈ m.tasks.map Task.id := by
    rw [← h.ids]
    exact List.mem_map_of_mem hmem
  obtain ⟨t, ht, htu⟩ := List.mem_map.1 hids
  exact ⟨t, ht, htu.trans hid⟩

/-- A queued task was queued at the start, and nobody has touched it. -/
theorem of_queued (h : Fates m n claims held) {id : TaskId} (hu : n.find? id = some u)
    (hqueued : u.status = .queued) : u ∈ m.tasks ∧ claims id = 0 := by
  obtain ⟨t, ht, rfl⟩ := h.of_stored hu
  cases h.fates t ht with
  | untouched same unclaimed =>
      rw [hu] at same
      cases same
      exact ⟨ht, unclaimed⟩
  | held _ holds target stored _ _ =>
      obtain ⟨_, v, hv, hprocessing⟩ := h.holds _ _ holds
      rw [target, hu] at hv
      cases hv
      rw [hqueued] at hprocessing
      cases hprocessing
  | ended _ stored _ outcome _ =>
      rw [hu] at stored
      cases stored
      rw [hqueued] at outcome
      rcases outcome with outcome | outcome <;> cases outcome

/-- What is held is not queued. -/
theorem ne_of_held (h : Fates m n claims held) {k : Nat} (hk : held k = some t)
    (hu : n.find? s.id = some u) (hqueued : u.status = .queued) : t.id ≠ s.id := by
  intro hid
  obtain ⟨_, v, hv, hprocessing⟩ := h.holds k t hk
  rw [hid, hu] at hv
  cases hv
  rw [hqueued] at hprocessing
  cases hprocessing

/-- A loop wins the claim of a task. -/
theorem won (h : Fates m n claims held) (hj : held j = none) (hr : Rewrote n n' u u')
    (hid : u.id = s.id) (hqueued : u.status = .queued) (hprocessing : u'.status = .processing) :
    Fates m n' (fun id => claims id + if s.id = id then 1 else 0)
      (Function.update held j (some s)) := by
  have hbefore : n.find? s.id = some u := hid ▸ hr.before
  have hafter : n'.find? s.id = some u' := hid ▸ hr.after
  obtain ⟨hum, hunclaimed⟩ := h.of_queued hbefore hqueued
  have hheld : ∀ {k : Nat} {t : Task}, Function.update held j (some s) k = some t →
      (k = j ∧ t = s) ∨ (k ≠ j ∧ held k = some t ∧ t.id ≠ s.id) := by
    intro k t hk
    by_cases hkj : k = j
    · subst hkj
      rw [Function.update_self] at hk
      exact Or.inl ⟨rfl, (Option.some.inj hk).symm⟩
    · rw [Function.update_of_ne hkj] at hk
      exact Or.inr ⟨hkj, hk, h.ne_of_held hk hbefore hqueued⟩
  refine ⟨hr.online, hr.apart, hr.ids.trans h.ids, ?_, ?_, ?_⟩
  · intro k t hk
    rcases hheld hk with ⟨_, rfl⟩ | ⟨_, hold, hne⟩
    · exact ⟨⟨u, hum, hid, hqueued⟩, u', hafter, hprocessing⟩
    · obtain ⟨horigin, v, hv, hvp⟩ := h.holds k t hold
      exact ⟨horigin, v, (hr.others t.id (hid ▸ hne)).trans hv, hvp⟩
  · intro i k a b hi hk hab
    rcases hheld hi with ⟨rfl, rfl⟩ | ⟨_, hiold, hine⟩
    · rcases hheld hk with ⟨rfl, _⟩ | ⟨_, _, hkne⟩
      · rfl
      · exact absurd hab.symm hkne
    · rcases hheld hk with ⟨_, rfl⟩ | ⟨_, hkold, _⟩
      · exact absurd hab hine
      · exact h.holders i k a b hiold hkold hab
  · intro t ht
    by_cases hts : t.id = s.id
    · have htu : t = u := h.eq_of_id ht hum (hts.trans hid.symm)
      subst htu
      refine .held hqueued (Function.update_self j (some s) held) hts.symm hr.after hr.work ?_
      rw [if_pos hts.symm, hts, hunclaimed]
    · refine (h.fates t ht).keep (hr.others t.id (hid ▸ hts)) ?_ ?_
      · rw [if_neg (Ne.symm hts), Nat.add_zero]
      · intro k a hk _
        have hkj : k ≠ j := by
          rintro rfl
          rw [hj] at hk
          cases hk
        exact (Function.update_of_ne hkj _ _).trans hk

/-- A loop stores the outcome of the task it holds. -/
theorem stored (h : Fates m n claims held) (hj : held j = some s) (hr : Rewrote n n' u u')
    (hid : u.id = s.id) (houtcome : u'.status = .succeeded ∨ u'.status = .failed) :
    Fates m n' claims (Function.update held j none) := by
  have hbefore : n.find? s.id = some u := hid ▸ hr.before
  obtain ⟨⟨t₀, ht₀, hid₀, hqueued₀⟩, v, hv, hprocessing⟩ := h.holds j s hj
  rw [hbefore] at hv
  cases hv
  have hheld : ∀ {k : Nat} {t : Task}, Function.update held j none k = some t →
      k ≠ j ∧ held k = some t := by
    intro k t hk
    by_cases hkj : k = j
    · subst hkj
      rw [Function.update_self] at hk
      cases hk
    · exact ⟨hkj, (Function.update_of_ne hkj _ _).symm.trans hk⟩
  refine ⟨hr.online, hr.apart, hr.ids.trans h.ids, ?_, ?_, ?_⟩
  · intro k t hk
    obtain ⟨hkj, hold⟩ := hheld hk
    obtain ⟨horigin, v, hv, hvp⟩ := h.holds k t hold
    have hne : t.id ≠ s.id := fun heq => hkj (h.holders k j t s hold hj heq)
    exact ⟨horigin, v, (hr.others t.id (hid ▸ hne)).trans hv, hvp⟩
  · intro i k a b hi hk hab
    exact h.holders i k a b (hheld hi).2 (hheld hk).2 hab
  · intro t ht
    by_cases hts : t.id = s.id
    · have htt : t = t₀ := h.eq_of_id ht ht₀ (hts.trans hid₀.symm)
      subst htt
      have hafter : n'.find? t.id = some u' := by
        rw [hts, ← hid]
        exact hr.after
      cases h.fates t ht with
      | untouched same _ =>
          rw [hts, hbefore] at same
          cases same
          rw [hqueued₀] at hprocessing
          cases hprocessing
      | held was _ _ stored work once =>
          rw [hts, hbefore] at stored
          cases stored
          exact .ended was hafter (work.trans hr.work) houtcome once
      | ended _ stored _ outcome _ =>
          rw [hts, hbefore] at stored
          cases stored
          rw [hprocessing] at outcome
          rcases outcome with outcome | outcome <;> cases outcome
    · refine (h.fates t ht).keep (hr.others t.id (hid ▸ hts)) rfl ?_
      intro k a hk hat
      have hkj : k ≠ j := by
        rintro rfl
        rw [hj] at hk
        cases hk
        exact hts hat.symm
      exact (Function.update_of_ne hkj _ _).trans hk

end Fates

/-! ## The fates of a drain -/

namespace Drain

/-- How often a task was claimed. -/
def claims (d : Drain H) (id : TaskId) : Nat := d.history.countP (Deed.isClaimOf id)

/-- The task that a loop holds. -/
def held (d : Drain H) (j : Nat) : Option Task := d.loops[j]?.bind fun l => l.attempt.claimed?

variable {m : Memory} {d d' : Drain H} {j : Nat} {l : Loop H}

theorem claims_ask (d : Drain H) (j : Nat) (l : Loop H) (now : Instant) (c : StoreCall)
    (b : Attempt H) (id : TaskId) : (d.ask j l now c b).claims id = d.claims id +
      if (Deed.call j d.memory c (d.memory.exec now c).2 : Deed H).isClaimOf id = true
      then 1 else 0 := List.countP_cons

/-- A loop that goes on holds what it holds then. -/
theorem held_set (hl : d.loops[j]? = some l) {l' : Loop H} (hd : d'.loops = d.loops.set j l') :
    d'.held = Function.update d.held j l'.attempt.claimed? := by
  have hlt : j < d.loops.length := (List.getElem?_eq_some_iff.1 hl).1
  funext k
  by_cases hk : k = j
  · subst hk
    rw [Function.update_self, held, hd, List.getElem?_set_self hlt]
    rfl
  · rw [Function.update_of_ne hk, held, hd, List.getElem?_set_ne (Ne.symm hk)]
    rfl

/-- A loop that goes on with what it held. -/
theorem held_same (hl : d.loops[j]? = some l) {l' : Loop H} (hd : d'.loops = d.loops.set j l')
    (hsame : l'.attempt.claimed? = l.attempt.claimed?) : d'.held = d.held := by
  have hj : d.held j = l.attempt.claimed? := by
    rw [held, hl]
    rfl
  rw [held_set hl hd, hsame, ← hj, Function.update_eq_self]

/-- The fates of the tasks that a drain began with. -/
def Course (m : Memory) (d : Drain H) : Prop := Fates m d.memory d.claims d.held

theorem course_start (hon : m.online = true) (h : Memory.Apart m.tasks) (rs : List (Registry H)) :
    Course m (start m rs) := by
  have hheld : ∀ j, (start m rs).held j = none := by
    intro j
    rw [held, start, List.getElem?_map]
    cases rs[j]? <;> rfl
  refine ⟨hon, h, rfl, ?_, ?_, ?_⟩
  · intro j s hj
    rw [hheld] at hj
    cases hj
  · intro j k s t hj
    rw [hheld] at hj
    cases hj
  · intro t ht
    exact .untouched (h.find?_of_mem ht) rfl

/-- What is held is in processing. -/
theorem Course.holds (h : Course m d) (hmem : l ∈ d.loops) : l.attempt.Holds d.memory := by
  obtain ⟨j, hj⟩ := List.mem_iff_getElem?.1 hmem
  intro t ht
  refine (Fates.holds h j t ?_).2
  rw [held, hj]
  exact ht

/-- Nothing has become of any task. -/
theorem Course.quiet (h : Course m d) (hmemory : d'.memory = d.memory)
    (hclaims : ∀ id, d'.claims id = d.claims id) (hheld : d'.held = d.held) : Course m d' := by
  unfold Course
  rw [hmemory, hheld, funext hclaims]
  exact h

/-- A call that neither changes the store nor is a claim lets every task be. -/
theorem Course.quiet_ask (h : Course m d) (hl : d.loops[j]? = some l) {now : Instant}
    {c : StoreCall} {b : Attempt H} (hmemory : (d.memory.exec now c).1 = d.memory)
    (hclaim : ∀ id, (Deed.call j d.memory c (d.memory.exec now c).2 : Deed H).isClaimOf id = false)
    (hsame : b.claimed? = l.attempt.claimed?) : Course m (d.ask j l now c b) := by
  refine h.quiet hmemory ?_ (held_same hl rfl hsame)
  intro id
  rw [claims_ask, hclaim, if_neg Bool.false_ne_true, Nat.add_zero]

/-- What becomes of tasks by a call of an attempt. -/
theorem Course.call (h : Course m d) (hl : d.loops[j]? = some l) {now : Instant} {c : StoreCall}
    {b : Attempt H}
    (called : Called l.registry d.memory l.attempt c (d.memory.exec now c).2 b) :
    Course m (d.ask j l now c b) := by
  have hj : d.held j = l.attempt.claimed? := by
    rw [held, hl]
    rfl
  generalize hr : (d.memory.exec now c).2 = reply at called
  generalize ha : l.attempt = a at called
  cases called with
  | found _ _ | nothing _ =>
      refine h.quiet_ask hl (Memory.exec_lookup rfl d.memory now) (fun _ => rfl) ?_
      rw [ha]
      rfl
  | lost =>
      have hanswer : (d.memory.answer now none (.updateIf _ (Guard.status .queued)
        Update.claim)).2 = .ok 0 := hr
      refine h.quiet_ask hl ((Fates.apart h).updateIf_zero hanswer) ?_ ?_
      · intro id
        rw [hr]
        simp [Deed.isClaimOf]
      · rw [ha]
        rfl
  | dispatched =>
      refine h.quiet_ask hl (Memory.exec_lookup rfl d.memory now) (fun _ => rfl) ?_
      rw [ha]
      unfold Attempt.dispatch
      split <;> rfl
  | @won s =>
      obtain ⟨u, hid, hmay, hrewrote⟩ := rewrote_of_updateIf (Fates.online h) (Fates.apart h) hr
      have hwon := Fates.won h (hj.trans (by rw [ha]; rfl)) hrewrote hid
        (Workshop.status_of_mayChange hmay) rfl
      have hclaims : ∀ id, (d.ask j l now (.updateIf s.id (Guard.status .queued) Update.claim)
          (.recheck s)).claims id = d.claims id + if s.id = id then 1 else 0 := by
        intro id
        rw [claims_ask, hr]
        simp [Deed.isClaimOf, Update.claim]
      unfold Course
      rw [held_set hl rfl, funext hclaims]
      exact hwon
  | @stored s v x =>
      obtain ⟨u, hid, _, hrewrote⟩ := rewrote_of_updateIf (Fates.online h) (Fates.apart h) hr
      have houtcome : ((Attempt.verdictUpdate v).apply u now).status = .succeeded ∨
          ((Attempt.verdictUpdate v).apply u now).status = .failed := by
        cases v with
        | ok value => exact Or.inl rfl
        | error e => exact Or.inr rfl
      have hstored := Fates.stored h (hj.trans (by rw [ha]; rfl)) hrewrote hid houtcome
      have hclaims : ∀ id, (d.ask j l now (.updateIf s.id (Guard.status .processing)
          (Attempt.verdictUpdate v)) (.done (.ok (some x)))).claims id = d.claims id := by
        intro id
        rw [claims_ask, hr]
        cases v <;> simp [Deed.isClaimOf, Attempt.verdictUpdate, Update.succeed, Update.fail]
      unfold Course
      rw [held_set hl rfl, funext hclaims]
      exact hstored

/-- What becomes of tasks, through everything that can happen. -/
theorem Course.move (h : Course m d) (hm : d.Moves d') : Course m d' := by
  cases hm with
  | call stands called => exact h.call stands called
  | handled stands running outcome =>
      refine h.quiet rfl (fun _ => rfl) (held_same stands rfl ?_)
      rw [running]
      rfl
  | goOn stands ended =>
      refine h.quiet rfl (fun _ => rfl) (held_same stands rfl ?_)
      rw [ended]
      rfl

end Drain

end Backlog
