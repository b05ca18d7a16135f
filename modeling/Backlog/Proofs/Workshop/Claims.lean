import Backlog.Proofs.Store.InFlight
import Backlog.Proofs.Workshop.Trail
/-!
# Claims, and the handlers that run on them

A claim changes a queued task, and no task becomes queued again.  So a claim that succeeded is the
only one its task will ever have (`Claims.once`), whoever polls or claims in between and whatever
becomes of the task; and the party that won it is settled (`Claims.same_party`).  A handler begins
only on the way from a won claim, once on every such way, so each task has at most one run of a
handler as well (`Claims.beginsOnce`).

## Main results

* `Claims.step` — the invariant, through everything that can happen.
* `Claims.holder_unique` — a task is held by the one attempt that claimed it.
-/

namespace Backlog

variable {H : Type}

/-- Two members of a list that meet a condition met at most once are the same. -/
theorem eq_of_countP_le_one {α : Type} {p : α → Bool} {l : List α} (h : l.countP p ≤ 1) {x y : α}
    (hx : x ∈ l) (hy : y ∈ l) (hpx : p x = true) (hpy : p y = true) : x = y := by
  rw [List.countP_eq_length_filter] at h
  have hxf : x ∈ l.filter p := List.mem_filter.2 ⟨hx, hpx⟩
  have hyf : y ∈ l.filter p := List.mem_filter.2 ⟨hy, hpy⟩
  cases hf : l.filter p with
  | nil =>
      rw [hf] at hxf
      cases hxf
  | cons a rest =>
      cases rest with
      | nil =>
          rw [hf, List.mem_singleton] at hxf hyf
          rw [hxf, hyf]
      | cons b rest =>
          rw [hf] at h
          simp only [List.length_cons] at h
          omega

/-- A call that counts as a claim found its task queued and left it in processing. -/
theorem claim_of_answer {m : Memory} {now : Instant} {fault : Option StoreError} {c : StoreCall}
    {i : Nat} {id : TaskId}
    (h : (Deed.call i m c (m.answer now fault c).2 : Deed H).isClaimOf id = true) :
    ∃ t u, m.find? id = some t ∧ t.status = .queued ∧
      (m.answer now fault c).1.find? id = some u ∧ u.status = .processing := by
  cases c with
  | updateIf j g u =>
      cases hr : (m.answer now fault (.updateIf j g u)).2 with
      | error e =>
          rw [hr] at h
          cases h
      | ok rows =>
          rw [hr] at h
          simp only [Deed.isClaimOf, Bool.and_eq_true, beq_iff_eq, decide_eq_true_eq] at h
          obtain ⟨⟨rfl, hu⟩, hrows⟩ := h
          obtain ⟨t, ht, hmay, ht'⟩ := Memory.updateIf_ok hr hrows
          refine ⟨t, _, ht, ?_, ht', hu⟩
          rw [Update.mayChange, Bool.and_eq_true, hu] at hmay
          cases hs : t.status <;> rw [hs] at hmay <;> first | rfl | cases hmay.2
  | _ => cases h

namespace Workshop

variable {w w' : Workshop H}

/-- What is true of claims and of the handlers that begin on them. -/
structure Claims (w : Workshop H) : Prop where
  once : ∀ id, w.history.countP (Deed.isClaimOf id) ≤ 1
  left : ∀ id, ∀ d ∈ w.history, d.isClaimOf id = true →
    ∃ u, w.memory.find? id = some u ∧ u.status ≠ .queued
  begun : ∀ (i : Nat) (t : Task) (k : H), .began i t k ∈ w.history →
    ∃ d ∈ w.history, d.party = i ∧ d.isClaimOf t.id = true
  beginsOnce : ∀ id, w.history.countP (Deed.isBeginOf id) ≤ 1

theorem claims_opened (m : Memory) : (opened m : Workshop H).Claims where
  once := by intro id; exact Nat.zero_le 1
  left := by intro id d hd; cases hd
  begun := by intro i t k hd; cases hd
  beginsOnce := by intro id; exact Nat.zero_le 1

/-- The claims of one task are all by one party. -/
theorem Claims.same_party (h : w.Claims) {id : TaskId} {d e : Deed H} (hd : d ∈ w.history)
    (he : e ∈ w.history) (hdc : d.isClaimOf id = true) (hec : e.isClaimOf id = true) :
    d.party = e.party := by
  rw [eq_of_countP_le_one (h.once id) hd he hdc hec]

theorem mem_of_mem_own {i : Nat} {d : Deed H} (h : d ∈ w.own i) : d ∈ w.history :=
  (List.mem_filter.1 h).1

/-- An attempt that holds a claimed task is the party that won the claim. -/
theorem Orderly.won (h : w.Orderly) {i : Nat} {r : Registry H} {a : Attempt H} {t : Task}
    (stands : w.parties[i]? = some (.attempt r a)) (ha : a.claimed? = some t) :
    ∃ d ∈ w.history, d.party = i ∧ d.isClaimOf t.id = true := by
  obtain ⟨d, hd, hwon⟩ := (h.trails i r a stands).won ha
  exact ⟨d, mem_of_mem_own hd, hwon⟩

/-- A task is held by the one attempt that claimed it. -/
theorem Claims.holder_unique (h : w.Claims) (ho : w.Orderly) {i j : Nat} {r s : Registry H}
    {a b : Attempt H} {t u : Task} (hi : w.parties[i]? = some (.attempt r a))
    (hj : w.parties[j]? = some (.attempt s b)) (ha : a.claimed? = some t)
    (hb : b.claimed? = some u) (hid : t.id = u.id) : i = j := by
  obtain ⟨d, hd, hdi, hdc⟩ := ho.won hi ha
  obtain ⟨e, he, hej, hec⟩ := ho.won hj hb
  rw [← hdi, ← hej]
  exact h.same_party hd he hdc (hid ▸ hec)

/-- A handler begins only on the way from the second look, and is that of the task's kind. -/
theorem Orderly.begins (h : w.Orderly) {i : Nat} {p : Party H} {c : StoreCall}
    {next : c.Reply → Party H} {now : Instant} {fresh : TaskId}
    (stands : w.parties[i]? = some p) (asks : p.Asks now fresh c next) {reply : c.Reply}
    {j : Nat} {t : Task} {k : H} (hmem : .began j t k ∈ (next reply).opening i) :
    j = i ∧ (next reply).opening i = [.began i t k] ∧
      ∃ r, Trail r i (.recheck t) (w.own i) := by
  cases hq : next reply with
  | attempt r b =>
      obtain ⟨a, rfl⟩ := Party.attempt_of_asks asks hq
      have htrail := (h.trails i r a stands).ask asks w.memory hq
      rw [hq] at hmem htrail
      cases b with
      | handle u k' =>
          simp only [Party.opening, List.mem_singleton, Deed.began.injEq] at hmem
          obtain ⟨rfl, rfl, rfl⟩ := hmem
          refine ⟨rfl, rfl, r, ?_⟩
          cases htrail with
          | handle before _ => exact before
      | _ => cases hmem
  | _ =>
      rw [hq] at hmem
      cases hmem

theorem Claims.of_eq (h : w.Claims) (hh : w'.history = w.history)
    (hm : w'.memory.tasks = w.memory.tasks) : w'.Claims where
  once := by rw [hh]; exact h.once
  left := by
    rw [hh]
    intro id d hd hdc
    obtain ⟨u, hu, hq⟩ := h.left id d hd hdc
    refine ⟨u, ?_, hq⟩
    rw [Memory.find?, hm]
    exact hu
  begun := by rw [hh]; exact h.begun
  beginsOnce := by rw [hh]; exact h.beginsOnce

theorem isClaimOf_of_mem_opening {i : Nat} {q : Party H} {d : Deed H} {id : TaskId}
    (h : d ∈ q.opening i) : d.isClaimOf id = false := by
  unfold Party.opening at h
  split at h
  · rw [List.mem_singleton] at h
    rw [h]
    rfl
  · cases h

/-- The claims after a call: those before it, and the call itself if it is one. -/
theorem countP_claims_ask (w : Workshop H) (i : Nat) (now : Instant) (fault : Option StoreError)
    (c : StoreCall) (next : c.Reply → Party H) (id : TaskId) :
    (w.ask i now fault c next).history.countP (Deed.isClaimOf id) =
      w.history.countP (Deed.isClaimOf id) +
        if (Deed.call i w.memory c (w.memory.answer now fault c).2 : Deed H).isClaimOf id = true
        then 1 else 0 := by
  have hnone : ((next (w.memory.answer now fault c).2).opening i).countP (Deed.isClaimOf id) =
      0 := by
    rw [List.countP_eq_zero]
    intro d hd
    rw [isClaimOf_of_mem_opening hd]
    exact Bool.false_ne_true
  simp only [ask]
  rw [List.countP_append, hnone, Nat.zero_add, List.countP_cons]

/-- The handlers begun after a call: those before it, and the one that begins on it. -/
theorem countP_begins_ask (w : Workshop H) (i : Nat) (now : Instant) (fault : Option StoreError)
    (c : StoreCall) (next : c.Reply → Party H) (id : TaskId) :
    (w.ask i now fault c next).history.countP (Deed.isBeginOf id) =
      ((next (w.memory.answer now fault c).2).opening i).countP (Deed.isBeginOf id) +
        w.history.countP (Deed.isBeginOf id) := by
  simp only [ask]
  rw [List.countP_append, List.countP_cons]
  rfl

/-- A task that is queued has not been claimed. -/
theorem Claims.unclaimed (h : w.Claims) {id : TaskId} {t : Task} (ht : w.memory.find? id = some t)
    (hq : t.status = .queued) : w.history.countP (Deed.isClaimOf id) = 0 := by
  rw [List.countP_eq_zero]
  intro d hd hdc
  obtain ⟨u, hu, hne⟩ := h.left id d hd hdc
  rw [ht] at hu
  cases hu
  exact hne hq

/-- Before the second look of the attempt that claimed a task, no handler has begun for it. -/
theorem Claims.unbegun (h : w.Claims) {i : Nat} {r : Registry H} {t : Task}
    (htrail : Trail r i (.recheck t) (w.own i)) :
    w.history.countP (Deed.isBeginOf t.id) = 0 := by
  rw [List.countP_eq_zero]
  intro d hd hdb
  cases d with
  | began j u k =>
      have hid : u.id = t.id := eq_of_beq hdb
      obtain ⟨e, he, hej, hec⟩ := h.begun j u k hd
      obtain ⟨e', he', hei, hec'⟩ := htrail.won rfl
      have hparty : j = i := by
        rw [← hej, ← hei]
        exact h.same_party he (mem_of_mem_own he') (hid ▸ hec) hec'
      have hown : .began j u k ∈ w.own i := List.mem_filter.2 ⟨hd, beq_iff_eq.2 hparty⟩
      exact htrail.not_began hown
  | _ => cases hdb

/-- One claim at most, through one call of the store. -/
theorem Claims.once_ask (h : w.Claims) (i : Nat) (now : Instant) (fault : Option StoreError)
    (c : StoreCall) (next : c.Reply → Party H) (id : TaskId) :
    (w.ask i now fault c next).history.countP (Deed.isClaimOf id) ≤ 1 := by
  rw [countP_claims_ask]
  split
  · next hclaim =>
      obtain ⟨t, _, ht, hq, _⟩ := claim_of_answer hclaim
      rw [h.unclaimed ht hq]
  · exact h.once id

/-- A claimed task is not queued, through one call of the store. -/
theorem Claims.left_ask (h : w.Claims) (i : Nat) (now : Instant) (fault : Option StoreError)
    (c : StoreCall) (next : c.Reply → Party H) (id : TaskId) (d : Deed H)
    (hd : d ∈ (w.ask i now fault c next).history) (hdc : d.isClaimOf id = true) :
    ∃ u, (w.ask i now fault c next).memory.find? id = some u ∧ u.status ≠ .queued := by
  simp only [Workshop.ask, List.mem_append, List.mem_cons] at hd
  rcases hd with hd | rfl | hd
  · rw [isClaimOf_of_mem_opening hd] at hdc
    cases hdc
  · obtain ⟨_, u, _, _, hu, hp⟩ := claim_of_answer hdc
    refine ⟨u, hu, ?_⟩
    rw [hp]
    exact Status.noConfusion
  · obtain ⟨t, ht, hne⟩ := h.left id d hd hdc
    obtain ⟨u, hu, hadv⟩ := Memory.advances_answer ht now fault c
    refine ⟨u, hu, ?_⟩
    intro hq
    rw [hadv.eq_of_queued hq] at hq
    exact hne hq

/-- One handler at most, through one call of the store. -/
theorem Claims.beginsOnce_ask (h : w.Claims) (ho : w.Orderly) {i : Nat} {p : Party H}
    {c : StoreCall} {next : c.Reply → Party H} {now : Instant} {fresh : TaskId}
    (fault : Option StoreError) (stands : w.parties[i]? = some p) (asks : p.Asks now fresh c next)
    (id : TaskId) : (w.ask i now fault c next).history.countP (Deed.isBeginOf id) ≤ 1 := by
  rw [countP_begins_ask]
  have hold := h.beginsOnce id
  by_cases hnew : ∃ j t k, .began j t k ∈ (next (w.memory.answer now fault c).2).opening i
  · obtain ⟨j, t, k, hmem⟩ := hnew
    obtain ⟨rfl, hopen, r, htrail⟩ := ho.begins stands asks hmem
    rw [hopen, List.countP_singleton]
    split
    · next hid =>
        have hzero := h.unbegun htrail
        rw [show t.id = id from eq_of_beq hid] at hzero
        omega
    · omega
  · have hzero : ((next (w.memory.answer now fault c).2).opening i).countP
        (Deed.isBeginOf id) = 0 := by
      rw [List.countP_eq_zero]
      intro d hd hdb
      cases d with
      | began j t k => exact hnew ⟨j, t, k, hd⟩
      | _ => cases hdb
    omega

/-- Claims, through one call of the store. -/
theorem Claims.ask (h : w.Claims) (ho : w.Orderly) {i : Nat} {p : Party H} {c : StoreCall}
    {next : c.Reply → Party H} {now : Instant} {fresh : TaskId} (fault : Option StoreError)
    (stands : w.parties[i]? = some p) (asks : p.Asks now fresh c next) :
    (w.ask i now fault c next).Claims where
  once := h.once_ask i now fault c next
  left := h.left_ask i now fault c next
  begun := by
    intro j t k hd
    have hgrows := (Step.ask fault stands asks).grows
    simp only [Workshop.ask, List.mem_append, List.mem_cons, reduceCtorEq, false_or] at hd
    rcases hd with hd | hd
    · obtain ⟨rfl, _, r, htrail⟩ := ho.begins stands asks hd
      obtain ⟨d, hmem, hwon⟩ := htrail.won rfl
      exact ⟨d, hgrows.history (mem_of_mem_own hmem), hwon⟩
    · obtain ⟨d, hmem, hwon⟩ := h.begun j t k hd
      exact ⟨d, hgrows.history hmem, hwon⟩
  beginsOnce := h.beginsOnce_ask ho fault stands asks

/-- Claims, through everything that can happen. -/
theorem Claims.step (hs : w.Step w') (ho : w.Orderly) (h : w.Claims) : w'.Claims := by
  cases hs with
  | idle => exact h
  | switch online => exact h.of_eq rfl rfl
  | arrive a => exact h.of_eq rfl rfl
  | signal stands => exact h.of_eq rfl rfl
  | ask fault stands asks => exact h.ask ho fault stands asks
  | handled outcome stands =>
      refine ⟨?_, ?_, ?_, ?_⟩
      · intro id
        simp only [Workshop.handled, List.countP_cons]
        exact h.once id
      · intro id d hd hdc
        simp only [Workshop.handled, List.mem_cons] at hd
        rcases hd with rfl | hd
        · cases hdc
        · exact h.left id d hd hdc
      · intro j t k hd
        simp only [Workshop.handled, List.mem_cons, reduceCtorEq, false_or] at hd
        obtain ⟨d, hmem, hwon⟩ := h.begun j t k hd
        exact ⟨d, List.mem_cons_of_mem _ hmem, hwon⟩
      · intro id
        simp only [Workshop.handled, List.countP_cons]
        exact h.beginsOnce id

end Workshop

end Backlog
