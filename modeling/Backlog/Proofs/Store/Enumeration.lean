import Backlog.Proofs.Store.Order
/-!
# Stores without an order of their own

A store keeps its tasks under their identifiers and promises nothing about the order in which it
comes across them when it looks for one.  The list of `Memory` is one such order, and this module
lets it change before every event of a history: `Reaches` relates a history to whatever stores it
can lead to, and `Rearranged` relates two stores that hold the same tasks.

The order is never seen.  A rearranged store answers every call with the very same reply, the text
of a conflict included, and goes on to a rearranged store (`Rearranged.exec`).  What this rests on
differs from call to call.  Reads go by the order of `Task.isBefore`, which has no ties between
tasks of different identifiers.  The collision of an insert names the first task in flight that it
meets under its key, and there is one alone, since the store keeps keys in flight apart.  Updates
and sweeps treat every task for itself.

## Main results

* `Rearranged.exec` — a call of a store and of the same store rearranged.
* `Reaches.rearranged` — what a history leads to, whatever the orders on the way.
* `answers_regardless_of_order` — the replies of a store, said without reference to an order.
-/

namespace Backlog

theorem SameReply.eq_of_ok {α : Type} {a : α} {s : Except StoreError α}
    (h : SameReply (.ok a) s) : s = .ok a := by
  cases h
  rfl

namespace Memory

/-- Two stores that hold the same tasks, in whatever order. -/
structure Rearranged (m n : Memory) : Prop where
  tasks : m.tasks.Perm n.tasks
  online : m.online = n.online

/-- A history can lead to a store, the order of its tasks being free before and after every
event. -/
inductive Reaches : List StoreEvent → Memory → Prop where
  | start : Reaches [] empty
  | meet {es : List StoreEvent} {m : Memory} (e : StoreEvent) (h : Reaches es m) :
      Reaches (es ++ [e]) (m.meet e)
  | rearrange {es : List StoreEvent} {m n : Memory} (h : Reaches es m) (hr : Rearranged m n) :
      Reaches es n

variable {m n o : Memory}

theorem Rearranged.refl (m : Memory) : Rearranged m m := ⟨.refl _, rfl⟩

theorem Rearranged.trans (h : Rearranged m n) (h' : Rearranged n o) : Rearranged m o :=
  ⟨h.tasks.trans h'.tasks, h.online.trans h'.online⟩

theorem Apart.perm {ts us : List Task} (h : Apart ts) (hp : ts.Perm us) : Apart us := by
  have hsymm : ∀ {t u : Task},
      (t.status.isActive = true → u.status.isActive = true → t.key ≠ u.key) →
        u.status.isActive = true → t.status.isActive = true → u.key ≠ t.key :=
    fun hne hu ht heq => hne ht hu heq.symm
  constructor
  · exact nodup_ids_of_perm h.ids hp
  · exact (hp.pairwise_iff hsymm).1 h.keys

/-! ## Calls -/

/-- A search for something that is there once at most does not depend on the order. -/
theorem find?_of_perm_of_unique {ts us : List Task} {p : Task → Bool} (hp : ts.Perm us)
    (hunique : ∀ t ∈ ts, ∀ u ∈ ts, p t = true → p u = true → t = u) :
    ts.find? p = us.find? p := by
  cases ht : ts.find? p with
  | none =>
      have hnone := List.find?_eq_none.1 ht
      exact (List.find?_eq_none.2 fun u hu => hnone u (hp.mem_iff.2 hu)).symm
  | some t =>
      have htp := List.find?_some ht
      have htm := List.mem_of_find?_eq_some ht
      cases hu : us.find? p with
      | none => exact absurd htp (List.find?_eq_none.1 hu t (hp.mem_iff.1 htm))
      | some u =>
          have hum := hp.mem_iff.2 (List.mem_of_find?_eq_some hu)
          rw [hunique t htm u hum htp (List.find?_some hu)]

/-- What keeps a task out of the store, and how that is told, does not depend on the order. -/
theorem collision?_of_perm (h : Apart m.tasks) (hp : m.tasks.Perm n.tasks) (t : Task) :
    m.collision? t = n.collision? t := by
  have hid : m.find? t.id = n.find? t.id := find?_of_perm h.ids hp t.id
  have hkey : m.inFlight? t.key = n.inFlight? t.key := by
    apply find?_of_perm_of_unique hp
    intro u hu v hv hut hvt
    rw [Bool.and_eq_true, WorkKey.isExact_iff_key_eq] at hut hvt
    exact h.eq_of_key hu hv hut.1 hvt.1 (hut.2.trans hvt.2.symm)
  rw [collision?, collision?, hid, hkey]

/-- The reply of an online store to a call does not depend on the order. -/
theorem perform_reply_of_perm (h : Apart m.tasks) (hp : m.tasks.Perm n.tasks) (now : Instant)
    (c : StoreCall) : (m.perform now c).2 = (n.perform now c).2 := by
  have hsame := (perform_of_perm h.ids hp now c).2
  cases c with
  | insert t =>
      -- the general statement leaves the text of a conflict open
      have hcollision := collision?_of_perm h hp t
      simp only [perform, hcollision]
      cases n.collision? t <;> rfl
  | _ => exact hsame.eq_of_ok.symm

/-- **A call of a rearranged store.**  The reply is the same, and the stores after it hold the same
tasks. -/
theorem Rearranged.exec (hr : Rearranged m n) (h : Apart m.tasks) (now : Instant)
    (c : StoreCall) :
    (m.exec now c).2 = (n.exec now c).2 ∧ Rearranged (m.exec now c).1 (n.exec now c).1 := by
  by_cases hon : m.online = true
  · have hon' : n.online = true := hr.online ▸ hon
    rw [exec_of_online hon, exec_of_online hon']
    constructor
    · exact perform_reply_of_perm h hr.tasks now c
    · exact ⟨(perform_of_perm h.ids hr.tasks now c).1, hr.online⟩
  · have hoff : m.online = false := eq_false_of_ne_true hon
    rw [exec_offline hoff, exec_offline (hr.online ▸ hoff)]
    exact ⟨rfl, hr⟩

theorem Rearranged.meet (hr : Rearranged m n) (h : Apart m.tasks) (e : StoreEvent) :
    Rearranged (m.meet e) (n.meet e) := by
  cases e with
  | call now c => exact (hr.exec h now c).2
  | switch online => exact ⟨hr.tasks, rfl⟩

/-! ## Histories -/

/-- Whatever the orders on the way, a history leads to the same tasks. -/
theorem Reaches.rearranged {es : List StoreEvent} (h : Reaches es n) :
    Rearranged (empty.after es) n := by
  induction h with
  | start => exact .refl empty
  | @meet es m e _ ih =>
      have hstep : empty.after (es ++ [e]) = (empty.after es).meet e := List.foldl_concat ..
      rw [hstep]
      exact ih.meet (apart_after es) e
  | rearrange _ hr ih => exact ih.trans hr

theorem Reaches.apart {es : List StoreEvent} (h : Reaches es n) : Apart n.tasks :=
  (apart_after es).perm h.rearranged.tasks

/-! ## Replies without an order -/

/-- The task with a property that comes before all others with it, or none if there is none. -/
def IsFirst (p : Task → Prop) : Option Task → Prop
  | none => ∀ t, ¬ p t
  | some t => p t ∧ ∀ u, p u → u ≠ t → t.isBefore u = true

/-- Of the tasks that meet a condition the first is found. -/
theorem isFirst_earliest? {ts : List Task} (hids : (ts.map Task.id).Nodup) {p : Task → Bool}
    {q : Task → Prop} (hq : ∀ t, q t ↔ t ∈ ts ∧ p t = true) :
    IsFirst q (earliest? (ts.filter p)) := by
  have hmem : ∀ t, q t ↔ t ∈ ts.filter p := fun t => (hq t).trans List.mem_filter.symm
  cases he : earliest? (ts.filter p) with
  | none =>
      intro t ht
      have htm := (hmem t).1 ht
      rw [earliest?_eq_none_iff.1 he] at htm
      cases htm
  | some t =>
      constructor
      · exact (hmem t).2 (mem_of_earliest? he)
      · intro u hu hne
        have hnot := not_isBefore_of_earliest? he u ((hmem u).1 hu)
        refine Task.isBefore_of_ne (fun hid => hne ?_) hnot
        exact List.inj_on_of_nodup_map hids ((hq u).1 hu).1
          ((hq t).1 ((hmem t).2 (mem_of_earliest? he))).1 hid.symm

/-- Tasks that are sorted and have different identifiers come one before the other. -/
theorem pairwise_isBefore_inOrder {ts : List Task} (hids : (ts.map Task.id).Nodup) :
    (inOrder ts).Pairwise fun a b => a.isBefore b = true := by
  have hne : (inOrder ts).Pairwise fun a b => a.id ≠ b.id :=
    List.pairwise_map.1 (nodup_ids_of_perm hids (inOrder_perm ts).symm)
  exact (pairwise_inOrder ts).imp₂ (fun a b hab hid => Task.isBefore_of_ne hid hab) hne

/-- A list that all listings of an owner's tasks, optionally of one status, are beginnings of. -/
structure Lists (m : Memory) (now : Instant) (owner : String) (status : Option Status)
    (mine : List Task) : Prop where
  ordered : mine.Pairwise fun a b => a.isBefore b = true
  nodup : mine.Nodup
  mem_iff : ∀ t, t ∈ mine ↔
    t ∈ m.tasks ∧ t.owner = owner ∧ ∀ s, status = some s → t.status = s
  reply : ∀ limit, (m.exec now (.listForOwner owner status limit)).2 = .ok (mine.take limit)
  length_take : ∀ limit, (mine.take limit).length = min limit mine.length
  take_prefix : ∀ less more, less ≤ more → mine.take less <+: mine.take more

/-- What a store answers, by the tasks it holds. -/
structure Answers (m : Memory) (now : Instant) : Prop where
  /-- A poll finds the first of the queued tasks. -/
  oldestQueued : ∃ first, (m.exec now .oldestQueued).2 = .ok first ∧
    IsFirst (fun t => t ∈ m.tasks ∧ t.status = .queued) first
  /-- A search finds the first task in flight that is the work of the key, its fingerprint compared
  if the key has one. -/
  findActive : ∀ k : WorkKey, ∃ first, (m.exec now (.findActive k)).2 = .ok first ∧
    IsFirst (fun t => t ∈ m.tasks ∧ t.status.isActive = true ∧ t.kind = k.kind ∧
      t.owner = k.owner ∧ t.target = k.target ∧
      (k.fingerprint = none ∨ t.fingerprint = k.fingerprint)) first
  /-- A listing is the beginning of one list, in which each task comes before the next. -/
  listForOwner : ∀ owner status, ∃ mine, Lists m now owner status mine

/-- The listings of an online store. -/
theorem lists_inOrder (hids : (m.tasks.map Task.id).Nodup) (hon : m.online = true)
    (now : Instant) (owner : String) (status : Option Status) :
    Lists m now owner status (inOrder (m.tasks.filter fun t =>
      t.owner == owner && (status.isNone || status == some t.status))) := by
  have hsorted := pairwise_isBefore_inOrder (nodup_ids_filter hids fun t =>
    t.owner == owner && (status.isNone || status == some t.status))
  constructor
  · exact hsorted
  · refine hsorted.imp fun {a b} hab heq => ?_
    rw [heq, Task.isBefore_irrefl] at hab
    cases hab
  · intro t
    rw [(inOrder_perm _).mem_iff, List.mem_filter]
    cases status with
    | none => simp
    | some s =>
        simp only [Option.isNone_some, Bool.false_or, Bool.and_eq_true, beq_iff_eq,
          Option.some.injEq, forall_eq']
        rw [@eq_comm _ s]
  · intro limit
    rw [exec_of_online hon]
    rfl
  · exact fun limit => List.length_take
  · exact fun less more hle => List.take_prefix_take_left hle

/-- What an online store answers is a matter of the tasks it holds. -/
theorem answers_of_online (hids : (m.tasks.map Task.id).Nodup) (hon : m.online = true)
    (now : Instant) : Answers m now where
  oldestQueued := by
    refine ⟨_, by rw [exec_of_online hon]; rfl, ?_⟩
    exact isFirst_earliest? hids fun t => by simp
  findActive := by
    intro k
    refine ⟨_, by rw [exec_of_online hon]; rfl, ?_⟩
    exact isFirst_earliest? hids fun t => by simp [WorkKey.finds_iff]
  listForOwner := fun owner status => ⟨_, lists_inOrder hids hon now owner status⟩

/-- **The order in which a store comes across its tasks is never seen.**  In every store that a
history leads to, whatever orders its tasks had on the way: while it is online, a poll and a search
answer with the first of the tasks they are about and a listing with the first ones in order; and
under every other order of the tasks each call is answered with the same reply, the text of a
conflict included, and leaves the same tasks behind. -/
theorem answers_regardless_of_order {es : List StoreEvent} (h : Reaches es m) (now : Instant) :
    (m.online = true → Answers m now) ∧
    Rearranged (empty.after es) m ∧
    ∀ n, Rearranged m n → ∀ c,
      (n.exec now c).2 = (m.exec now c).2 ∧ Rearranged (m.exec now c).1 (n.exec now c).1 := by
  refine ⟨?_, h.rearranged, ?_⟩
  · intro hon
    exact answers_of_online h.apart.ids hon now
  · intro n hr c
    obtain ⟨hreply, hafter⟩ := hr.exec h.apart now c
    exact ⟨hreply.symm, hafter⟩

/-- A payment to be recognised, queued at the same instant as the invoice. -/
def paymentTask : Task := { invoiceTask .queued with id := ⟨8, by decide⟩, kind := .paymentOcr }

/-- Two inserts. -/
def twoInserts : List StoreEvent :=
  [.call .epoch (.insert (invoiceTask .queued)), .call .epoch (.insert paymentTask)]

/-- Two tasks of one instant that are come across in the order opposite to that of their
inserts. -/
theorem answers_regardless_of_order_of_two :
    Reaches twoInserts ⟨[paymentTask, invoiceTask .queued], true⟩ ∧
    ((Memory.mk [paymentTask, invoiceTask .queued] true).online = true →
      Answers ⟨[paymentTask, invoiceTask .queued], true⟩ .epoch) ∧
    Rearranged (empty.after twoInserts) ⟨[paymentTask, invoiceTask .queued], true⟩ ∧
    ∀ n, Rearranged ⟨[paymentTask, invoiceTask .queued], true⟩ n → ∀ c,
      (n.exec .epoch c).2 =
        ((Memory.mk [paymentTask, invoiceTask .queued] true).exec .epoch c).2 ∧
      Rearranged ((Memory.mk [paymentTask, invoiceTask .queued] true).exec .epoch c).1
        (n.exec .epoch c).1 :=
  have hinserts : Reaches twoInserts ⟨[invoiceTask .queued, paymentTask], true⟩ :=
    .meet (.call .epoch (.insert paymentTask))
      (.meet (.call .epoch (.insert (invoiceTask .queued))) .start)
  have hreaches : Reaches twoInserts ⟨[paymentTask, invoiceTask .queued], true⟩ :=
    .rearrange hinserts ⟨.swap _ _ [], rfl⟩
  ⟨hreaches, answers_regardless_of_order hreaches .epoch⟩

end Memory

end Backlog
